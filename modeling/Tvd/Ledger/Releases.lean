import Mathlib.Data.List.Basic
import Mathlib.Data.List.Nodup
import Mathlib.Data.List.Perm.Basic

/-! Releases of owned resources, read off a sequence of operations. Each operation may
release a resource or use one; the owner is right when everything owned is released,
once each, and nothing is used after it was released. -/

namespace Ledger

variable {ω β : Type}

/-- Nothing is used once it was released. -/
def UsedBefore (released used : ω → Option β) (ops : List ω) : Prop :=
  ops.Pairwise fun op later => ∀ b, released op = some b → used later ≠ some b

/-- What is owned is released once, and not used afterwards. -/
structure ReleasedOnce (released used : ω → Option β) (owned : List β) (ops : List ω) : Prop where
  perm : (ops.filterMap released).Perm owned
  nodup : (ops.filterMap released).Nodup
  used : UsedBefore released used ops

variable {released used : ω → Option β}

theorem usedBefore_append {ops ops' : List ω} :
    UsedBefore released used (ops ++ ops') ↔ UsedBefore released used ops ∧
      UsedBefore released used ops' ∧ ∀ b ∈ ops.filterMap released, b ∉ ops'.filterMap used := by
  unfold UsedBefore
  rw [List.pairwise_append]
  refine and_congr_right' (and_congr_right' ⟨fun h b hb hb' => ?_, fun h op hop later hlater b hb hb' => ?_⟩)
  · obtain ⟨op, hop, hrel⟩ := List.mem_filterMap.mp hb
    obtain ⟨later, hlater, huse⟩ := List.mem_filterMap.mp hb'
    exact h op hop later hlater b hrel huse
  · exact h b (List.mem_filterMap.mpr ⟨op, hop, hb⟩) (List.mem_filterMap.mpr ⟨later, hlater, hb'⟩)

/-- Operations that release none of what they use. -/
theorem usedBefore_of_disjoint {ops : List ω}
    (h : ∀ b ∈ ops.filterMap released, b ∉ ops.filterMap used) : UsedBefore released used ops := by
  refine List.pairwise_of_forall_mem_list fun op hop later hlater b hb hb' => ?_
  exact h b (List.mem_filterMap.mpr ⟨op, hop, hb⟩) (List.mem_filterMap.mpr ⟨later, hlater, hb'⟩)

end Ledger

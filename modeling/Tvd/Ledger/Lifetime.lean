import Mathlib.Data.Set.Insert

/-! Lifetimes of resources, read off a log whose newest entry comes first. An entry may
acquire a resource, use one and release one; what it acquires may depend on the log before
it, which numbers resources. A log is sound if only what is held is used and released, and
nothing is acquired that is held already. -/

namespace Ledger

/-- What the entries of a log do to resources. -/
structure Lifetime (α ρ : Type) where
  acquires : List α → α → Option ρ
  uses : α → ρ → Prop
  releases : α → Option ρ

namespace Lifetime

variable {α ρ : Type} (life : Lifetime α ρ)

/-- What is held once these entries were made. -/
def held : List α → Set ρ
  | [] => ∅
  | entry :: log => {r | life.acquires log entry = some r ∨ r ∈ held log ∧ life.releases entry ≠ some r}

/-- The entry may be made after these. -/
structure Allows (log : List α) (entry : α) : Prop where
  acquires : ∀ r, life.acquires log entry = some r → r ∉ life.held log
  uses : ∀ r, life.uses entry r → r ∈ life.held log
  releases : ∀ r, life.releases entry = some r → r ∈ life.held log

def Sound : List α → Prop
  | [] => True
  | entry :: log => life.Allows log entry ∧ Sound log

variable {life} {log : List α} {entry : α} {r : ρ}

theorem mem_held_cons : r ∈ life.held (entry :: log) ↔
    life.acquires log entry = some r ∨ r ∈ life.held log ∧ life.releases entry ≠ some r := Iff.rfl

/-- An entry that acquires and releases nothing leaves the same held. -/
theorem held_cons_of_none (hacquires : life.acquires log entry = none) (hreleases : life.releases entry = none) :
    life.held (entry :: log) = life.held log := by
  ext r
  rw [mem_held_cons, hacquires, hreleases]
  simp

/-! ### One entry after the other -/

/-- The log is sound, and this is what is held. -/
structure Holds (life : Lifetime α ρ) (log : List α) (held : Set ρ) : Prop where
  sound : life.Sound log
  held : life.held log = held

theorem holds_nil : life.Holds [] ∅ := ⟨trivial, rfl⟩

/-- An entry that only uses what is held. -/
theorem Holds.use {R : Set ρ} (h : life.Holds log R) (hacquires : life.acquires log entry = none)
    (hreleases : life.releases entry = none) (huses : ∀ r, life.uses entry r → r ∈ R) :
    life.Holds (entry :: log) R := by
  refine ⟨⟨⟨fun r hr => ?_, fun r hr => h.held ▸ huses r hr, fun r hr => ?_⟩, h.sound⟩,
    (held_cons_of_none hacquires hreleases).trans h.held⟩
  · rw [hacquires] at hr
    cases hr
  · rw [hreleases] at hr
    cases hr

theorem Holds.acquire {R : Set ρ} (h : life.Holds log R) (hacquires : life.acquires log entry = some r)
    (hfresh : r ∉ R) (huses : ∀ r, ¬life.uses entry r) (hreleases : life.releases entry = none) :
    life.Holds (entry :: log) (insert r R) := by
  refine ⟨⟨⟨fun r' hr' => ?_, fun r' hr' => absurd hr' (huses r'), fun r' hr' => ?_⟩, h.sound⟩, ?_⟩
  · rw [hacquires, Option.some.injEq] at hr'
    rw [h.held, ← hr']
    exact hfresh
  · rw [hreleases] at hr'
    cases hr'
  · ext r'
    rw [mem_held_cons, hacquires, hreleases, h.held, Set.mem_insert_iff, Option.some.injEq, eq_comm]
    simp

theorem Holds.release {R : Set ρ} (h : life.Holds log R) (hreleases : life.releases entry = some r)
    (hheld : r ∈ R) (huses : ∀ r, life.uses entry r → r ∈ R) (hacquires : life.acquires log entry = none) :
    life.Holds (entry :: log) (R \ {r}) := by
  refine ⟨⟨⟨fun r' hr' => ?_, fun r' hr' => h.held ▸ huses r' hr', fun r' hr' => ?_⟩, h.sound⟩, ?_⟩
  · rw [hacquires] at hr'
    cases hr'
  · rw [hreleases, Option.some.injEq] at hr'
    rw [h.held, ← hr']
    exact hheld
  · ext r'
    rw [mem_held_cons, hacquires, hreleases, h.held, Set.mem_sdiff, Set.mem_singleton_iff, Ne, Option.some.injEq,
      eq_comm (a := r)]
    simp

end Lifetime

end Ledger

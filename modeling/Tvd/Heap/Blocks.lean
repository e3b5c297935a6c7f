import Tvd.Dtv.Allocations
import Tvd.Heap.Programs
import Tvd.Ledger.Lifetime
import Mathlib.Order.Interval.Set.Basic

/-! The lifetime of heap blocks. A block is held from its allocation on, until a pointer
to it that was stored is freed, and is used where a function that releases records loads
from it; the records of the tuners own their array and one string each. -/

namespace Tvd

open Ledger

/-- A block is named by the length of the log before its allocation. -/
def HeapOp.blocks : Lifetime HeapOp ℕ where
  acquires log op := match op with
    | .malloc _ true => some log.length
    | .malloc _ false | .load _ | .free _ => none
  uses op block := op = .load block
  releases op := match op with
    | .free block => block
    | .malloc .. | .load _ => none

/-- The log is sound, and these are the blocks held. -/
abbrev Owns (log : List HeapOp) (R : Set ℕ) : Prop := HeapOp.blocks.Holds log R

variable {log : List HeapOp} {R : Set ℕ} {block array : ℕ}

theorem held_lt : ∀ {log : List HeapOp}, ∀ block ∈ HeapOp.blocks.held log, block < log.length := by
  intro log
  induction log with
  | nil => exact fun _ h => h.elim
  | cons op log ih =>
    intro block hblock
    rw [List.length_cons]
    rcases Lifetime.mem_held_cons.mp hblock with hnew | ⟨hold, -⟩
    · cases op with
      | malloc size ok =>
        cases ok with
        | false => cases hnew
        | true =>
          cases hnew
          omega
      | load | free => cases hnew
    · have := ih block hold
      omega

theorem Owns.lt (h : Owns log R) : ∀ block ∈ R, block < log.length := h.held ▸ held_lt

/-! ### One operation -/

theorem Owns.malloc (h : Owns log R) (size : ℕ) : Owns (.malloc size true :: log) (insert log.length R) :=
  h.acquire rfl (fun hmem => Nat.lt_irrefl _ (h.lt _ hmem)) (fun _ huse => by cases huse) rfl

theorem Owns.malloc_null (h : Owns log R) (size : ℕ) : Owns (.malloc size false :: log) R :=
  h.use rfl rfl fun _ huse => by cases huse

/-- The pointer that `malloc` returns, if it is not NULL, is to a block that is held. -/
theorem Owns.malloc_ptr (h : Owns log R) (size : ℕ) (ok : Bool) : Owns (.malloc size ok :: log)
    (R ∪ {block | (if ok = true then some log.length else none) = some block}) := by
  cases ok with
  | false =>
    have hset : R ∪ {block | (if false = true then some log.length else none) = some block} = R := by simp
    rw [hset]
    exact h.malloc_null size
  | true =>
    have hset : R ∪ {block | (if true = true then some log.length else none) = some block} =
        insert log.length R := by
      ext b
      simp [eq_comm]
    rw [hset]
    exact h.malloc size

theorem Owns.load (h : Owns log R) (hblock : block ∈ R) : Owns (.load block :: log) R := by
  refine h.use rfl rfl fun b huse => ?_
  cases huse
  exact hblock

theorem Owns.free (h : Owns log R) (hblock : block ∈ R) : Owns (.free (some block) :: log) (R \ {block}) :=
  h.release rfl hblock (fun _ huse => by cases huse) rfl

/-- A pointer that was never stored releases no block. -/
theorem Owns.free_unset (h : Owns log R) : Owns (.free none :: log) R :=
  h.use rfl rfl fun _ huse => by cases huse

/-! ### Allocations in a row -/

theorem Owns.allocated (h : Owns log R) (sizes : List ℕ) :
    Owns (allocated sizes ++ log) (R ∪ Set.Ico log.length (log.length + sizes.length)) := by
  induction sizes generalizing log R with
  | nil => simpa [Tvd.allocated] using h
  | cons size sizes ih =>
    have hrest := ih (h.malloc size)
    rw [allocated_cons, List.append_assoc]
    have hset : insert log.length R ∪ Set.Ico (log.length + 1) (log.length + 1 + sizes.length) =
        R ∪ Set.Ico log.length (log.length + (size :: sizes).length) := by
      ext b
      simp only [Set.mem_union, Set.mem_insert_iff, Set.mem_Ico, List.length_cons]
      constructor
      · rintro ((rfl | hb) | hb)
        · right; omega
        · exact .inl hb
        · right; omega
      · rintro (hb | hb)
        · exact .inl (.inr hb)
        · by_cases heq : b = log.length
          · exact .inl (.inl heq)
          · right; omega
    rw [← hset]
    exact hrest

/-! ### The record of a channel -/

/-- Its fields were never stored, so only the record itself is given back. -/
theorem Owns.releaseChannels (harray : array ∉ R) (h : Owns log (insert array R)) :
    Owns ((releaseChannels 1 (some ⟨array, []⟩)).reverse ++ log) R := by
  have hunset {log : List HeapOp} (hlog : Owns log (insert array R)) :
      Owns (.free none :: .load array :: log) (insert array R) :=
    (hlog.load (Set.mem_insert array R)).free_unset
  have hfreed := (hunset (hunset (hunset (hunset (hunset h))))).free (Set.mem_insert array R)
  rw [Set.insert_sdiff_self_of_notMem harray] at hfreed
  exact hfreed

/-! ### The records of the tuners -/

/-- The loads and frees of the loop. -/
def releaseRecords (array : ℕ) (records : List TvTuner) : List HeapOp :=
  records.flatMap fun tuner => freeFields array [tuner.id.block, tuner.supportedTypes.block]

theorem releaseTuners_eq {num : UInt32} {records : List TvTuner} (hnum : num.toNat = records.length)
    (array : ℕ) : releaseTuners num (some ⟨array, records⟩) =
      releaseRecords array records ++ [.free (some array)] := by
  have hmap := map_getD_range records TvTuner.unset
  rw [releaseTuners, hnum, releaseRecords]
  conv_rhs => rw [← hmap, List.flatMap_map]

theorem Owns.releaseRecords (harray : array ∈ R) (ids : List Int32) (hlt : ∀ b ∈ R, b < block)
    (h : Owns log (R ∪ Set.Ico block (block + ids.length))) :
    Owns ((releaseRecords array (tunerRecords block ids)).reverse ++ log) R := by
  induction ids generalizing log block with
  | nil =>
    simpa [tunerRecords, Tvd.releaseRecords] using h
  | cons id ids ih =>
    have hmem : array ∈ R ∪ Set.Ico block (block + (id :: ids).length) := .inl harray
    have hstring : block ∈ R ∪ Set.Ico block (block + (id :: ids).length) :=
      .inr ⟨le_rfl, by rw [List.length_cons]; omega⟩
    have hfreed := (h.load hmem).free hstring
    have hset : (R ∪ Set.Ico block (block + (id :: ids).length)) \ {block} =
        R ∪ Set.Ico (block + 1) (block + 1 + ids.length) := by
      ext b
      simp only [Set.mem_sdiff, Set.mem_union, Set.mem_Ico, Set.mem_singleton_iff, List.length_cons]
      constructor
      · rintro ⟨hb | hb, hne⟩
        · exact .inl hb
        · right; omega
      · rintro (hb | hb)
        · have := hlt b hb
          exact ⟨.inl hb, by omega⟩
        · exact ⟨.inr (by omega), by omega⟩
    rw [hset] at hfreed
    have hrest := ih (fun b hb => (hlt b hb).trans (Nat.lt_succ_self _)) (hfreed.load (.inl harray)).free_unset
    rw [tunerRecords, Tvd.releaseRecords, List.flatMap_cons, List.reverse_append, List.append_assoc]
    exact hrest

theorem tunerRecords_length (ids : List Int32) : ∀ block, (tunerRecords block ids).length = ids.length := by
  induction ids with
  | nil => exact fun _ => rfl
  | cons id ids ih => exact fun block => congrArg (· + 1) (ih (block + 1))

/-- Releasing the records gives back the array and the strings. -/
theorem Owns.releaseTuners {ids : List Int32} (hlen : ids.length < 2 ^ 32) (harray : array ∉ R)
    (hlt : ∀ b ∈ R, b < block) (hblock : array < block)
    (h : Owns log (insert array R ∪ Set.Ico block (block + ids.length))) :
    Owns ((releaseTuners (UInt32.ofNat ids.length) (some ⟨array, tunerRecords block ids⟩)).reverse ++ log) R := by
  have hnum : (UInt32.ofNat ids.length).toNat = (tunerRecords block ids).length := by
    rw [tunerRecords_length]
    exact UInt32.toNat_ofNat_of_lt' hlen
  have hall : ∀ b ∈ insert array R, b < block := by
    rintro b (rfl | hb)
    · exact hblock
    · exact hlt b hb
  have hfreed := (Owns.releaseRecords (Set.mem_insert array R) ids hall h).free (Set.mem_insert array R)
  rw [releaseTuners_eq hnum, List.reverse_append, List.append_assoc]
  rwa [Set.insert_sdiff_self_of_notMem harray] at hfreed

end Tvd

import Mathlib.Data.List.Count

/-! A log that numbers resources. The entry that creates a resource gives it the length
that the log had, and some later entries spend one. What is spent is counted; a number
that was not given yet was not spent, and a stretch of the log that spends only what was
created in it leaves the older counts alone. -/

namespace Ledger

variable {α : Type} (spends : α → Option ℕ)

/-- How often a resource was spent. -/
def spent (n : ℕ) (log : List α) : ℕ := log.countP fun entry => spends entry = some n

/-- Nothing is spent that was not created. -/
def Numbered (log : List α) : Prop := ∀ n, log.length ≤ n → spent spends n log = 0

/-- The log goes on from an older one, and has spent only what was created since. -/
structure Continues (base log : List α) : Prop where
  length : base.length ≤ log.length
  old : ∀ n < base.length, spent spends n log = spent spends n base
  numbered : Numbered spends log

variable {spends} {n m : ℕ} {entry : α} {base log log' : List α}

@[simp] theorem spent_nil : spent spends n [] = 0 := rfl

theorem spent_cons (n : ℕ) (entry : α) (log : List α) : spent spends n (entry :: log) =
    spent spends n log + if spends entry = some n then 1 else 0 := by
  unfold spent
  rw [List.countP_cons]
  simp

theorem spent_cons_of_ne (h : spends entry ≠ some n) :
    spent spends n (entry :: log) = spent spends n log := by
  rw [spent_cons, if_neg h, Nat.add_zero]

theorem spent_cons_self (h : spends entry = some n) :
    spent spends n (entry :: log) = spent spends n log + 1 := by
  rw [spent_cons, if_pos h]

/-- Entries that spend nothing. -/
theorem spent_append_of_none {more : List α} (hmore : ∀ entry ∈ more, spends entry = none) :
    spent spends n (more ++ log) = spent spends n log := by
  induction more with
  | nil => rfl
  | cons entry more ih =>
    have hentry : spends entry ≠ some n := by
      rw [hmore entry List.mem_cons_self]
      exact fun h => by cases h
    rw [List.cons_append, spent_cons_of_ne hentry]
    exact ih fun other hother => hmore other (List.mem_cons_of_mem _ hother)

theorem numbered_nil : Numbered spends [] := fun _ _ => rfl

/-- An entry may spend what was created before. -/
theorem Numbered.cons (h : Numbered spends log)
    (hentry : ∀ n, spends entry = some n → n < log.length) : Numbered spends (entry :: log) := by
  intro n hn
  rw [List.length_cons] at hn
  rw [spent_cons_of_ne, h n (by omega)]
  intro hspends
  have hlt := hentry n hspends
  omega

theorem Continues.refl (h : Numbered spends base) : Continues spends base base :=
  ⟨Nat.le_refl _, fun _ _ => rfl, h⟩

/-- An entry may spend what was created since. -/
theorem Continues.cons (h : Continues spends base log)
    (hentry : ∀ n, spends entry = some n → base.length ≤ n ∧ n < log.length) :
    Continues spends base (entry :: log) := by
  refine ⟨?_, fun n hn => ?_, h.numbered.cons fun n hspends => (hentry n hspends).2⟩
  · rw [List.length_cons]
    exact Nat.le_succ_of_le h.length
  · rw [spent_cons_of_ne, h.old n hn]
    intro hspends
    exact absurd hn (Nat.not_lt.mpr (hentry n hspends).1)

/-- An entry that spends nothing. -/
theorem Continues.keep (h : Continues spends base log) (hentry : spends entry = none) :
    Continues spends base (entry :: log) := by
  refine h.cons fun n hspends => ?_
  rw [hentry] at hspends
  cases hspends

theorem Continues.append (h : Continues spends base log) {more : List α}
    (hmore : ∀ entry ∈ more, spends entry = none) : Continues spends base (more ++ log) := by
  induction more with
  | nil => exact h
  | cons entry more ih =>
    have hrest := ih fun other hother => hmore other (List.mem_cons_of_mem _ hother)
    exact hrest.keep (hmore entry List.mem_cons_self)

/-- A resource that was created since can be spent. -/
theorem Continues.spend (h : Continues spends base log) (hentry : spends entry = some n)
    (hsince : base.length ≤ n) (hcreated : n < log.length) : Continues spends base (entry :: log) := by
  refine h.cons fun m hspends => ?_
  rw [hentry, Option.some_inj] at hspends
  subst hspends
  exact ⟨hsince, hcreated⟩

end Ledger

import Tvd.Exec.Basic
import Mathlib.Data.Nat.Basic

/-! Counting loops over an index. `forRange` runs a body for its effect,
`search` stops at the first index that passes a test, and `accumulate` threads a
value through the iterations and leaves the loop at the first iteration that has
none to give. Each rule states what one iteration does and concludes about the
whole loop. -/

namespace Exec

variable {ε σ τ α : Type}

/-- `for (; n iterations left; i++) body(i)`. -/
def forRange (body : ℕ → Exec ε σ Unit) : ℕ → ℕ → Exec ε σ Unit
  | 0, _ => pure ()
  | n + 1, i => do
    body i
    forRange body n (i + 1)

/-- The first of the `n` indices from `i` on that passes the test, or `i + n`. -/
def search (test : ℕ → Exec ε σ Bool) : ℕ → ℕ → Exec ε σ ℕ
  | 0, i => pure i
  | n + 1, i => do
    if ← test i then return i
    search test n (i + 1)

/-- Thread a value through `n` iterations from `i` on; `none` leaves the loop. -/
def accumulate (body : ℕ → α → Exec ε σ (Option α)) : ℕ → ℕ → α → Exec ε σ (Option α)
  | 0, _, a => pure (some a)
  | n + 1, i, a => do
    match ← body i a with
    | none => return none
    | some b => accumulate body n (i + 1) b

/-! ### Effect loops -/

theorem Closed.forRange {Q : (α : Type) → Exec ε σ α → Prop} (hQ : Closed Q)
    {body : ℕ → Exec ε σ Unit} (h : ∀ i, Q Unit (body i)) : ∀ n i, Q Unit (forRange body n i)
  | 0, _ => hQ.pure ()
  | n + 1, i => hQ.bind (h i) fun _ => hQ.forRange h n (i + 1)

/-- An invariant of a loop whose iterations all return. -/
theorem forRange_total {body : ℕ → Exec ε σ Unit} (inv : ℕ → σ → Prop) (n : ℕ) :
    ∀ (i : ℕ) (s : σ), inv i s → (∀ j t, i ≤ j → j < i + n → inv j t →
      ∃ u, body j t = .ok ((), u) ∧ inv (j + 1) u) →
      ∃ t, forRange body n i s = .ok ((), t) ∧ inv (i + n) t := by
  induction n with
  | zero => exact fun i s hi _ => ⟨s, rfl, hi⟩
  | succ n ih =>
    intro i s hi hbody
    obtain ⟨u, hu, hinv⟩ := hbody i s le_rfl (by omega) hi
    obtain ⟨t, ht, hlast⟩ := ih (i + 1) u hinv fun j v hij hjn hv => hbody j v (by omega) (by omega) hv
    refine ⟨t, by rw [forRange, bind_ok hu, ht], ?_⟩
    rwa [show i + (n + 1) = i + 1 + n by omega]

/-! ### Search loops -/

/-- A search whose tests only read returns the first index that passes, and
leaves the state alone. -/
theorem search_ok {test : ℕ → Exec ε σ Bool} {q : ℕ → Bool} {s : σ} (n : ℕ) :
    ∀ i, (∀ j, i ≤ j → j < i + n → test j s = .ok (q j, s)) →
      ∃ k, search test n i s = .ok (k, s) ∧ i ≤ k ∧ k ≤ i + n ∧
        (∀ j, i ≤ j → j < k → q j = false) ∧ (k < i + n → q k = true) := by
  induction n with
  | zero => exact fun i _ => ⟨i, rfl, le_rfl, le_rfl, fun j h₁ h₂ => by omega, fun h => by omega⟩
  | succ n ih =>
    intro i ht
    have hi := ht i le_rfl (by omega)
    cases hq : q i with
    | true =>
      refine ⟨i, ?_, le_rfl, by omega, fun j h₁ h₂ => by omega, fun _ => hq⟩
      rw [search, bind_ok hi, hq]
      rfl
    | false =>
      obtain ⟨k, hk, hik, hkn, hno, hyes⟩ := ih (i + 1) fun j h₁ h₂ => ht j (by omega) (by omega)
      refine ⟨k, ?_, by omega, by omega, fun j h₁ h₂ => ?_, fun h => hyes (by omega)⟩
      · rw [search, bind_ok hi, hq]
        exact hk
      · by_cases hj : j = i
        · rw [hj, hq]
        · exact hno j (by omega) h₂

theorem Closed.search {Q : (α : Type) → Exec ε σ α → Prop} (hQ : Closed Q)
    {test : ℕ → Exec ε σ Bool} (h : ∀ i, Q Bool (test i)) : ∀ n i, Q ℕ (search test n i)
  | 0, i => hQ.pure i
  | n + 1, i => hQ.bind (h i) fun _ => Closed.ite (hQ.pure i) (hQ.search h n (i + 1))

/-! ### Accumulating loops -/

theorem Closed.accumulate {Q : (α : Type) → Exec ε σ α → Prop} (hQ : Closed Q)
    {body : ℕ → α → Exec ε σ (Option α)} (h : ∀ i a, Q (Option α) (body i a)) :
    ∀ n i a, Q (Option α) (accumulate body n i a)
  | 0, _, a => hQ.pure (some a)
  | n + 1, i, a => hQ.bind (h i a) fun r => by
    cases r with
    | none => exact hQ.pure none
    | some b => exact hQ.accumulate h n (i + 1) b

/-- An invariant of the threaded value. -/
theorem accumulate_ensures {body : ℕ → α → Exec ε σ (Option α)} (inv : ℕ → α → σ → Prop) (n : ℕ) :
    ∀ (i : ℕ) (a : α) (s : σ), inv i a s →
      (∀ j b t, i ≤ j → j < i + n → inv j b t →
        Ensures (body j b) t (fun r u => ∀ c, r = some c → inv (j + 1) c u)) →
      Ensures (accumulate body n i a) s (fun r t => ∀ c, r = some c → inv (i + n) c t) := by
  induction n with
  | zero => intro i a s hi _; simpa [accumulate] using hi
  | succ n ih =>
    intro i a s hi hbody
    simp only [accumulate, ensures_bind]
    refine (hbody i a s le_rfl (by omega) hi).mono fun r t ht => ?_
    cases r with
    | none => simp
    | some b =>
      rw [show i + (n + 1) = i + 1 + n by omega]
      exact ih (i + 1) b t (ht b rfl) fun j c u hij hjn hu => hbody j c u (by omega) (by omega) hu

/-- An invariant of the threaded value where no iteration leaves the loop. -/
theorem accumulate_ensures_some {body : ℕ → α → Exec ε σ (Option α)} (inv : ℕ → α → σ → Prop)
    (n : ℕ) : ∀ (i : ℕ) (a : α) (s : σ), inv i a s →
      (∀ j b t, i ≤ j → j < i + n → inv j b t →
        Ensures (body j b) t (fun r u => ∃ c, r = some c ∧ inv (j + 1) c u)) →
      Ensures (accumulate body n i a) s (fun r t => ∃ c, r = some c ∧ inv (i + n) c t) := by
  induction n with
  | zero => intro i a s hi _; simpa [accumulate] using hi
  | succ n ih =>
    intro i a s hi hbody
    simp only [accumulate, ensures_bind]
    refine (hbody i a s le_rfl (by omega) hi).mono ?_
    rintro r t ⟨b, rfl, ht⟩
    rw [show i + (n + 1) = i + 1 + n by omega]
    exact ih (i + 1) b t ht fun j c u hij hjn hu => hbody j c u (by omega) (by omega) hu

/-- A fault that no iteration stops on. -/
theorem avoids_accumulate {e : ε} {body : ℕ → α → Exec ε σ (Option α)} (n : ℕ) :
    ∀ i a, (∀ j b, i ≤ j → j < i + n → Avoids e (body j b)) → Avoids e (accumulate body n i a) := by
  induction n with
  | zero => exact fun _ _ _ => avoids_pure _ _
  | succ n ih =>
    intro i a hbody
    refine (hbody i a le_rfl (by omega)).bind fun r => ?_
    cases r with
    | none => exact avoids_pure _ _
    | some b => exact ih (i + 1) b fun j c hij hjn => hbody j c (by omega) (by omega)

/-- A loop that walks over a list, leaves the state alone and never breaks is a
fold over the list. -/
theorem accumulate_foldlM {β : Type} (body : ℕ → α → Exec ε σ (Option α)) {l : List β}
    {f : α → β → Except ε α} {s : σ}
    (h : ∀ j (hj : j < l.length) a, body j a s = (f a l[j]).map fun b => (some b, s)) (n : ℕ) :
    ∀ i a, i + n = l.length →
      accumulate body n i a s = ((l.drop i).foldlM f a).map fun b => (some b, s) := by
  induction n with
  | zero =>
    intro i a hlen
    rw [List.drop_of_length_le (by omega)]
    rfl
  | succ n ih =>
    intro i a hlen
    have hi : i < l.length := by omega
    have hbody := h i hi a
    rw [List.drop_eq_getElem_cons hi, List.foldlM_cons, accumulate]
    cases hf : f a l[i] with
    | error e =>
      rw [hf] at hbody
      rw [bind_error hbody]
      rfl
    | ok b =>
      rw [hf] at hbody
      rw [bind_ok hbody]
      exact ih (i + 1) b (by omega)

/-- A loop that never breaks and returns has got through every iteration. -/
theorem accumulate_reaches {body : ℕ → α → Exec ε σ (Option α)}
    (hgo : ∀ j b t r, body j b t = .ok r → r.1 ≠ none) (n : ℕ) :
    ∀ i a s r, accumulate body n i a s = .ok r →
      ∀ j, i ≤ j → j < i + n → ∃ b t r, body j b t = .ok r := by
  induction n with
  | zero => intro i a s r _ j h₁ h₂; omega
  | succ n ih =>
    intro i a s r h j h₁ h₂
    obtain ⟨v, t, hbody, hrest⟩ := bind_eq_ok.mp h
    by_cases hj : j = i
    · subst hj
      exact ⟨a, s, _, hbody⟩
    · cases v with
      | none => exact absurd rfl (hgo i a s _ hbody)
      | some b => exact ih (i + 1) b t r hrest j (by omega) (by omega)

end Exec

import Tvd.Exec.Loop

/-! Code that records a trace beside its state. `Erases` says that a piece of code does
what another does, once its trace is forgotten, so that facts read off the trace are
facts about the code without it. -/

namespace Exec

variable {ε σ ι α β γ : Type}

/-- A state with the events recorded so far, oldest first. -/
structure Traced (ι σ : Type) where
  trace : List ι
  base : σ

namespace Traced

/-- The state without the trace. -/
def lens (ι σ : Type) : Lens (Traced ι σ) σ where
  get s := s.base
  set base s := { s with base }
  get_set _ _ := rfl
  set_get _ := rfl
  set_set _ _ _ := rfl

end Traced

def record (event : ι) : Exec ε (Traced ι σ) Unit :=
  modify fun s => { s with trace := s.trace ++ [event] }

/-- Code that records nothing. -/
def untraced (p : Exec ε σ α) : Exec ε (Traced ι σ) α := zoom (Traced.lens ι σ) p

/-- Without its trace `p` does what `q` does. -/
def Erases (p : Exec ε (Traced ι σ) α) (q : Exec ε σ α) : Prop :=
  ∀ s, (p s).map (fun r => (r.1, r.2.base)) = q s.base

theorem untraced_ensures {p : Exec ε σ α} {s : Traced ι σ} :
    Ensures (untraced p) s fun _ t => t.trace = s.trace := by
  unfold untraced
  rw [ensures_zoom]
  exact fun _ _ _ => rfl

theorem Avoids.untraced {e : ε} {p : Exec ε σ α} (h : Avoids e p) :
    Avoids e (Exec.untraced p : Exec ε (Traced ι σ) α) := h.zoom

namespace Erases

theorem pure (a : α) : Erases (pure a : Exec ε (Traced ι σ) α) (pure a) := fun _ => rfl

theorem lift (r : Except ε α) : Erases (Exec.lift r : Exec ε (Traced ι σ) α) (Exec.lift r) := by
  intro s
  cases r <;> rfl

theorem untraced (p : Exec ε σ α) : Erases (untraced p : Exec ε (Traced ι σ) α) p := by
  intro s
  unfold Exec.untraced zoom
  have hget : (Traced.lens ι σ).get s = s.base := rfl
  rw [hget]
  cases p s.base with
  | error e => rfl
  | ok r => rfl

theorem bind {p : Exec ε (Traced ι σ) α} {q : Exec ε σ α} {f : α → Exec ε (Traced ι σ) β}
    {g : α → Exec ε σ β} (hp : Erases p q) (hf : ∀ a, Erases (f a) (g a)) :
    Erases (p >>= f) (q >>= g) := by
  intro s
  have h := hp s
  cases hrun : p s with
  | error e =>
    rw [hrun] at h
    rw [bind_error hrun, bind_error h.symm]
    rfl
  | ok r =>
    obtain ⟨a, t⟩ := r
    rw [hrun] at h
    rw [bind_ok hrun, bind_ok h.symm]
    exact hf a t

/-- Recording an event makes no difference. -/
theorem record_bind (event : ι) {p : Exec ε (Traced ι σ) α} {q : Exec ε σ α} (h : Erases p q) :
    Erases (do record event; p) q := fun s => h { s with trace := s.trace ++ [event] }

/-- Code that only computes a value, a part at a time. -/
theorem bind_lift {p : Exec ε (Traced ι σ) α} {r : Except ε α} {f : α → Exec ε (Traced ι σ) β}
    {g : α → Except ε β} (hp : Erases p (Exec.lift r)) (h : ∀ a, Erases (f a) (Exec.lift (g a))) :
    Erases (p >>= f) (Exec.lift (r >>= g)) := by
  have hboth := hp.bind h
  cases r with
  | error e => exact hboth
  | ok a => exact hboth

theorem foldlM {f : α → β → Exec ε (Traced ι σ) α} {g : α → β → Except ε α}
    (h : ∀ a b, Erases (f a b) (Exec.lift (g a b))) (l : List β) :
    ∀ a, Erases (l.foldlM f a) (Exec.lift (l.foldlM g a)) := by
  induction l with
  | nil => exact fun a _ => rfl
  | cons b l ih =>
    intro a
    rw [List.foldlM_cons, List.foldlM_cons]
    exact (h a b).bind_lift ih

theorem accumulate {f : ℕ → α → Exec ε (Traced ι σ) (Option α)} {g : ℕ → α → Exec ε σ (Option α)}
    (h : ∀ i a, Erases (f i a) (g i a)) (n : ℕ) :
    ∀ i a, Erases (accumulate f n i a) (accumulate g n i a) := by
  induction n with
  | zero => exact fun i a => .pure (some a)
  | succ n ih =>
    intro i a
    refine (h i a).bind fun r => ?_
    cases r with
    | none => exact .pure none
    | some b => exact ih (i + 1) b

end Erases

end Exec

import Tvd.Exec.Basic

/-! Code that returns. Where a run ends in a fault is told from its parts: a sequence
returns if its first part does and the rest returns from there. -/

namespace Exec

variable {ε σ τ α β : Type} {p q : Exec ε σ α} {f : α → Exec ε σ β} {s t : σ} {a : α}

/-- The run of `p` from `s` returns. -/
def Returns (p : Exec ε σ α) (s : σ) : Prop := ∃ a t, p s = .ok (a, t)

theorem returns_of_ok (h : p s = .ok (a, t)) : Returns p s := ⟨a, t, h⟩

theorem not_returns_of_error {e : ε} (h : p s = .error e) : ¬Returns p s := by
  rintro ⟨a, t, hp⟩
  cases h.symm.trans hp

/-- Code that stops on no fault returns from every state. -/
theorem returns_of_avoids (h : ∀ e, Avoids e p) (s : σ) : Returns p s := exists_ok_of_avoids h s

theorem returns_pure (a : α) (s : σ) : Returns (pure a : Exec ε σ α) s := ⟨a, s, rfl⟩

theorem returns_modify (g : σ → σ) (s : σ) : Returns (modify g : Exec ε σ Unit) s := ⟨(), g s, rfl⟩

theorem returns_bind : Returns (p >>= f) s ↔ ∃ a t, p s = .ok (a, t) ∧ Returns (f a) t := by
  constructor
  · rintro ⟨b, u, h⟩
    obtain ⟨a, t, hp, hf⟩ := bind_eq_ok.mp h
    exact ⟨a, t, hp, b, u, hf⟩
  · rintro ⟨a, t, hp, b, u, hf⟩
    exact ⟨b, u, (bind_ok hp f).trans hf⟩

theorem returns_bind_ok (h : p s = .ok (a, t)) : Returns (p >>= f) s ↔ Returns (f a) t := by
  unfold Returns
  rw [bind_ok h]

/-- Where the rest returns anyway, only the first part matters. -/
theorem returns_bind_iff (hf : Ensures p s fun a t => Returns (f a) t) :
    Returns (p >>= f) s ↔ Returns p s := by
  rw [returns_bind]
  constructor
  · rintro ⟨a, t, hp, -⟩
    exact ⟨a, t, hp⟩
  · rintro ⟨a, t, hp⟩
    exact ⟨a, t, hp, hf a t hp⟩

theorem Returns.bind (hp : Returns p s) (hf : Ensures p s fun a t => Returns (f a) t) :
    Returns (p >>= f) s := (returns_bind_iff hf).mpr hp

theorem Returns.ite {c : Prop} [Decidable c] (hp : c → Returns p s) (hq : ¬c → Returns q s) :
    Returns (if c then p else q) s := by
  split
  · next hc => exact hp hc
  · next hc => exact hq hc

theorem returns_zoom {L : Lens σ τ} {p : Exec ε τ α} : Returns (zoom L p) s ↔ Returns p (L.get s) := by
  constructor
  · rintro ⟨a, t, h⟩
    obtain ⟨b, u, hp, -⟩ := zoom_eq_ok.mp h
    exact ⟨b, u, hp⟩
  · rintro ⟨a, t, h⟩
    exact ⟨a, _, zoom_ok h⟩

end Exec

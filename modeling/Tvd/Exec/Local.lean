import Tvd.Exec.Basic
import Mathlib.Logic.Function.Basic

/-! Code that acts on one component of the state. A view reads the state as a family
of components, and a function on one component says what the code returns and what
becomes of that component, while it leaves the others alone. Code that acts on
different components commutes. -/

namespace Exec

variable {ε σ κ γ α β : Type}

/-- Two outcomes that agree: the same fault, or the same result and related states. -/
inductive Agree (R : σ → σ → Prop) : Except ε (α × σ) → Except ε (α × σ) → Prop
  | error (e : ε) : Agree R (.error e) (.error e)
  | ok {a : α} {t u : σ} (h : R t u) : Agree R (.ok (a, t)) (.ok (a, u))

/-- Both orders have the same outcome. -/
def Commute (R : σ → σ → Prop) (p : Exec ε σ α) (q : Exec ε σ β) (s : σ) : Prop :=
  Agree R ((do let a ← p; let b ← q; return (a, b)) s) ((do let b ← q; let a ← p; return (a, b)) s)

theorem Agree.mono {R S : σ → σ → Prop} {x y : Except ε (α × σ)} (h : Agree R x y)
    (hRS : ∀ t u, R t u → S t u) : Agree S x y := by
  cases h with
  | error e => exact .error e
  | ok h => exact .ok (hRS _ _ h)

/-- From states with `I` the code returns to states with `I`; what it returns, and what it
makes of component `k`, are given by `f`, and the other components stay. -/
def Acts [DecidableEq κ] (I : σ → Prop) (view : σ → κ → γ) (k : κ) (p : Exec ε σ α)
    (f : γ → α × γ) : Prop :=
  ∀ s, I s → ∃ t, p s = .ok ((f (view s k)).1, t) ∧ I t ∧
    view t = Function.update (view s) k (f (view s k)).2

theorem Acts.commute [DecidableEq κ] {I : σ → Prop} {view : σ → κ → γ} {k l : κ} {p : Exec ε σ α}
    {q : Exec ε σ β} {f : γ → α × γ} {g : γ → β × γ} (hp : Acts I view k p f) (hq : Acts I view l q g)
    (hkl : k ≠ l) {s : σ} (hs : I s) :
    Commute (fun t u => I t ∧ I u ∧ view t = view u) p q s := by
  obtain ⟨s₁, hps, hs₁, hview₁⟩ := hp s hs
  obtain ⟨s₂, hqs₁, hs₂, hview₂⟩ := hq s₁ hs₁
  obtain ⟨s₃, hqs, hs₃, hview₃⟩ := hq s hs
  obtain ⟨s₄, hps₃, hs₄, hview₄⟩ := hp s₃ hs₃
  have hl : view s₁ l = view s l := by rw [hview₁, Function.update_of_ne hkl.symm]
  have hk : view s₃ k = view s k := by rw [hview₃, Function.update_of_ne hkl]
  rw [hl, hview₁] at hview₂
  rw [hk, hview₃] at hview₄
  rw [hl] at hqs₁
  rw [hk] at hps₃
  unfold Commute
  rw [bind_ok hps, bind_ok hqs₁, bind_ok hqs, bind_ok hps₃]
  refine .ok ⟨hs₂, hs₄, ?_⟩
  rw [hview₂, hview₄, Function.update_comm hkl]

/-- Where the second part stops on a fault, and the first stops on it too or leaves the
second to stop on it, both orders stop on it. -/
theorem commute_of_error {R : σ → σ → Prop} {e : ε} {p : Exec ε σ α} {q : Exec ε σ β} {s : σ}
    (hq : q s = .error e) (hp : p s = .error e ∨ ∃ a t, p s = .ok (a, t) ∧ q t = .error e) :
    Commute R p q s := by
  unfold Commute
  rw [bind_error hq]
  rcases hp with hp | ⟨a, t, hp, hq'⟩
  · rw [bind_error hp]
    exact .error e
  · rw [bind_ok hp, bind_error hq']
    exact .error e

end Exec

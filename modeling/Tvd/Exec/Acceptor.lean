import Tvd.Exec.Run

/-! Runs seen from outside. An acceptor takes observations one at a time, and may
refuse one. A transition relation refines it where what a step shows leads the acceptor
from what the state before stands for to what the state after does. -/

namespace Exec

variable {σ ι τ ο : Type} {next : τ → ο → Option τ} {s t : τ}

/-- Take the observations in turn, unless one is refused. -/
def accept (next : τ → ο → Option τ) (s : τ) (observations : List ο) : Option τ :=
  observations.foldlM next s

theorem accept_nil : accept next s [] = some s := rfl

theorem accept_cons (observation : ο) (observations : List ο) :
    accept next s (observation :: observations) =
      (next s observation).bind fun t => accept next t observations := rfl

theorem accept_append (past recent : List ο) : accept next s (past ++ recent) =
    (accept next s past).bind fun t => accept next t recent := List.foldlM_append

/-- The state between two parts of what is accepted. -/
theorem accept_append_eq_some {past recent : List ο} : accept next s (past ++ recent) = some t ↔
    ∃ u, accept next s past = some u ∧ accept next u recent = some t := by
  rw [accept_append, Option.bind_eq_some_iff]

theorem accept_cons_eq_some {observation : ο} {observations : List ο} :
    accept next s (observation :: observations) = some t ↔
      ∃ u, next s observation = some u ∧ accept next u observations = some t := by
  rw [accept_cons, Option.bind_eq_some_iff]

/-- What a run shows is accepted, if what each of its steps shows is. -/
theorem Run.accepted {R : σ → ι → σ → Prop} {abs : σ → τ} {observe : Transition σ ι → List ο} {a b : σ}
    {l : List (Transition σ ι)} (h : Run R a l b) (Inv : σ → Prop)
    (hkeep : ∀ a i b, R a i b → Inv a → Inv b)
    (hstep : ∀ a i b, R a i b → Inv a → accept next (abs a) (observe ⟨a, i, b⟩) = some (abs b))
    (ha : Inv a) : accept next (abs a) (l.flatMap observe) = some (abs b) := by
  induction h with
  | nil a => rfl
  | cons hfirst _ ih =>
    rw [List.flatMap_cons, accept_append_eq_some]
    exact ⟨_, hstep _ _ _ hfirst ha, ih (hkeep _ _ _ hfirst ha)⟩

/-- What the steps of a run add to a list. -/
theorem Run.collected {R : σ → ι → σ → Prop} {a b : σ} {l : List (Transition σ ι)} (h : Run R a l b)
    (Inv : σ → Prop) (value : σ → List ο) (added : Transition σ ι → List ο)
    (hkeep : ∀ a i b, R a i b → Inv a → Inv b)
    (hstep : ∀ a i b, R a i b → Inv a → value b = value a ++ added ⟨a, i, b⟩)
    (ha : Inv a) : value b = value a ++ l.flatMap added := by
  induction h with
  | nil a => rw [List.flatMap_nil, List.append_nil]
  | cons hfirst _ ih =>
    rw [List.flatMap_cons, ih (hkeep _ _ _ hfirst ha), hstep _ _ _ hfirst ha, List.append_assoc]

end Exec

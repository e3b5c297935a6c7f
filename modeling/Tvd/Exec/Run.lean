import Mathlib.Data.List.Basic
import Mathlib.Order.Basic

/-! Runs of a labelled transition relation. A run lists the transitions it
takes, so a statement about it can speak of the states reached and of the
steps taken. An invariant holds along a whole run once every step keeps it, and
where a property survives a step exactly under a condition on that step, it holds
in every state of a run exactly when every step of the run meets the condition. -/

namespace Exec

variable {σ ι : Type}

/-- One transition: the state before, the label, the state after. -/
structure Transition (σ ι : Type) where
  before : σ
  label : ι
  after : σ

/-- The transitions of a run from the first state to the second. -/
inductive Run (R : σ → ι → σ → Prop) : σ → List (Transition σ ι) → σ → Prop
  | nil (s : σ) : Run R s [] s
  | cons {s t u : σ} {i : ι} {l : List (Transition σ ι)} (hstep : R s i t) (hrest : Run R t l u) :
      Run R s (⟨s, i, t⟩ :: l) u

/-- Some run leads from the first state to the second. -/
def Reachable (R : σ → ι → σ → Prop) (s t : σ) : Prop := ∃ l, Run R s l t

namespace Run

variable {R : σ → ι → σ → Prop} {s t u : σ} {l m : List (Transition σ ι)}

theorem append (h₁ : Run R s l t) (h₂ : Run R t m u) : Run R s (l ++ m) u := by
  induction h₁ with
  | nil s => exact h₂
  | cons hstep _ ih => exact .cons hstep (ih h₂)

theorem single {i : ι} (h : R s i t) : Run R s [⟨s, i, t⟩] t := .cons h (.nil t)

/-- Every listed transition is a step of the relation. -/
theorem step_of_mem (h : Run R s l t) : ∀ x ∈ l, R x.before x.label x.after := by
  induction h with
  | nil s => intro x hx; cases hx
  | cons hstep _ ih =>
    intro x hx
    rcases List.mem_cons.mp hx with rfl | hx
    · exact hstep
    · exact ih x hx

/-- An invariant of the steps of a run holds in its last state. -/
theorem invariant {P : σ → Prop} (h : Run R s l t)
    (hkeep : ∀ x ∈ l, R x.before x.label x.after → P x.before → P x.after) (hs : P s) : P t := by
  induction h with
  | nil s => exact hs
  | cons hstep _ ih =>
    exact ih (fun x hx => hkeep x (List.mem_cons_of_mem _ hx))
      (hkeep _ List.mem_cons_self hstep hs)

/-- An invariant of the steps of a run holds before and after each transition. -/
theorem invariant_mem {P : σ → Prop} (h : Run R s l t)
    (hkeep : ∀ x ∈ l, R x.before x.label x.after → P x.before → P x.after) (hs : P s) :
    ∀ x ∈ l, P x.before ∧ P x.after := by
  induction h with
  | nil s => intro x hx; cases hx
  | cons hstep _ ih =>
    have ht := hkeep _ List.mem_cons_self hstep hs
    intro x hx
    rcases List.mem_cons.mp hx with rfl | hx
    · exact ⟨hs, ht⟩
    · exact ih (fun y hy => hkeep y (List.mem_cons_of_mem _ hy)) ht x hx

/-- Where a step keeps `Good` exactly under `Cond`, all states of a run are
good exactly when all its steps meet `Cond`. -/
theorem good_iff {Inv Good : σ → Prop} {Cond : σ → ι → σ → Prop} (h : Run R s l t)
    (hkeep : ∀ a i b, R a i b → Inv a → Inv b)
    (hgood : ∀ a i b, R a i b → Inv a → Good a → (Good b ↔ Cond a i b))
    (hinv : Inv s) (hs : Good s) :
    (∀ x ∈ l, Good x.after) ↔ ∀ x ∈ l, Cond x.before x.label x.after := by
  induction h with
  | nil s => simp
  | cons hstep _ ih =>
    have hiff := hgood _ _ _ hstep hinv hs
    rw [List.forall_mem_cons, List.forall_mem_cons, ← hiff]
    exact and_congr_right fun hg => ih (hkeep _ _ _ hstep hinv) hg

/-- What a step gains exactly under `Cond`, and never loses, is there after a run exactly
when it was there before or some step of the run met `Cond`. -/
theorem last_iff {Inv Good : σ → Prop} {Cond : σ → ι → Prop} (h : Run R s l t)
    (hkeep : ∀ a i b, R a i b → Inv a → Inv b)
    (hgain : ∀ a i b, R a i b → Inv a → (Good b ↔ Good a ∨ Cond a i)) (hinv : Inv s) :
    Good t ↔ Good s ∨ ∃ x ∈ l, Cond x.before x.label := by
  induction h with
  | nil s => simp
  | cons hstep _ ih => rw [ih (hkeep _ _ _ hstep hinv), hgain _ _ _ hstep hinv, or_assoc, List.exists_mem_cons_iff]

section

variable {β : Type} {Inv : σ → Prop} {value : σ → β}

/-- A value that no step lowers is highest in the last state. -/
theorem le_last [Preorder β] (h : Run R s l t) (hkeep : ∀ a i b, R a i b → Inv a → Inv b)
    (hle : ∀ a i b, R a i b → Inv a → value a ≤ value b) (hinv : Inv s) :
    value s ≤ value t ∧ ∀ x ∈ l, value x.after ≤ value t := by
  induction h with
  | nil s => exact ⟨le_rfl, fun x hx => absurd hx List.not_mem_nil⟩
  | cons hstep _ ih =>
    obtain ⟨hlast, hall⟩ := ih (hkeep _ _ _ hstep hinv)
    exact ⟨(hle _ _ _ hstep hinv).trans hlast, List.forall_mem_cons.mpr ⟨hlast, hall⟩⟩

/-- Where a step raises it exactly under `Cond`, it is the same after a run exactly when no
step of the run meets `Cond`. -/
theorem last_eq_iff [PartialOrder β] {Cond : σ → ι → σ → Prop} (h : Run R s l t)
    (hkeep : ∀ a i b, R a i b → Inv a → Inv b) (hle : ∀ a i b, R a i b → Inv a → value a ≤ value b)
    (heq : ∀ a i b, R a i b → Inv a → (value b = value a ↔ ¬Cond a i b)) (hinv : Inv s) :
    value t = value s ↔ ∀ x ∈ l, ¬Cond x.before x.label x.after := by
  induction h with
  | nil s => exact iff_of_true rfl fun x hx => absurd hx List.not_mem_nil
  | cons hstep hrest ih =>
    have hinv' := hkeep _ _ _ hstep hinv
    have hfirst := hle _ _ _ hstep hinv
    have hlast := (hrest.le_last hkeep hle hinv').1
    rw [List.forall_mem_cons, ← heq _ _ _ hstep hinv, ← ih hinv']
    constructor
    · intro hsame
      have hmid := le_antisymm (hlast.trans hsame.le) hfirst
      exact ⟨hmid, hsame.trans hmid.symm⟩
    · rintro ⟨hmid, hsame⟩
      exact hsame.trans hmid

end

/-- What is held and what was lost make up what was there, once they do so in every step. -/
theorem conserved {β : Type} (held : σ → List β) (gain lost : σ → ι → List β) (h : Run R s l t)
    (hstep : ∀ a i b, R a i b → (held b ++ lost a i).Perm (held a ++ gain a i)) :
    (held t ++ l.flatMap fun x => lost x.before x.label).Perm
      (held s ++ l.flatMap fun x => gain x.before x.label) := by
  induction h with
  | nil s => exact .refl _
  | @cons s b t i l hfirst _ ih =>
    rw [List.flatMap_cons, List.flatMap_cons]
    calc (held t ++ (lost s i ++ l.flatMap fun x => lost x.before x.label)).Perm
          (lost s i ++ (held t ++ l.flatMap fun x => lost x.before x.label)) := List.perm_append_comm_assoc _ _ _
      List.Perm _ (lost s i ++ (held b ++ l.flatMap fun x => gain x.before x.label)) := ih.append_left _
      List.Perm _ (held b ++ (lost s i ++ l.flatMap fun x => gain x.before x.label)) :=
        List.perm_append_comm_assoc _ _ _
      List.Perm _ (held s ++ (gain s i ++ l.flatMap fun x => gain x.before x.label)) := by
        rw [← List.append_assoc, ← List.append_assoc]
        exact (hstep s i b hfirst).append_right _

/-- Each transition meets a condition that depends on a value, and the value is carried
from one transition to the next. -/
def Follows {γ : Type} (Cond : γ → σ → ι → Prop) (next : γ → σ → ι → γ) :
    γ → List (Transition σ ι) → Prop
  | _, [] => True
  | g, x :: l => Cond g x.before x.label ∧ Follows Cond next (next g x.before x.label) l

/-- Where a step keeps `Good` exactly under a condition on the value carried along, and the
value is right as long as the condition is met, all states of a run are good exactly
when the run follows the condition. -/
theorem good_iff_follows {γ : Type} {Inv : γ → σ → Prop} {Good : σ → Prop}
    {Cond : γ → σ → ι → Prop} {next : γ → σ → ι → γ} (h : Run R s l t)
    (hgood : ∀ g a i b, R a i b → Inv g a → Good a → (Good b ↔ Cond g a i))
    (hkeep : ∀ g a i b, R a i b → Inv g a → Cond g a i → Inv (next g a i) b)
    {g : γ} (hinv : Inv g s) (hs : Good s) :
    (∀ x ∈ l, Good x.after) ↔ Follows Cond next g l := by
  induction h generalizing g with
  | nil s => simp [Follows]
  | cons hstep _ ih =>
    have hiff := hgood _ _ _ _ hstep hinv hs
    rw [List.forall_mem_cons, Follows, ← hiff]
    exact and_congr_right fun hg => ih (hkeep _ _ _ _ hstep hinv (hiff.mp hg)) hg

end Run

namespace Reachable

variable {R : σ → ι → σ → Prop} {s t u : σ}

theorem refl (s : σ) : Reachable R s s := ⟨[], .nil s⟩

theorem step {i : ι} (h : Reachable R s t) (hstep : R t i u) : Reachable R s u := by
  obtain ⟨l, hl⟩ := h
  exact ⟨_, hl.append (.single hstep)⟩

theorem invariant {P : σ → Prop} (h : Reachable R s t) (hkeep : ∀ a i b, R a i b → P a → P b)
    (hs : P s) : P t := by
  obtain ⟨l, hl⟩ := h
  exact hl.invariant (fun x _ => hkeep _ _ _) hs

end Reachable

/-! ### Runs of a function -/

/-- The transitions that a function makes of a list of labels. -/
def trace (next : σ → ι → σ) : σ → List ι → List (Transition σ ι)
  | _, [] => []
  | s, i :: labels => ⟨s, i, next s i⟩ :: trace next (next s i) labels

theorem label_mem_of_trace {next : σ → ι → σ} {labels : List ι} : ∀ {s : σ},
    ∀ x ∈ trace next s labels, x.label ∈ labels := by
  induction labels with
  | nil => intro s x hx; cases hx
  | cons i labels ih =>
    intro s x hx
    rcases List.mem_cons.mp hx with rfl | hx
    · exact List.mem_cons_self
    · exact List.mem_cons_of_mem _ (ih x hx)

/-- They are a run where the function makes steps. -/
theorem trace_run {R : σ → ι → σ → Prop} {P : σ → ι → Prop} {next : σ → ι → σ}
    (hstep : ∀ s i, P s i → R s i (next s i)) {labels : List ι} : ∀ {s : σ},
    (∀ x ∈ trace next s labels, P x.before x.label) →
      Run R s (trace next s labels) (labels.foldl next s) := by
  induction labels with
  | nil => intro s _; exact .nil s
  | cons i labels ih =>
    intro s h
    exact .cons (hstep s i (h _ List.mem_cons_self)) (ih fun x hx => h x (List.mem_cons_of_mem _ hx))

end Exec

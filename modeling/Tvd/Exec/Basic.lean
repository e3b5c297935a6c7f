import Mathlib.Logic.Basic

/-! Sequential code over a mutable state that may stop on a fault: a state
monad whose runs either return a value with a new state or abort. Partial
correctness is `Ensures`, a statement about the runs that return; an invariant of
code is `Preserves`, and framing is `Keeps`, a projection of the state that no
returning run changes. A lens embeds code over a part of the state into code over
the whole. -/

/-- Code over the state `σ` that returns an `α` or aborts with an `ε`. -/
def Exec (ε σ α : Type) := σ → Except ε (α × σ)

namespace Exec

variable {ε σ τ α β : Type}

instance : Monad (Exec ε σ) where
  pure a := fun s => .ok (a, s)
  bind p f := fun s => match p s with
    | .ok (a, t) => f a t
    | .error e => .error e

def get : Exec ε σ σ := fun s => .ok (s, s)

def modify (f : σ → σ) : Exec ε σ Unit := fun s => .ok ((), f s)

def throw (e : ε) : Exec ε σ α := fun _ => .error e

/-- Code that does not use the state. -/
def lift (r : Except ε α) : Exec ε σ α := fun s => match r with
  | .ok a => .ok (a, s)
  | .error e => .error e

/-! ### Evaluation -/

@[simp] theorem pure_apply (a : α) (s : σ) : (pure a : Exec ε σ α) s = .ok (a, s) := rfl

@[simp] theorem get_apply (s : σ) : (get : Exec ε σ σ) s = .ok (s, s) := rfl

@[simp] theorem modify_apply (f : σ → σ) (s : σ) : (modify f : Exec ε σ Unit) s = .ok ((), f s) :=
  rfl

@[simp] theorem throw_apply (e : ε) (s : σ) : (throw e : Exec ε σ α) s = .error e := rfl

@[simp] theorem lift_ok_apply (a : α) (s : σ) : (lift (.ok a) : Exec ε σ α) s = .ok (a, s) := rfl

@[simp] theorem lift_error_apply (e : ε) (s : σ) : (lift (.error e) : Exec ε σ α) s = .error e :=
  rfl

theorem bind_apply (p : Exec ε σ α) (f : α → Exec ε σ β) (s : σ) :
    (p >>= f) s = match p s with
      | .ok (a, t) => f a t
      | .error e => .error e := rfl

theorem bind_ok {p : Exec ε σ α} {s t : σ} {a : α} (h : p s = .ok (a, t)) (f : α → Exec ε σ β) :
    (p >>= f) s = f a t := by
  rw [bind_apply, h]

theorem bind_error {p : Exec ε σ α} {s : σ} {e : ε} (h : p s = .error e) (f : α → Exec ε σ β) :
    (p >>= f) s = .error e := by
  rw [bind_apply, h]

@[simp] theorem pure_bind_apply (a : α) (f : α → Exec ε σ β) (s : σ) :
    ((pure a : Exec ε σ α) >>= f) s = f a s := rfl

@[simp] theorem get_bind_apply (f : σ → Exec ε σ β) (s : σ) : (get >>= f) s = f s s := rfl

@[simp] theorem modify_bind_apply (g : σ → σ) (f : Unit → Exec ε σ β) (s : σ) :
    (modify g >>= f) s = f () (g s) := rfl

@[simp] theorem throw_bind_apply (e : ε) (f : α → Exec ε σ β) (s : σ) :
    ((throw e : Exec ε σ α) >>= f) s = .error e := rfl

theorem bind_assoc {γ : Type} (p : Exec ε σ α) (f : α → Exec ε σ β) (g : β → Exec ε σ γ) :
    (p >>= f) >>= g = p >>= fun a => f a >>= g := by
  funext s
  rw [bind_apply, bind_apply, bind_apply]
  cases p s with
  | ok r => rfl
  | error e => rfl

theorem pure_bind (a : α) (f : α → Exec ε σ β) : (pure a : Exec ε σ α) >>= f = f a := rfl

theorem bind_pure (p : Exec ε σ α) : p >>= pure = p := by
  funext s
  rw [bind_apply]
  cases p s with
  | ok r => rfl
  | error e => rfl

/-- Values computed one after the other. -/
theorem lift_bind (r : Except ε α) (f : α → Except ε β) :
    (lift (r >>= f) : Exec ε σ β) = lift r >>= fun a => lift (f a) := by
  cases r <;> rfl

/-- A returning sequence is a returning first part and a returning rest. -/
theorem bind_eq_ok {p : Exec ε σ α} {f : α → Exec ε σ β} {s : σ} {r : β × σ} :
    (p >>= f) s = .ok r ↔ ∃ a t, p s = .ok (a, t) ∧ f a t = .ok r := by
  rw [bind_apply]
  cases h : p s with
  | error e => simp
  | ok v =>
    obtain ⟨a, t⟩ := v
    simp [and_assoc]

/-! ### Partial correctness -/

/-- Every run of `p` from `s` that returns satisfies `Q`. -/
def Ensures (p : Exec ε σ α) (s : σ) (Q : α → σ → Prop) : Prop :=
  ∀ a t, p s = .ok (a, t) → Q a t

theorem Ensures.mono {p : Exec ε σ α} {s : σ} {P Q : α → σ → Prop} (h : Ensures p s P)
    (hPQ : ∀ a t, P a t → Q a t) : Ensures p s Q :=
  fun a t hr => hPQ a t (h a t hr)

theorem Ensures.and {p : Exec ε σ α} {s : σ} {P Q : α → σ → Prop} (hP : Ensures p s P)
    (hQ : Ensures p s Q) : Ensures p s (fun a t => P a t ∧ Q a t) :=
  fun a t hr => ⟨hP a t hr, hQ a t hr⟩

@[simp] theorem ensures_pure {a : α} {s : σ} {Q : α → σ → Prop} :
    Ensures (pure a : Exec ε σ α) s Q ↔ Q a s := by
  simp [Ensures]

@[simp] theorem ensures_get {s : σ} {Q : σ → σ → Prop} :
    Ensures (get : Exec ε σ σ) s Q ↔ Q s s := by
  simp [Ensures]

@[simp] theorem ensures_modify {f : σ → σ} {s : σ} {Q : Unit → σ → Prop} :
    Ensures (modify f : Exec ε σ Unit) s Q ↔ Q () (f s) :=
  ⟨fun h => h () _ rfl, fun h _ _ hr => by cases hr; exact h⟩

@[simp] theorem ensures_throw {e : ε} {s : σ} {Q : α → σ → Prop} :
    Ensures (throw e : Exec ε σ α) s Q ↔ True := by
  simp [Ensures]

@[simp] theorem ensures_lift {r : Except ε α} {s : σ} {Q : α → σ → Prop} :
    Ensures (lift r : Exec ε σ α) s Q ↔ ∀ a, r = .ok a → Q a s := by
  cases r with
  | ok a => simp [Ensures]
  | error e => simp [Ensures]

@[simp] theorem ensures_bind {p : Exec ε σ α} {f : α → Exec ε σ β} {s : σ} {Q : β → σ → Prop} :
    Ensures (p >>= f) s Q ↔ Ensures p s (fun a t => Ensures (f a) t Q) := by
  constructor
  · intro h a t hp b u hf
    exact h b u (by rw [bind_ok hp, hf])
  · intro h b u hb
    obtain ⟨a, t, hp, hf⟩ := bind_eq_ok.mp hb
    exact h a t hp b u hf

@[simp] theorem ensures_ite {c : Prop} [Decidable c] {p q : Exec ε σ α} {s : σ}
    {Q : α → σ → Prop} :
    Ensures (if c then p else q) s Q ↔ (c → Ensures p s Q) ∧ (¬c → Ensures q s Q) := by
  split <;> simp_all

/-! ### Framing -/

/-- No returning run of `p` changes the projection `f` of the state. -/
def Keeps (f : σ → β) (p : Exec ε σ α) : Prop :=
  ∀ s, Ensures p s (fun _ t => f t = f s)

theorem keeps_pure (f : σ → τ) (a : α) : Keeps f (pure a : Exec ε σ α) := by
  simp [Keeps]

theorem keeps_get (f : σ → τ) : Keeps f (get : Exec ε σ σ) := by
  simp [Keeps]

theorem keeps_throw (f : σ → τ) (e : ε) : Keeps f (throw e : Exec ε σ α) := by
  simp [Keeps]

theorem keeps_lift (f : σ → τ) (r : Except ε α) : Keeps f (lift r : Exec ε σ α) := by
  simp [Keeps]

theorem keeps_modify {f : σ → τ} {g : σ → σ} (h : ∀ s, f (g s) = f s) :
    Keeps f (modify g : Exec ε σ Unit) := by
  simpa [Keeps] using h

theorem Keeps.bind {f : σ → τ} {p : Exec ε σ α} {q : α → Exec ε σ β} (hp : Keeps f p)
    (hq : ∀ a, Keeps f (q a)) : Keeps f (p >>= q) := by
  intro s
  rw [ensures_bind]
  exact (hp s).mono fun a t ht => (hq a t).mono fun _ u hu => hu.trans ht

theorem Keeps.ite {f : σ → τ} {c : Prop} [Decidable c] {p q : Exec ε σ α} (hp : Keeps f p)
    (hq : Keeps f q) : Keeps f (if c then p else q) := by
  split
  · exact hp
  · exact hq

/-! ### Invariants -/

/-- Every returning run of `p` from a state with `P` ends in one. -/
def Preserves (P : σ → Prop) (p : Exec ε σ α) : Prop :=
  ∀ s, P s → Ensures p s (fun _ t => P t)

theorem preserves_pure (P : σ → Prop) (a : α) : Preserves P (pure a : Exec ε σ α) :=
  fun _ hs => ensures_pure.mpr hs

theorem preserves_get (P : σ → Prop) : Preserves P (get : Exec ε σ σ) :=
  fun _ hs => ensures_get.mpr hs

theorem preserves_throw (P : σ → Prop) (e : ε) : Preserves P (throw e : Exec ε σ α) :=
  fun _ _ => ensures_throw.mpr trivial

theorem preserves_modify {P : σ → Prop} {f : σ → σ} (h : ∀ s, P s → P (f s)) :
    Preserves P (modify f : Exec ε σ Unit) :=
  fun s hs => ensures_modify.mpr (h s hs)

theorem preserves_lift (P : σ → Prop) (r : Except ε α) : Preserves P (lift r : Exec ε σ α) :=
  fun _ hs => ensures_lift.mpr fun _ _ => hs

theorem Preserves.bind {P : σ → Prop} {p : Exec ε σ α} {q : α → Exec ε σ β} (hp : Preserves P p)
    (hq : ∀ a, Preserves P (q a)) : Preserves P (p >>= q) := by
  intro s hs
  rw [ensures_bind]
  exact (hp s hs).mono fun a t ht => hq a t ht

theorem Preserves.ite {P : σ → Prop} {c : Prop} [Decidable c] {p q : Exec ε σ α}
    (hp : Preserves P p) (hq : Preserves P q) : Preserves P (if c then p else q) := by
  split
  · exact hp
  · exact hq

/-- Every returning run of `p` from a state with `P` ends in one with `Q`. -/
def Leads (P Q : σ → Prop) (p : Exec ε σ α) : Prop :=
  ∀ s, P s → Ensures p s (fun _ t => Q t)

theorem leads_pure {P Q : σ → Prop} (h : ∀ s, P s → Q s) (a : α) :
    Leads P Q (pure a : Exec ε σ α) := fun s hs => ensures_pure.mpr (h s hs)

theorem leads_throw (P Q : σ → Prop) (e : ε) : Leads P Q (throw e : Exec ε σ α) :=
  fun _ _ => ensures_throw.mpr trivial

theorem Leads.bind {P Q R : σ → Prop} {p : Exec ε σ α} {q : α → Exec ε σ β} (hp : Leads P Q p)
    (hq : ∀ a, Leads Q R (q a)) : Leads P R (p >>= q) := by
  intro s hs
  rw [ensures_bind]
  exact (hp s hs).mono fun a t ht => hq a t ht

theorem Leads.ite {P Q : σ → Prop} {c : Prop} [Decidable c] {p q : Exec ε σ α} (hp : Leads P Q p)
    (hq : Leads P Q q) : Leads P Q (if c then p else q) := by
  split
  · exact hp
  · exact hq

/-- What depends only on a projection that code keeps is an invariant of it. -/
theorem Keeps.preserves {f : σ → τ} {p : Exec ε σ α} (h : Keeps f p) {P : σ → Prop}
    (hP : ∀ s t, f t = f s → P s → P t) : Preserves P p :=
  fun s hs => (h s).mono fun _ t ht => hP s t ht hs

/-! ### Faults -/

/-- No run of `p` stops on the fault `e`. -/
def Avoids (e : ε) (p : Exec ε σ α) : Prop := ∀ s, p s ≠ .error e

theorem avoids_pure (e : ε) (a : α) : Avoids e (pure a : Exec ε σ α) := fun _ h => by cases h

theorem avoids_get (e : ε) : Avoids e (get : Exec ε σ σ) := fun _ h => by cases h

theorem avoids_modify (e : ε) (f : σ → σ) : Avoids e (modify f : Exec ε σ Unit) :=
  fun _ h => by cases h

theorem avoids_throw {e e' : ε} (h : e' ≠ e) : Avoids e (throw e' : Exec ε σ α) := by
  intro s hs
  rw [throw_apply, Except.error.injEq] at hs
  exact h hs

theorem avoids_lift {e : ε} {r : Except ε α} (h : r ≠ .error e) : Avoids e (lift r : Exec ε σ α) := by
  intro s hs
  cases r with
  | ok a => cases hs
  | error e' =>
    rw [lift_error_apply, Except.error.injEq] at hs
    exact h (congrArg Except.error hs)

theorem Avoids.bind {e : ε} {p : Exec ε σ α} {q : α → Exec ε σ β} (hp : Avoids e p)
    (hq : ∀ a, Avoids e (q a)) : Avoids e (p >>= q) := by
  intro s hs
  rw [bind_apply] at hs
  split at hs
  · exact hq _ _ hs
  · next e' he =>
    rw [Except.error.injEq] at hs
    exact hp s (hs ▸ he)

theorem Avoids.ite {e : ε} {c : Prop} [Decidable c] {p q : Exec ε σ α} (hp : Avoids e p)
    (hq : Avoids e q) : Avoids e (if c then p else q) := by
  split
  · exact hp
  · exact hq

/-! ### Properties of code -/

/-- A property of code that values have and that sequences keep. -/
structure Closed (Q : (α : Type) → Exec ε σ α → Prop) : Prop where
  pure : ∀ {α : Type} (a : α), Q α (pure a)
  bind : ∀ {α β : Type} {p : Exec ε σ α} {q : α → Exec ε σ β}, Q α p → (∀ a, Q β (q a)) →
    Q β (p >>= q)

theorem keeps_closed (f : σ → τ) : Closed fun _ (p : Exec ε σ _) => Keeps f p :=
  ⟨keeps_pure f, Keeps.bind⟩

theorem preserves_closed (P : σ → Prop) : Closed fun _ (p : Exec ε σ _) => Preserves P p :=
  ⟨preserves_pure P, Preserves.bind⟩

theorem avoids_closed (e : ε) : Closed fun _ (p : Exec ε σ _) => Avoids e p :=
  ⟨avoids_pure e, Avoids.bind⟩

theorem Closed.ite {Q : (α : Type) → Exec ε σ α → Prop} {c : Prop} [Decidable c] {p q : Exec ε σ α}
    (hp : Q α p) (hq : Q α q) : Q α (if c then p else q) := by
  split
  · exact hp
  · exact hq

/-! ### Faults from some states -/

/-- No run of `p` from a state with `P` stops on the fault `e`. -/
def AvoidsFrom (P : σ → Prop) (e : ε) (p : Exec ε σ α) : Prop := ∀ s, P s → p s ≠ .error e

theorem Avoids.from {e : ε} {p : Exec ε σ α} (h : Avoids e p) (P : σ → Prop) : AvoidsFrom P e p :=
  fun s _ => h s

theorem AvoidsFrom.bind {P Q : σ → Prop} {e : ε} {p : Exec ε σ α} {q : α → Exec ε σ β}
    (hp : AvoidsFrom P e p) (hPQ : Leads P Q p) (hq : ∀ a, AvoidsFrom Q e (q a)) :
    AvoidsFrom P e (p >>= q) := by
  intro s hs h
  rw [bind_apply] at h
  split at h
  · next a t hrun => exact hq a t (hPQ s hs a t hrun) h
  · next e' he =>
    rw [Except.error.injEq] at h
    exact hp s hs (h ▸ he)

/-- Code that stops on no fault returns. -/
theorem exists_ok_of_avoids {p : Exec ε σ α} (h : ∀ e, Avoids e p) (s : σ) :
    ∃ a t, p s = .ok (a, t) := by
  cases hp : p s with
  | error e => exact absurd hp (h e s)
  | ok r => exact ⟨r.1, r.2, rfl⟩

/-! ### Parts of the state -/

/-- A part `τ` of the state `σ` that can be read and replaced. -/
structure Lens (σ τ : Type) where
  get : σ → τ
  set : τ → σ → σ
  get_set : ∀ t s, get (set t s) = t
  set_get : ∀ s, set (get s) s = s
  set_set : ∀ t u s, set t (set u s) = set t s

attribute [simp] Lens.get_set Lens.set_get Lens.set_set

/-- The whole state as a part of itself. -/
def Lens.refl (σ : Type) : Lens σ σ := ⟨id, fun t _ => t, fun _ _ => rfl, fun _ => rfl, fun _ _ _ => rfl⟩

@[simp] theorem Lens.refl_get (s : σ) : (Lens.refl σ).get s = s := rfl

@[simp] theorem Lens.refl_set (t s : σ) : (Lens.refl σ).set t s = t := rfl

/-- Run code over a part of the state. -/
def zoom (L : Lens σ τ) (p : Exec ε τ α) : Exec ε σ α := fun s => match p (L.get s) with
  | .ok (a, t) => .ok (a, L.set t s)
  | .error e => .error e

theorem zoom_ok {L : Lens σ τ} {p : Exec ε τ α} {s : σ} {t : τ} {a : α}
    (h : p (L.get s) = .ok (a, t)) : zoom L p s = .ok (a, L.set t s) := by
  simp only [zoom, h]

theorem zoom_error {L : Lens σ τ} {p : Exec ε τ α} {s : σ} {e : ε}
    (h : p (L.get s) = .error e) : zoom L p s = .error e := by
  simp only [zoom, h]

theorem zoom_eq_ok {L : Lens σ τ} {p : Exec ε τ α} {s : σ} {r : α × σ} :
    zoom L p s = .ok r ↔ ∃ a t, p (L.get s) = .ok (a, t) ∧ r = (a, L.set t s) := by
  unfold zoom
  cases h : p (L.get s) with
  | error e => simp
  | ok v =>
    obtain ⟨a, t⟩ := v
    simp [and_assoc, eq_comm]

theorem zoom_bind (L : Lens σ τ) (p : Exec ε τ α) (f : α → Exec ε τ β) :
    zoom L (p >>= f) = zoom L p >>= fun a => zoom L (f a) := by
  funext s
  rw [bind_apply]
  unfold zoom
  rw [bind_apply]
  cases p (L.get s) with
  | error e => rfl
  | ok r =>
    dsimp only
    rw [L.get_set]
    cases f r.1 r.2 with
    | error e => rfl
    | ok r' =>
      dsimp only
      rw [L.set_set]

theorem zoom_refl (p : Exec ε σ α) : zoom (Lens.refl σ) p = p := by
  funext s
  unfold zoom
  rw [Lens.refl_get]
  cases p s <;> rfl

@[simp] theorem ensures_zoom {L : Lens σ τ} {p : Exec ε τ α} {s : σ} {Q : α → σ → Prop} :
    Ensures (zoom L p) s Q ↔ Ensures p (L.get s) (fun a t => Q a (L.set t s)) := by
  constructor
  · intro h a t hp
    exact h a _ (zoom_ok hp)
  · intro h a u hz
    obtain ⟨b, t, hp, hr⟩ := zoom_eq_ok.mp hz
    cases hr
    exact h _ t hp

/-- Code over one part keeps every projection that does not depend on that part. -/
theorem keeps_zoom {L : Lens σ τ} {f : σ → β} (h : ∀ t s, f (L.set t s) = f s)
    (p : Exec ε τ α) : Keeps f (zoom L p) := by
  intro s
  rw [ensures_zoom]
  exact fun a t _ => h t s

/-- What code over a part keeps of that part, it keeps of the whole. -/
theorem Keeps.zoom {L : Lens σ τ} {f : τ → β} {p : Exec ε τ α} (h : Keeps f p) :
    Keeps (fun s => f (L.get s)) (zoom L p) := by
  intro s
  rw [ensures_zoom]
  exact (h (L.get s)).mono fun a t ht => by simpa using ht

theorem Avoids.zoom {e : ε} {L : Lens σ τ} {p : Exec ε τ α} (h : Avoids e p) :
    Avoids e (zoom L p) := by
  intro s hs
  unfold Exec.zoom at hs
  split at hs
  · cases hs
  · next e' he =>
    rw [Except.error.injEq] at hs
    exact h _ (hs ▸ he)

theorem Preserves.zoom {L : Lens σ τ} {P : σ → Prop} {p : Exec ε τ α}
    (h : ∀ s, P s → Ensures p (L.get s) fun _ t => P (L.set t s)) : Preserves P (zoom L p) :=
  fun s hs => ensures_zoom.mpr (h s hs)

end Exec

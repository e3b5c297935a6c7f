import Tvd.Model.DtvIo

/-! What calls of `append_to_pdu` leave in a buffer, when libpdu behaves as it is
documented. `Appends` says that a piece of code appends certain bytes to every
buffer with room for them. `FillsTo` says how a buffer that is returned relates to
the one that was passed in, among others that certain bytes were appended and no
others, or that service and opcode are still the same. Both compose along sequences
and loops. -/

namespace Tvd

open Exec

variable {lib : Lib} {o : ByteOrder}

/-- A buffer with more bytes in its payload. -/
def Wbuf.push (wbuf : Wbuf) (bytes : List UInt8) : Wbuf :=
  { wbuf with pdu := { wbuf.pdu with payload := wbuf.pdu.payload ++ bytes } }

@[simp] theorem Wbuf.push_payload (wbuf : Wbuf) (bytes : List UInt8) :
    (wbuf.push bytes).pdu.payload = wbuf.pdu.payload ++ bytes := rfl

@[simp] theorem Wbuf.push_nil (wbuf : Wbuf) : wbuf.push [] = wbuf := by
  simp [push]

@[simp] theorem Wbuf.push_push (wbuf : Wbuf) (bs cs : List UInt8) :
    (wbuf.push bs).push cs = wbuf.push (bs ++ cs) := by
  simp [push]

theorem createPduWbuf_none {log : List PduOp} {capacity tailLen : ℕ}
    (h : lib.createPduWbuf log capacity tailLen = false) (hasBuilder : Bool) :
    createPduWbuf lib capacity tailLen hasBuilder log =
      .ok (none, .create capacity tailLen false :: log) := by
  rw [createPduWbuf, get_bind_apply, h]
  rfl

theorem createPduWbuf_some {log : List PduOp} {capacity tailLen : ℕ}
    (h : lib.createPduWbuf log capacity tailLen = true) (hasBuilder : Bool) :
    createPduWbuf lib capacity tailLen hasBuilder log =
      .ok (some ⟨log.length, capacity, tailLen, hasBuilder, none, ⟨0, 0, []⟩⟩,
        .create capacity tailLen true :: log) := by
  rw [createPduWbuf, get_bind_apply, h]
  rfl

/-- A buffer that could be created is numbered by the log. -/
theorem createPduWbuf_ensures (capacity tailLen : ℕ) (hasBuilder : Bool) (log : List PduOp) :
    Ensures (createPduWbuf lib capacity tailLen hasBuilder) log fun r log' =>
      (lib.createPduWbuf log capacity tailLen = false ∧ r = none ∧
        log' = .create capacity tailLen false :: log) ∨
      (lib.createPduWbuf log capacity tailLen = true ∧
        r = some ⟨log.length, capacity, tailLen, hasBuilder, none, ⟨0, 0, []⟩⟩ ∧
        log' = .create capacity tailLen true :: log) := by
  intro r log' hrun
  cases h : lib.createPduWbuf log capacity tailLen with
  | false =>
    rw [createPduWbuf_none h] at hrun
    cases hrun
    exact .inl ⟨rfl, rfl, rfl⟩
  | true =>
    rw [createPduWbuf_some h] at hrun
    cases hrun
    exact .inr ⟨rfl, rfl, rfl⟩

/-- The code appends these bytes wherever there is room for them. -/
def Appends (fill : Wbuf → PduM (Option Wbuf)) (bytes : List UInt8) : Prop :=
  ∀ wbuf log, wbuf.pdu.payload.length + bytes.length ≤ pduMaxDataLength →
    ∃ log', fill wbuf log = .ok (some (wbuf.push bytes), log')

/-! ### Rules -/

theorem Appends.nil : Appends (fun wbuf => pure (some wbuf)) [] := by
  intro wbuf log _
  exact ⟨log, by rw [Wbuf.push_nil]; rfl⟩

theorem appendToPdu_ok {wbuf : Wbuf} {log : List PduOp} {fmt : List Fmt} {args : List Arg}
    {payload : List UInt8} (h : lib.appendToPdu log wbuf.pdu fmt args = .ok payload) :
    appendToPdu lib wbuf fmt args log =
      .ok (some { wbuf with pdu := { wbuf.pdu with payload } }, .append true :: log) := by
  rw [appendToPdu, get_bind_apply, h]
  rfl

theorem appendToPdu_ensures (wbuf : Wbuf) (fmt : List Fmt) (args : List Arg) (log : List PduOp) :
    Ensures (appendToPdu lib wbuf fmt args) log fun r log' =>
      (lib.appendToPdu log wbuf.pdu fmt args = .fail ∧ r = none ∧ log' = .append false :: log) ∨
      ∃ payload, lib.appendToPdu log wbuf.pdu fmt args = .ok payload ∧
        r = some { wbuf with pdu := { wbuf.pdu with payload } } ∧ log' = .append true :: log := by
  rw [appendToPdu, ensures_bind, ensures_get]
  cases lib.appendToPdu log wbuf.pdu fmt args with
  | trap => exact ensures_throw.mpr trivial
  | fail => exact ensures_bind.mpr (ensures_modify.mpr (ensures_pure.mpr (.inl ⟨rfl, rfl, rfl⟩)))
  | ok payload =>
    refine ensures_bind.mpr (ensures_modify.mpr (ensures_pure.mpr (.inr ?_)))
    exact ⟨payload, rfl, rfl, rfl⟩

theorem avoids_createPduWbuf (e : Fault) (lib : Lib) (capacity tailLen : ℕ) (hasBuilder : Bool) :
    Avoids e (createPduWbuf lib capacity tailLen hasBuilder) :=
  (avoids_get e).bind fun _ => Avoids.bind (avoids_modify e _) fun _ => avoids_pure e _

theorem avoids_appendToPdu {e : Fault} (he : .badArguments ≠ e) (lib : Lib) (wbuf : Wbuf)
    (fmt : List Fmt) (args : List Arg) : Avoids e (appendToPdu lib wbuf fmt args) := by
  refine (avoids_get _).bind fun log => ?_
  cases lib.appendToPdu log wbuf.pdu fmt args with
  | trap => exact avoids_throw he
  | fail => exact Avoids.bind (avoids_modify _ _) fun _ => avoids_pure _ _
  | ok payload => exact Avoids.bind (avoids_modify _ _) fun _ => avoids_pure _ _

/-- A documented call appends the bytes of its arguments. -/
theorem Appends.args (hdoc : lib.Documented o) {fmt : List Fmt} {args : List Arg}
    {bytes : List UInt8} (h : encodeArgs o fmt args = some bytes) :
    Appends (fun wbuf => appendToPdu lib wbuf fmt args) bytes := by
  intro wbuf log hroom
  exact ⟨_, appendToPdu_ok (hdoc.fits log wbuf.pdu fmt args bytes h hroom)⟩

/-- One piece of code after the other. -/
theorem Appends.seq {f g : DtvIo.Fill} {bs cs : List UInt8} (hf : Appends f bs) (hg : Appends g cs) :
    Appends (DtvIo.Fill.seq f g) (bs ++ cs) := by
  intro wbuf log hroom
  rw [List.length_append] at hroom
  obtain ⟨log₁, hf⟩ := hf wbuf log (by omega)
  obtain ⟨log₂, hg⟩ := hg (wbuf.push bs) log₁ (by rw [Wbuf.push_payload, List.length_append]; omega)
  refine ⟨log₂, ?_⟩
  rw [DtvIo.Fill.seq, bind_ok hf, ← Wbuf.push_push]
  exact hg

/-- Code that reads a value without failing. -/
theorem Appends.lift {α : Type} {r : Except Fault α} {a : α} {fill : α → DtvIo.Fill}
    {bytes : List UInt8} (hr : r = .ok a) (h : Appends (fill a) bytes) :
    Appends (fun wbuf => do let v ← Exec.lift r; fill v wbuf) bytes := by
  subst hr
  exact h

/-- A loop appends the bytes of its iterations. -/
theorem Appends.each {step : Wbuf → ℕ → PduM (Option Wbuf)} {bytes : ℕ → List UInt8} {n : ℕ}
    (h : ∀ idx < n, Appends (fun wbuf => step wbuf idx) (bytes idx)) :
    Appends (fun wbuf => appendEach step n wbuf) ((List.range n).flatMap bytes) := by
  have hloop (k : ℕ) : ∀ i, i + k = n → Appends
      (fun wbuf => accumulate (fun idx wbuf => step wbuf idx) k i wbuf)
      ((List.range' i k).flatMap bytes) := by
    induction k with
    | zero => intro i _; exact Appends.nil
    | succ k ih =>
      intro i hik
      have hrest := ih (i + 1) (by omega)
      intro wbuf log hroom
      rw [List.range'_succ, List.flatMap_cons, List.length_append] at hroom
      obtain ⟨log₁, hstep⟩ := h i (by omega) wbuf log (by omega)
      obtain ⟨log₂, hrest⟩ := hrest (wbuf.push (bytes i)) log₁
        (by rw [Wbuf.push_payload, List.length_append]; omega)
      refine ⟨log₂, ?_⟩
      change accumulate (fun idx wbuf => step wbuf idx) (k + 1) i wbuf log = _
      rw [accumulate, bind_ok hstep, List.range'_succ, List.flatMap_cons, ← Wbuf.push_push]
      exact hrest
  have hall := hloop n 0 (by omega)
  rwa [← List.range_eq_range'] at hall

/-! ### Buffers that are returned -/

/-- A buffer that the code returns is in this relation to the one passed in. -/
def FillsTo (R : Wbuf → Wbuf → Prop) (fill : DtvIo.Fill) : Prop :=
  ∀ wbuf log, Ensures (fill wbuf) log fun r _ => ∀ filled, r = some filled → R wbuf filled

theorem FillsTo.nil {R : Wbuf → Wbuf → Prop} (h : ∀ wbuf, R wbuf wbuf) :
    FillsTo R DtvIo.Fill.none := by
  intro wbuf log
  refine ensures_pure.mpr fun filled hfilled => ?_
  cases hfilled
  exact h wbuf

/-- A call of `append_to_pdu` only replaces the payload. -/
theorem FillsTo.args {R : Wbuf → Wbuf → Prop} {fmt : List Fmt} {args : List Arg}
    (h : ∀ log wbuf payload, lib.appendToPdu log wbuf.pdu fmt args = .ok payload →
      R wbuf { wbuf with pdu := { wbuf.pdu with payload } }) :
    FillsTo R fun wbuf => appendToPdu lib wbuf fmt args := by
  intro wbuf log
  change Ensures (appendToPdu lib wbuf fmt args) log _
  rw [appendToPdu, ensures_bind, ensures_get]
  cases happend : lib.appendToPdu log wbuf.pdu fmt args with
  | trap => exact ensures_throw.mpr trivial
  | fail =>
    rintro r t hr filled rfl
    cases hr
  | ok payload =>
    rintro r t hr filled rfl
    cases hr
    exact h log wbuf payload happend

theorem FillsTo.seq {R S T : Wbuf → Wbuf → Prop} {f g : DtvIo.Fill} (hf : FillsTo R f)
    (hg : FillsTo S g) (h : ∀ a b c, R a b → S b c → T a c) : FillsTo T (DtvIo.Fill.seq f g) := by
  intro wbuf log
  rw [DtvIo.Fill.seq, ensures_bind]
  refine (hf wbuf log).mono fun r t hr => ?_
  cases r with
  | none => exact ensures_pure.mpr fun _ hnone => by cases hnone
  | some filled =>
    refine (hg filled t).mono fun r _ hg last hlast => ?_
    exact h _ _ _ (hr filled rfl) (hg last hlast)

/-- Code that reads a value first, and stops if it cannot. -/
theorem FillsTo.lift {α : Type} {R : Wbuf → Wbuf → Prop} {r : Except Fault α}
    {fill : α → DtvIo.Fill} (h : ∀ a, r = .ok a → FillsTo R (fill a)) :
    FillsTo R (fun wbuf => do let v ← Exec.lift r; fill v wbuf) := by
  intro wbuf log
  rw [ensures_bind, ensures_lift]
  exact fun a ha => h a ha wbuf log

/-- A loop, by a relation that is indexed by the iterations done. -/
theorem FillsTo.each {R : ℕ → Wbuf → Wbuf → Prop} {S : ℕ → Wbuf → Wbuf → Prop}
    {step : Wbuf → ℕ → PduM (Option Wbuf)} {n : ℕ} (hzero : ∀ wbuf, R 0 wbuf wbuf)
    (hstep : ∀ idx < n, FillsTo (S idx) fun wbuf => step wbuf idx)
    (hsucc : ∀ idx a b c, R idx a b → S idx b c → R (idx + 1) a c) :
    FillsTo (R n) fun wbuf => appendEach step n wbuf := by
  intro wbuf log
  have hall := accumulate_ensures (fun idx filled (_ : List PduOp) => R idx wbuf filled) n 0 wbuf log
    (hzero wbuf) fun idx filled t _ hidx hfilled =>
      (hstep idx (by omega) filled t).mono fun r _ hr next hnext =>
        hsucc idx wbuf filled next hfilled (hr next hnext)
  rwa [Nat.zero_add] at hall

/-! ### Nothing else is appended -/

/-- Code that returns a buffer has appended these bytes to it. -/
def AppendsOnly (fill : DtvIo.Fill) (bytes : List UInt8) : Prop :=
  FillsTo (fun wbuf filled => filled = wbuf.push bytes) fill

theorem encodeArgs_length {fmt : List Fmt} {args : List Arg} {bytes : List UInt8}
    (h : encodeArgs o fmt args = some bytes) : fmt.length = args.length := by
  induction fmt generalizing args bytes with
  | nil =>
    cases args with
    | nil => rfl
    | cons a args => cases h
  | cons f fmt ih =>
    cases args with
    | nil => cases h
    | cons a args =>
      simp only [encodeArgs, Option.bind_eq_bind, Option.bind_eq_some_iff] at h
      obtain ⟨_, -, rest, hrest, -⟩ := h
      exact congrArg (· + 1) (ih hrest)

theorem AppendsOnly.args (hdoc : lib.Documented o) {fmt : List Fmt} {args : List Arg}
    {bytes : List UInt8} (h : encodeArgs o fmt args = some bytes) :
    AppendsOnly (fun wbuf => appendToPdu lib wbuf fmt args) bytes := by
  refine FillsTo.args fun log wbuf payload happend => ?_
  by_cases hroom : wbuf.pdu.payload.length + bytes.length ≤ pduMaxDataLength
  · rw [hdoc.fits log wbuf.pdu fmt args bytes h hroom] at happend
    cases happend
    rfl
  · rw [hdoc.full log wbuf.pdu fmt args bytes h (Nat.not_le.mp hroom)] at happend
    cases happend

theorem AppendsOnly.seq {f g : DtvIo.Fill} {bs cs : List UInt8} (hf : AppendsOnly f bs)
    (hg : AppendsOnly g cs) : AppendsOnly (DtvIo.Fill.seq f g) (bs ++ cs) := by
  refine FillsTo.seq hf hg ?_
  rintro wbuf _ _ rfl rfl
  exact Wbuf.push_push wbuf bs cs

theorem AppendsOnly.each {step : Wbuf → ℕ → PduM (Option Wbuf)} {bytes : ℕ → List UInt8} {n : ℕ}
    (h : ∀ idx < n, AppendsOnly (fun wbuf => step wbuf idx) (bytes idx)) :
    AppendsOnly (fun wbuf => appendEach step n wbuf) ((List.range n).flatMap bytes) := by
  refine FillsTo.each (R := fun idx wbuf filled => filled = wbuf.push ((List.range idx).flatMap bytes))
    (fun wbuf => ?_) h ?_
  · rw [List.range_zero, List.flatMap_nil, Wbuf.push_nil]
  · rintro idx wbuf _ _ rfl rfl
    rw [Wbuf.push_push, List.range_succ, List.flatMap_append, List.flatMap_singleton]

/-! ### Replies and notifications -/

/-- The code fills a buffer by appends alone: a buffer that it returns is the one
passed in, under the same service and opcode. -/
structure Proper (fill : DtvIo.Fill) : Prop where
  same : FillsTo (fun wbuf filled => filled.id = wbuf.id ∧ filled.pdu.service = wbuf.pdu.service ∧
    filled.pdu.opcode = wbuf.pdu.opcode) fill
  appends : ∀ wbuf log₀,
    Preserves (fun log => ∃ oks : List Bool, log = oks.map PduOp.append ++ log₀) (fill wbuf)
  callback : ∀ wbuf, Avoids .nullCallback (fill wbuf)

namespace Proper

theorem nil : Proper DtvIo.Fill.none where
  same := FillsTo.nil fun _ => ⟨rfl, rfl, rfl⟩
  appends _ _ := preserves_pure _ _
  callback _ := avoids_pure _ _

theorem throw {e : Fault} (h : e ≠ .nullCallback) : Proper fun _ => Exec.throw e where
  same _ _ := ensures_throw.mpr trivial
  appends _ _ := preserves_throw _ _
  callback _ := avoids_throw h

theorem args (fmt : List Fmt) (args : List Arg) : Proper fun wbuf => appendToPdu lib wbuf fmt args where
  same := FillsTo.args fun _ _ _ _ => ⟨rfl, rfl, rfl⟩
  appends wbuf log₀ := by
    have hmore (ok : Bool) : Preserves (fun log => ∃ oks : List Bool, log = oks.map PduOp.append ++ log₀)
        (Exec.modify (PduOp.append ok :: ·) : PduM Unit) := by
      refine preserves_modify ?_
      rintro _ ⟨oks, rfl⟩
      exact ⟨ok :: oks, rfl⟩
    change Preserves _ (appendToPdu lib wbuf fmt args)
    unfold appendToPdu
    refine (preserves_get _).bind fun log => ?_
    split
    · exact preserves_throw _ _
    · exact (hmore _).bind fun _ => preserves_pure _ _
    · exact (hmore _).bind fun _ => preserves_pure _ _
  callback wbuf := avoids_appendToPdu (by decide) _ _ _ _

theorem seq {f g : DtvIo.Fill} (hf : Proper f) (hg : Proper g) : Proper (DtvIo.Fill.seq f g) where
  same := FillsTo.seq hf.same hg.same fun _ _ _ hab hbc =>
    ⟨hbc.1.trans hab.1, hbc.2.1.trans hab.2.1, hbc.2.2.trans hab.2.2⟩
  appends wbuf log₀ := by
    refine (hf.appends wbuf log₀).bind fun r => ?_
    split
    · exact preserves_pure _ _
    · exact hg.appends _ log₀
  callback wbuf := by
    refine (hf.callback wbuf).bind fun r => ?_
    split
    · exact avoids_pure _ _
    · exact hg.callback _

/-- Code that reads a value first, and stops if it cannot. -/
theorem lift {α : Type} {r : Except Fault α} {fill : α → DtvIo.Fill} (hr : r ≠ .error .nullCallback)
    (h : ∀ a, Proper (fill a)) : Proper (fun wbuf => do let v ← Exec.lift r; fill v wbuf) where
  same := FillsTo.lift fun a _ => (h a).same
  appends wbuf log₀ := (preserves_lift _ r).bind fun a => (h a).appends wbuf log₀
  callback wbuf := (avoids_lift hr).bind fun a => (h a).callback wbuf

theorem each {step : Wbuf → ℕ → PduM (Option Wbuf)} {n : ℕ} (h : ∀ idx, Proper fun wbuf => step wbuf idx) :
    Proper fun wbuf => appendEach step n wbuf where
  same := FillsTo.each (n := n) (R := fun _ wbuf filled => filled.id = wbuf.id ∧
      filled.pdu.service = wbuf.pdu.service ∧ filled.pdu.opcode = wbuf.pdu.opcode)
    (fun _ => ⟨rfl, rfl, rfl⟩) (fun idx _ => (h idx).same) fun _ _ _ _ hab hbc =>
      ⟨hbc.1.trans hab.1, hbc.2.1.trans hab.2.1, hbc.2.2.trans hab.2.2⟩
  appends wbuf log₀ := (preserves_closed _).accumulate (fun idx wbuf => (h idx).appends wbuf log₀) n 0 wbuf
  callback wbuf := (avoids_closed _).accumulate (fun idx wbuf => (h idx).callback wbuf) n 0 wbuf

end Proper

end Tvd

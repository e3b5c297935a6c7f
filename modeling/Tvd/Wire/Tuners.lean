import Tvd.Wire.Records
import Mathlib.Data.List.Forall2
import Mathlib.Data.List.GetD

/-! Tuners on the wire. The format strings of `append_tuner` and the sum of
`calculate_tuner_size` both agree with the documented structure, and so do the
loops over an array of tuners: what is summed up is the number of bytes that are
appended, and no append fails on the way. -/

namespace Tvd

open Exec

variable {lib : Lib} {o : ByteOrder} {tuner : TvTuner}

/-! ### Appends that succeed -/

/-- The code returns a buffer only if none of its appends failed. -/
def Unfailing (fill : DtvIo.Fill) : Prop :=
  ∀ wbuf log, Ensures (fill wbuf) log fun r log' => r.isSome →
    ∃ n, log' = List.replicate n (PduOp.append true) ++ log

namespace Unfailing

theorem log {fill : DtvIo.Fill} (h : Unfailing fill) {wbuf filled : Wbuf} {log log' : List PduOp}
    (hfill : fill wbuf log = .ok (some filled, log')) :
    ∃ n, log' = List.replicate n (PduOp.append true) ++ log :=
  h wbuf log (some filled) log' hfill Option.isSome_some

theorem args (fmt : List Fmt) (args : List Arg) :
    Unfailing fun wbuf => appendToPdu lib wbuf fmt args := by
  intro wbuf log
  refine (appendToPdu_ensures wbuf fmt args log).mono fun r log' h hsome => ?_
  rcases h with ⟨-, rfl, -⟩ | ⟨_, -, -, rfl⟩
  · cases hsome
  · exact ⟨1, rfl⟩

theorem seq {f g : DtvIo.Fill} (hf : Unfailing f) (hg : Unfailing g) :
    Unfailing (DtvIo.Fill.seq f g) := by
  intro wbuf log
  rw [DtvIo.Fill.seq, ensures_bind]
  refine (hf wbuf log).mono fun r log₁ hfirst => ?_
  cases r with
  | none => exact ensures_pure.mpr fun hnone => by cases hnone
  | some filled =>
    obtain ⟨n, rfl⟩ := hfirst rfl
    refine (hg filled _).mono fun r log₂ hsecond hsome => ?_
    obtain ⟨m, rfl⟩ := hsecond hsome
    exact ⟨m + n, by rw [← List.replicate_append_replicate, List.append_assoc]⟩

theorem throw (e : Fault) : Unfailing fun _ => Exec.throw e := fun _ _ => ensures_throw.mpr trivial

/-- Code that reads a value first, and stops if it cannot. -/
theorem lift {α : Type} {r : Except Fault α} {fill : α → DtvIo.Fill} (h : ∀ a, Unfailing (fill a)) :
    Unfailing (fun wbuf => do let v ← Exec.lift r; fill v wbuf) := by
  intro wbuf log
  rw [ensures_bind, ensures_lift]
  exact fun a _ => h a wbuf log

theorem each {step : Wbuf → ℕ → PduM (Option Wbuf)} {n : ℕ}
    (h : ∀ idx, Unfailing fun wbuf => step wbuf idx) : Unfailing fun wbuf => appendEach step n wbuf := by
  intro wbuf log
  let inv : ℕ → Wbuf → List PduOp → Prop := fun _ _ log' =>
    ∃ n, log' = List.replicate n (PduOp.append true) ++ log
  refine (accumulate_ensures inv n 0 wbuf log ⟨0, rfl⟩ ?_).mono fun r log' hall hsome => ?_
  · rintro idx filled _ - - ⟨k, rfl⟩
    refine (h idx filled _).mono fun r log' hstep next hnext => ?_
    obtain ⟨m, rfl⟩ := hstep (by rw [hnext]; rfl)
    exact ⟨m + k, by rw [← List.replicate_append_replicate, List.append_assoc]⟩
  · obtain ⟨filled, rfl⟩ := Option.isSome_iff_exists.mp hsome
    exact hall filled rfl

end Unfailing

/-! ### A tuner -/

/-- A record that holds this tuner; its array may be longer than its number says. -/
structure TvTuner.Holds (tuner : TvTuner) (v : Wire.Tuner) : Prop where
  id : tuner.id.get = .ok v.id
  numTypes : tuner.numTypes.toNat = v.types.val.length
  supportedTypes : ∀ idx (h : idx < v.types.val.length),
    ∃ types, tuner.supportedTypes.get = .ok types ∧ types[idx]? = some v.types.val[idx]

theorem TvTuner.Holds.numTypes_eq {v : Wire.Tuner} (h : tuner.Holds v) :
    tuner.numTypes = UInt32.ofNat v.types.val.length := by
  rw [← h.numTypes, UInt32.ofNat_toNat]

theorem uint8Arg_encode (v : UInt8) : Fmt.C.encode o (uint8Arg v) = some (Codec.octet.encode v) := by
  rw [uint8Arg, Fmt.encode, UInt32.toUInt8, UInt8.toUInt32]
  simp

/-- The size function gives the size of the documented structure. -/
theorem TvTuner.Holds.calculateTunerSize {v : Wire.Tuner} (h : tuner.Holds v) :
    calculateTunerSize (some tuner) = .ok (UInt32.ofNat ((Wire.Tuner.codec o).encode v).length) := by
  have hlen : ((Wire.Tuner.codec o).encode v).length =
      4 + (v.id.strlen + 1) + v.types.val.length := by
    have htypes : (Codec.octet.encodeAll v.types.val).length = v.types.val.length := by
      simp only [Codec.length_encodeAll, Codec.octet_encode, List.length_singleton, List.map_const',
        List.sum_replicate_nat, Nat.mul_one]
    rw [Wire.Tuner.codec_encode]
    simp only [List.length_append, CString.codec_encode_length, Codec.word32_encode_length, htypes]
    omega
  rw [hlen, Tvd.calculateTunerSize, show (4 : UInt32) = UInt32.ofNat 4 from rfl,
    addStrlen_bind h.id, h.numTypes_eq, UInt32.ofNat_add (4 + (v.id.strlen + 1))]
  rfl

/-- What is appended is the documented structure. -/
theorem TvTuner.Holds.appends (hdoc : lib.Documented o) {v : Wire.Tuner} (h : tuner.Holds v) :
    Appends (fun wbuf => appendTuner lib wbuf (some tuner)) ((Wire.Tuner.codec o).encode v) := by
  rw [Wire.Tuner.codec_encode, ← List.append_assoc]
  refine Appends.lift (ptrArg_ok h.id) (Appends.seq (Appends.args hdoc ?_) ?_)
  · rw [h.numTypes_eq, encodeArgs_cons rfl (encodeArgs_cons rfl rfl), List.append_nil]
  · rw [← List.take_length (l := v.types.val), Codec.encodeAll_take, h.numTypes]
    refine Appends.each fun idx hidx => ?_
    obtain ⟨types, hget, htype⟩ := h.supportedTypes idx hidx
    refine Appends.lift hget ?_
    rw [htype, List.getElem?_eq_getElem hidx]
    exact Appends.args hdoc (encodeArgs_cons (uint8Arg_encode _) rfl)

theorem appendTuner_unfailing (tuner : Option TvTuner) :
    Unfailing fun wbuf => appendTuner lib wbuf tuner := by
  cases tuner with
  | none => exact .throw _
  | some tuner =>
    refine .lift fun id => .seq (.args _ _) (.each fun idx => .lift fun types => ?_)
    cases types[idx]? with
    | none => exact .throw _
    | some supType => exact .args _ _

/-! ### Arrays of records -/

section

variable {w : World} {α β : Type} {unset : α} {items : List α} {c : Codec β} {R : α → β → Prop}

/-- The record at an index, next to the value it holds. -/
theorem records_ref (unset : α) {l : List β} (h : List.Forall₂ R items l) (block : ℕ) {idx : ℕ}
    (hidx : idx < l.length) : ∃ a, R a l[idx] ∧
      Records.ref unset idx (some ⟨block, items⟩) = .ok (some a) := by
  have hitem : idx < items.length := by rwa [h.length_eq]
  refine ⟨items[idx], h.get hitem hidx, ?_⟩
  rw [Records.ref, List.getD_eq_getElem _ _ hitem]

/-- The sum of the sizes, when each is that of what the record holds. -/
theorem sizeRecords_eq {size : Option α → Except Fault UInt32}
    (hsize : ∀ a b, R a b → size (some a) = .ok (UInt32.ofNat (c.encode b).length))
    {l : List β} (h : List.Forall₂ R items l) (block : ℕ) {num : UInt32} (hnum : num.toNat = l.length)
    (start : ℕ) : DtvIo.sizeRecords unset size num (some ⟨block, items⟩) (UInt32.ofNat start) =
      .ok (UInt32.ofNat (start + (c.encodeAll l).length)) := by
  let add : UInt32 → ℕ → Except Fault UInt32 := fun sum idx => do
    return sum + (← size (← Records.ref unset idx (some ⟨block, items⟩)))
  have hadd (sum : UInt32) {idx : ℕ} (hidx : idx < l.length) :
      add sum idx = .ok (sum + UInt32.ofNat (c.encode l[idx]).length) := by
    obtain ⟨a, ha, href⟩ := records_ref unset h block hidx
    dsimp only [add]
    rw [href]
    change (do return sum + (← size (some a))) = _
    rw [hsize _ _ ha]
    rfl
  have hfront (n : ℕ) : n ≤ l.length → (List.range n).foldlM add (UInt32.ofNat start) =
      .ok (UInt32.ofNat (start + (c.encodeAll (l.take n)).length)) := by
    induction n with
    | zero => intro _; rfl
    | succ n ih =>
      intro hn
      have hlen : (c.encodeAll (l.take (n + 1))).length =
          (c.encodeAll (l.take n)).length + (c.encode l[n]).length := by
        rw [List.take_add_one, List.getElem?_eq_getElem hn, Codec.encodeAll_append]
        simp
      rw [List.range_succ, List.foldlM_append, ih (by omega), hlen, ← Nat.add_assoc,
        UInt32.ofNat_add (start + _)]
      change List.foldlM add _ [n] = _
      rw [List.foldlM_cons, hadd _ hn]
      rfl
  have hall := hfront l.length le_rfl
  rwa [List.take_length, ← hnum] at hall

/-- The records are appended as a counted list. -/
theorem appendRecords_appends (unset : α) (hdoc : w.lib.Documented o)
    {append : Wbuf → Option α → PduM (Option Wbuf)}
    (happend : ∀ a b, R a b → Appends (fun wbuf => append wbuf (some a)) (c.encode b))
    {v : Codec.Counted β} (h : List.Forall₂ R items v.val) (block : ℕ) {num : UInt32}
    (hnum : num.toNat = v.val.length) :
    Appends (DtvIo.appendRecords w unset append num (some ⟨block, items⟩))
      ((c.counted (Codec.word32 o)).encode v) := by
  rw [Codec.counted_encode, ← hnum, UInt32.ofNat_toNat]
  refine Appends.seq (Appends.args hdoc ?_) ?_
  · rw [encodeArgs_cons rfl rfl, List.append_nil]
  · rw [← List.take_length (l := v.val), Codec.encodeAll_take, ← hnum]
    refine Appends.each fun idx hidx => ?_
    rw [hnum] at hidx
    obtain ⟨a, ha, href⟩ := records_ref unset h block hidx
    refine Appends.lift href ?_
    rw [List.getElem?_eq_getElem hidx, Option.toList_some, Codec.encodeAll_cons, Codec.encodeAll_nil,
      List.append_nil]
    exact happend a _ ha

theorem appendRecords_unfailing {append : Wbuf → Option α → PduM (Option Wbuf)}
    (h : ∀ a, Unfailing fun wbuf => append wbuf a) (num : UInt32) (records : Option (Records α)) :
    Unfailing (DtvIo.appendRecords w unset append num records) :=
  .seq (.args _ _) (.each fun _ => .lift fun a => h a)

end

end Tvd

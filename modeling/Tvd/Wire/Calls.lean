import Tvd.Wire.Appends
import Mathlib.Data.List.Forall2

/-! Code that only calls `append_to_pdu`, as the list of its calls. The calls are made
until one fails, so what a library makes of such code can be told from the list alone:
whether a call fails, and what was appended until then. -/

namespace Tvd

open Exec

/-- Calls of `append_to_pdu` in order, up to an argument that cannot be read. -/
abbrev AppendCalls := List (Except Fault (List Fmt × List Arg))

/-- Make the calls until one fails. -/
def appendAll (lib : Lib) : AppendCalls → DtvIo.Fill
  | [] => DtvIo.Fill.none
  | call :: calls => DtvIo.Fill.seq (fun wbuf => do
      let (fmt, args) ← Exec.lift call
      appendToPdu lib wbuf fmt args) (appendAll lib calls)

/-- The library lets one of the calls fail, after those before it worked. -/
def AppendFails (lib : Lib) : List PduOp → Pdu → AppendCalls → Prop
  | _, _, [] => False
  | _, _, .error _ :: _ => False
  | log, pdu, .ok (fmt, args) :: calls => match lib.appendToPdu log pdu fmt args with
    | .trap => False
    | .fail => True
    | .ok payload => AppendFails lib (.append true :: log) { pdu with payload } calls

section

variable {lib : Lib}

theorem appendAll_fails_iff (calls : AppendCalls) : ∀ (wbuf : Wbuf) (log : List PduOp),
    (∃ log', appendAll lib calls wbuf log = .ok (none, log')) ↔ AppendFails lib log wbuf.pdu calls := by
  induction calls with
  | nil =>
    intro wbuf log
    refine iff_of_false ?_ id
    rintro ⟨log', h⟩
    cases h
  | cons call calls ih =>
    intro wbuf log
    cases call with
    | error e =>
      refine iff_of_false ?_ id
      rintro ⟨log', h⟩
      cases h
    | ok call =>
      obtain ⟨fmt, args⟩ := call
      have hcall : appendAll lib (.ok (fmt, args) :: calls) wbuf log =
        DtvIo.Fill.seq (fun wbuf => appendToPdu lib wbuf fmt args) (appendAll lib calls) wbuf log := rfl
      rw [hcall, AppendFails]
      unfold DtvIo.Fill.seq
      cases happend : lib.appendToPdu log wbuf.pdu fmt args with
      | trap =>
        have hrun : appendToPdu lib wbuf fmt args log = .error .badArguments := by
          rw [appendToPdu, get_bind_apply, happend]
          rfl
        rw [bind_error hrun]
        refine iff_of_false ?_ id
        rintro ⟨log', h⟩
        cases h
      | fail =>
        have hrun : appendToPdu lib wbuf fmt args log = .ok (none, .append false :: log) := by
          rw [appendToPdu, get_bind_apply, happend]
          rfl
        rw [bind_ok hrun]
        exact iff_of_true ⟨_, rfl⟩ trivial
      | ok payload =>
        rw [bind_ok (appendToPdu_ok happend)]
        exact ih _ _

/-! ### Code as calls -/

theorem seq_assoc (f g h : DtvIo.Fill) :
    DtvIo.Fill.seq (DtvIo.Fill.seq f g) h = DtvIo.Fill.seq f (DtvIo.Fill.seq g h) := by
  funext wbuf
  unfold DtvIo.Fill.seq
  rw [bind_assoc]
  congr 1
  funext r
  cases r <;> rfl

theorem appendAll_append (calls calls' : AppendCalls) :
    appendAll lib (calls ++ calls') = DtvIo.Fill.seq (appendAll lib calls) (appendAll lib calls') := by
  induction calls with
  | nil => rfl
  | cons call calls ih =>
    rw [List.cons_append, appendAll, appendAll, ih]
    exact (seq_assoc _ _ _).symm

theorem seq_none (f : DtvIo.Fill) : DtvIo.Fill.seq f DtvIo.Fill.none = f := by
  funext wbuf log
  unfold DtvIo.Fill.seq
  rw [bind_apply]
  cases f wbuf log with
  | error e => rfl
  | ok r =>
    obtain ⟨r, t⟩ := r
    cases r <;> rfl

/-- A single call. -/
theorem appendAll_singleton (fmt : List Fmt) (args : List Arg) :
    appendAll lib [.ok (fmt, args)] = fun wbuf => appendToPdu lib wbuf fmt args := seq_none _

/-- A loop makes the calls of its iterations in order. -/
theorem appendEach_eq_flatMap {step : Wbuf → ℕ → PduM (Option Wbuf)} {calls : ℕ → AppendCalls}
    (h : ∀ idx, (fun wbuf => step wbuf idx) = appendAll lib (calls idx)) (n : ℕ) :
    appendEach step n = appendAll lib ((List.range n).flatMap calls) := by
  have hloop (n : ℕ) : ∀ i, accumulate (fun idx (wbuf : Wbuf) => step wbuf idx) n i =
      appendAll lib ((List.range' i n).flatMap calls) := by
    induction n with
    | zero => intro i; rfl
    | succ n ih =>
      intro i
      rw [List.range'_succ, List.flatMap_cons, appendAll_append, ← ih (i + 1), ← h i]
      funext wbuf
      rw [accumulate]
      unfold DtvIo.Fill.seq
      congr 1
      funext r
      cases r <;> rfl
  rw [List.range_eq_range', ← hloop n 0]
  rfl

/-- A loop of appends makes one call after the other. -/
theorem appendEach_eq_appendAll (calls : ℕ → Except Fault (List Fmt × List Arg)) (n : ℕ) :
    appendEach (fun wbuf idx => do
      let (fmt, args) ← Exec.lift (calls idx)
      appendToPdu lib wbuf fmt args) n = appendAll lib ((List.range n).map calls) := by
  rw [List.map_eq_flatMap]
  refine appendEach_eq_flatMap (fun idx => ?_) n
  cases hcall : calls idx with
  | error e => rfl
  | ok call => exact (appendAll_singleton call.1 call.2).symm

/-! ### What was appended -/

/-- The PDU after the calls before the first that fails. -/
def appendedPdu (lib : Lib) : List PduOp → Pdu → AppendCalls → Pdu
  | _, pdu, [] => pdu
  | _, pdu, .error _ :: _ => pdu
  | log, pdu, .ok (fmt, args) :: calls => match lib.appendToPdu log pdu fmt args with
    | .trap | .fail => pdu
    | .ok payload => appendedPdu lib (.append true :: log) { pdu with payload } calls

/-- A buffer that is returned holds what was appended. -/
theorem appendAll_appended (calls : AppendCalls) : ∀ (wbuf : Wbuf) (log : List PduOp),
    Ensures (appendAll lib calls wbuf) log fun r _ => ∀ filled, r = some filled →
      filled.pdu = appendedPdu lib log wbuf.pdu calls := by
  induction calls with
  | nil =>
    intro wbuf log
    refine ensures_pure.mpr fun filled hfilled => ?_
    cases hfilled
    rfl
  | cons call calls ih =>
    intro wbuf log
    cases call with
    | error e => exact ensures_throw.mpr trivial
    | ok call =>
      obtain ⟨fmt, args⟩ := call
      change Ensures (DtvIo.Fill.seq (fun wbuf => appendToPdu lib wbuf fmt args) (appendAll lib calls) wbuf)
        log _
      unfold DtvIo.Fill.seq
      rw [ensures_bind, appendedPdu]
      refine (appendToPdu_ensures wbuf fmt args log).mono fun r log' h => ?_
      rcases h with ⟨-, rfl, -⟩ | ⟨payload, happend, rfl, rfl⟩
      · exact ensures_pure.mpr fun _ hnone => by cases hnone
      · rw [happend]
        exact ih _ _

/-- Each call is well typed, and appends so many bytes. -/
def CallSizes (o : ByteOrder) (calls : AppendCalls) (sizes : List ℕ) : Prop :=
  List.Forall₂ (fun call size => ∃ fmt args bytes, call = .ok (fmt, args) ∧
    encodeArgs o fmt args = some bytes ∧ bytes.length = size) calls sizes

/-- The calls append the longest front of their bytes that the length field can announce. -/
theorem appendedPdu_length_le_iff {o : ByteOrder} (hdoc : lib.Documented o) {calls : AppendCalls}
    {sizes : List ℕ} (h : CallSizes o calls sizes) (capacity : ℕ) : ∀ (log : List PduOp) (pdu : Pdu),
      pdu.payload.length ≤ pduMaxDataLength →
      ((appendedPdu lib log pdu calls).payload.length ≤ capacity ↔
        ∀ k, pdu.payload.length + (sizes.take k).sum ≤ pduMaxDataLength →
          pdu.payload.length + (sizes.take k).sum ≤ capacity) := by
  induction h with
  | nil =>
    intro log pdu hpdu
    simp [appendedPdu, hpdu]
  | @cons call size calls sizes hcall _ ih =>
    intro log pdu hpdu
    obtain ⟨fmt, args, bytes, rfl, hbytes, rfl⟩ := hcall
    rw [appendedPdu]
    by_cases hroom : pdu.payload.length + bytes.length ≤ pduMaxDataLength
    · rw [hdoc.fits log pdu fmt args bytes hbytes hroom]
      dsimp only
      rw [ih _ _ (by rw [List.length_append]; exact hroom), List.length_append]
      constructor
      · intro hfront k hk
        cases k with
        | zero =>
          have hfirst := hfront 0 (by simpa using hroom)
          simp only [List.take_zero, List.sum_nil] at hfirst ⊢
          omega
        | succ k =>
          rw [List.take_succ_cons, List.sum_cons] at hk ⊢
          have hrest := hfront k (by omega)
          omega
      · intro hall k hk
        have hnext := hall (k + 1) (by rw [List.take_succ_cons, List.sum_cons]; omega)
        rw [List.take_succ_cons, List.sum_cons] at hnext
        omega
    · rw [hdoc.full log pdu fmt args bytes hbytes (not_le.mp hroom)]
      constructor
      · intro hle k hk
        cases k with
        | zero => simpa using hle
        | succ k =>
          -- the first call is already too long
          rw [List.take_succ_cons, List.sum_cons] at hk
          omega
      · intro hall
        simpa using hall 0 (by simpa using hpdu)

end

end Tvd

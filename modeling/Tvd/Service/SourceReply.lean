import Tvd.Service.Answers
import Tvd.Service.Callbacks
import Mathlib.Data.List.GetD

/-! The reply to a Set source command. A native handle goes to the client in two
parts, its integers in the payload and its descriptors beside it. The loop over the
integers begins at the right index but ends too early, so the reply carries the
whole handle exactly when the handle has no descriptors or no integers. -/

namespace Tvd

open Exec

/-! ### The documented reply -/

/-- The descriptors that go out with a buffer. -/
def Wbuf.descriptors (wbuf : Wbuf) : Except Fault (List Int32) :=
  if wbuf.hasBuilder then buildAncillaryData wbuf else .ok []

namespace NativeHandle

variable (handle : NativeHandle)

def fds : List Int32 := handle.data.take handle.numFds.toInt.toNat

def ints : List Int32 :=
  (handle.data.drop handle.numFds.toInt.toNat).take handle.numInts.toInt.toNat

/-- Both counts are proper, `data` holds what they say, and the integers fit in a
PDU behind the three fields. -/
structure Fits : Prop where
  numFds : 0 ≤ handle.numFds.toInt
  numInts : 0 ≤ handle.numInts.toInt
  data : (handle.data.length : ℤ) = handle.numFds.toInt + handle.numInts.toInt
  pdu : 12 + 4 * handle.numInts.toInt ≤ pduMaxDataLength

def header (o : ByteOrder) : List UInt8 :=
  (Codec.word32 o).encode handle.version.toUInt32 ++ (Codec.word32 o).encode handle.numFds.toUInt32 ++
    (Codec.word32 o).encode handle.numInts.toUInt32

/-- The payload that the handle is documented to have. -/
def payload (o : ByteOrder) : List UInt8 :=
  handle.header o ++ (Codec.word32 o).encodeAll (handle.ints.map Int32.toUInt32)

/-- The client puts the handle together from payload and descriptors. -/
def rebuild (o : ByteOrder) (payload : List UInt8) (fds : List Int32) : Option NativeHandle := do
  let (version, bs) ← (Codec.word32 o).decode payload
  let (numFds, bs) ← (Codec.word32 o).decode bs
  let (numInts, bs) ← (Codec.word32 o).decode bs
  let (ints, bs) ← (Codec.word32 o).decodeAll numInts.toNat bs
  if bs = [] ∧ fds.length = numFds.toNat then
    some ⟨version.toInt32, numFds.toInt32, numInts.toInt32, fds ++ ints.map UInt32.toInt32⟩
  else none

end NativeHandle

/-- The buffer carries the whole handle: payload, size and descriptors are right,
and a client gets the handle back. -/
structure Wbuf.CarriesHandle (o : ByteOrder) (wbuf : Wbuf) (handle : NativeHandle) : Prop where
  payload : wbuf.pdu.payload = handle.payload o
  capacity : wbuf.capacity = wbuf.pdu.payload.length
  descriptors : wbuf.descriptors = .ok handle.fds
  rebuilt : NativeHandle.rebuild o wbuf.pdu.payload handle.fds = some handle

namespace NativeHandle

variable {handle : NativeHandle} {o : ByteOrder}

theorem header_length : (handle.header o).length = 12 := by
  simp [header]

theorem Fits.ints_length (h : handle.Fits) : handle.ints.length = handle.numInts.toInt.toNat := by
  have hdata := h.data
  have hfds := h.numFds
  have hints := h.numInts
  rw [ints, List.length_take, List.length_drop]
  omega

theorem Fits.fds_length (h : handle.Fits) : handle.fds.length = handle.numFds.toInt.toNat := by
  have hdata := h.data
  have hfds := h.numFds
  have hints := h.numInts
  rw [fds, List.length_take]
  omega

theorem encodeAll_word32_length (l : List UInt32) :
    ((Codec.word32 o).encodeAll l).length = 4 * l.length := by
  induction l with
  | nil => rfl
  | cons v l ih =>
    rw [Codec.encodeAll_cons, List.length_append, Codec.word32_encode_length, ih, List.length_cons]
    omega

theorem toUInt32_toNat_of_nonneg {v : Int32} (h : 0 ≤ v.toInt) : v.toUInt32.toNat = v.toInt.toNat :=
  Int32.toNat_toUInt32_of_le (Int32.le_iff_toInt_le.mpr h)

/-- A client gets the handle back from the documented payload. -/
theorem Fits.rebuild_payload (h : handle.Fits) :
    rebuild o (handle.payload o) handle.fds = some handle := by
  have hints : handle.numInts.toUInt32.toNat = (handle.ints.map Int32.toUInt32).length := by
    rw [List.length_map, h.ints_length, toUInt32_toNat_of_nonneg h.numInts]
  have hfds : handle.fds.length = handle.numFds.toUInt32.toNat := by
    rw [h.fds_length, toUInt32_toNat_of_nonneg h.numFds]
  have hdata : handle.fds ++ handle.ints = handle.data := by
    have hlen := h.data
    have hnum := h.numFds
    have hnum' := h.numInts
    rw [fds, ints, List.take_of_length_le (l := List.drop _ _), List.take_append_drop]
    rw [List.length_drop]
    omega
  have hdecode := (Codec.word32 o).decodeAll_encodeAll (handle.ints.map Int32.toUInt32) []
  rw [List.append_nil] at hdecode
  have hback : (handle.ints.map Int32.toUInt32).map UInt32.toInt32 = handle.ints := by
    rw [List.map_map]
    exact (List.map_congr_left fun v _ => Int32.toInt32_toUInt32 v).trans (List.map_id _)
  unfold rebuild payload header
  simp only [List.append_assoc, Codec.decode_encode, Option.bind_eq_bind, Option.bind_some]
  rw [hints, hdecode]
  simp only [Option.bind_some, hfds, and_self, if_true, hback, hdata]
  rfl

theorem Fits.payload_length (h : handle.Fits) :
    (handle.payload o).length = 12 + 4 * handle.numInts.toInt.toNat := by
  rw [payload, List.length_append, header_length, encodeAll_word32_length, List.length_map, h.ints_length]

end NativeHandle

/-! ### The reply as it is built -/

section

variable {w : World} {o : ByteOrder} {handle : NativeHandle}

/-- The bytes that the loop over the integers appends. -/
def loopBytes (o : ByteOrder) (handle : NativeHandle) : List UInt8 :=
  (List.range (handle.numInts.toInt - handle.numFds.toInt).toNat).flatMap fun i =>
    (Codec.word32 o).encode (handle.data.getD (handle.numFds.toInt.toNat + i) 0).toUInt32

theorem loopBytes_length : (loopBytes o handle).length =
    4 * (handle.numInts.toInt - handle.numFds.toInt).toNat := by
  rw [loopBytes, List.length_flatMap]
  simp [Nat.mul_comm]

theorem fillSource_appends (hdoc : w.lib.Documented o) (h : handle.Fits) :
    Appends (DtvIo.fillSource w handle) (handle.header o ++ loopBytes o handle) := by
  refine Appends.seq (Appends.args hdoc ?_) (Appends.each fun i hi => ?_)
  · simp [encodeArgs, Fmt.encode, NativeHandle.header]
  · have hdata := h.data
    have hfds := h.numFds
    have hidx : (handle.numFds.toInt + i).toNat = handle.numFds.toInt.toNat + i := by omega
    have hlt : handle.numFds.toInt.toNat + i < handle.data.length := by omega
    have hread : handle.dataAt (handle.numFds.toInt + i) =
        .ok (handle.data.getD (handle.numFds.toInt.toNat + i) 0) := by
      rw [NativeHandle.dataAt, hidx, List.getElem?_eq_getElem hlt]
      dsimp only
      rw [if_neg (by omega), List.getD_eq_getElem _ _ hlt]
    exact Appends.lift hread (Appends.args hdoc (by simp [encodeArgs, Fmt.encode]))

/-- The capacity asked for is the size of the documented payload. -/
theorem sourceCapacity (h : handle.Fits) :
    w.platform.sizeT (4 + 4 + 4 + 4 * handle.numInts.toInt) = (handle.payload o).length := by
  have hints := h.numInts
  have hpdu := h.pdu
  have hmax : pduMaxDataLength = 65535 := rfl
  have hword : (65536 : ℤ) ≤ 2 ^ (8 * w.platform.sizeofPtr) := by
    rcases w.platform.sizeofPtr_eq with hp | hp <;> rw [hp] <;> decide
  rw [Platform.sizeT, Int.emod_eq_of_lt (by omega) (by omega), h.payload_length]
  omega

/-- With memory for it, a buffer is created that has the descriptors in its tail. -/
theorem createSourceWbuf_ok (halloc : ∀ log capacity tailLen,
    w.lib.createPduWbuf log capacity tailLen = true) (h : handle.Fits) (log : List PduOp) :
    ∃ wbuf log', DtvIo.createSourceWbuf w handle log = .ok (some wbuf, log') ∧
      wbuf.capacity = (handle.payload o).length ∧ wbuf.descriptors = .ok handle.fds := by
  have hlen := h.fds_length
  unfold DtvIo.createSourceWbuf
  dsimp only
  by_cases hzero : handle.numFds = 0
  · have hfds : handle.fds = [] := by
      rw [NativeHandle.fds, hzero]
      rfl
    rw [if_pos hzero, createPduWbuf_some (halloc _ _ _)]
    exact ⟨_, _, rfl, sourceCapacity h, by rw [hfds]; rfl⟩
  · have hdata : ¬((handle.fds.length : ℤ) < handle.numFds.toInt) := by
      have hnum := h.numFds
      omega
    have htake : handle.fds.take handle.numFds.toInt.toNat = handle.fds :=
      List.take_of_length_le hlen.le
    rw [if_neg hzero, bind_ok (createPduWbuf_some (halloc _ _ _) _)]
    dsimp only
    rw [← NativeHandle.fds, if_neg hdata]
    refine ⟨_, _, rfl, sourceCapacity h, ?_⟩
    rw [Wbuf.descriptors, if_pos rfl, buildAncillaryData]
    dsimp only
    rw [if_pos hlen.ge, htake]

/-- A Set source command whose request succeeded sends one buffer, with the
command's service and opcode and the bytes that the loop reaches. -/
theorem setSource_sends (hdoc : w.lib.Documented o) (halloc : ∀ log capacity tailLen,
    w.lib.createPduWbuf log capacity tailLen = true) {s : Daemon}
    (hsend : s.dtv.sendPdu = some .sendPdu) {cmd : Pdu} {tunerId : CString} {sourceType : UInt8}
    {rest : Fmt.Values []} (hread : w.lib.readPduAt cmd [.str, .C] = some (tunerId, sourceType, rest))
    {stream : TvStream} {env : DtvEnv} (hset : w.dtv.dtvSetSource tunerId sourceType .unset s.dtv.env =
      .ok ((tvStatusSuccess, stream), env))
    (hhandle : stream.sidebandStreamSourceHandle = some handle) (h : handle.Fits) :
    ∃ wbuf t, DtvIo.setSource w cmd s = .ok (errorNone, t) ∧
      passedWbufs t.io.log = passedWbufs s.io.log ++ [wbuf] ∧
      wbuf.pdu = ⟨cmd.service, cmd.opcode, handle.header o ++ loopBytes o handle⟩ ∧
      wbuf.capacity = (handle.payload o).length ∧ wbuf.descriptors = .ok handle.fds := by
  obtain ⟨wbuf, log, hcreate, hcapacity, hdescriptors⟩ :=
    createSourceWbuf_ok (o := o) halloc h s.pdus
  have hroom : ([] : List UInt8).length + (handle.header o ++ loopBytes o handle).length ≤
      pduMaxDataLength := by
    have hpdu := h.pdu
    have hfds := h.numFds
    have hmax : pduMaxDataLength = 65535 := rfl
    rw [List.length_nil, List.length_append, NativeHandle.header_length, loopBytes_length]
    omega
  obtain ⟨log', hfill⟩ := fillSource_appends hdoc h (wbuf.initPdu cmd.service cmd.opcode) log hroom
  generalize hreply : (wbuf.initPdu cmd.service cmd.opcode).push
    (handle.header o ++ loopBytes o handle) = sent at hfill
  -- the daemon once the buffer was created
  let u : Daemon := { s with dtv := { s.dtv with env }, pdus := log }
  obtain ⟨v, hrun, hpassed, -⟩ := DtvIo.reply_ok (w := w) (s := u) hsend hfill []
  refine ⟨sent, v, ?_, hpassed, ?_, ?_, ?_⟩
  · have hset' : onEnv (w.dtv.dtvSetSource tunerId sourceType .unset) s =
        .ok ((tvStatusSuccess, stream), { s with dtv := { s.dtv with env } }) := zoom_ok hset
    have hcreate' : onPdus (DtvIo.createSourceWbuf w handle) { s with dtv := { s.dtv with env } } =
        .ok (some wbuf, u) := zoom_ok hcreate
    unfold DtvIo.setSource
    rw [hread]
    dsimp only
    rw [bind_ok hset', if_neg (not_not.mpr rfl), hhandle]
    dsimp only
    rw [bind_ok hcreate', hrun]
  · rw [← hreply]
    rfl
  · rw [← hreply]
    exact hcapacity
  · rw [← hreply]
    exact hdescriptors

end

/-! ### Whole handles -/

section

variable {w : World} {o : ByteOrder} {handle : NativeHandle}

/-- The loop reaches the integers in front of the last `numFds` only. -/
theorem loopBytes_eq (h : handle.Fits) : loopBytes o handle = (Codec.word32 o).encodeAll
    ((handle.ints.take (handle.numInts.toInt - handle.numFds.toInt).toNat).map Int32.toUInt32) := by
  have hfds := h.numFds
  have hdata := h.data
  have hreached : handle.ints.take (handle.numInts.toInt - handle.numFds.toInt).toNat =
      (List.range (handle.numInts.toInt - handle.numFds.toInt).toNat).map fun i =>
        handle.data.getD (handle.numFds.toInt.toNat + i) 0 := by
    apply List.ext_getElem
    · rw [List.length_take, h.ints_length, List.length_map, List.length_range]
      omega
    · intro i hi hi'
      have hlt : handle.numFds.toInt.toNat + i < handle.data.length := by
        rw [List.length_map, List.length_range] at hi'
        omega
      rw [List.getElem_take, List.getElem_map, List.getElem_range, List.getD_eq_getElem _ _ hlt]
      simp [NativeHandle.ints]
  rw [hreached, loopBytes, Codec.encodeAll, List.map_map, List.flatMap_map]
  rfl

/-- A reply of these bytes is the whole handle when the loop reaches all the integers. -/
theorem carriesHandle_iff (h : handle.Fits) {wbuf : Wbuf}
    (hpayload : wbuf.pdu.payload = handle.header o ++ loopBytes o handle)
    (hcapacity : wbuf.capacity = (handle.payload o).length) (hdescriptors : wbuf.descriptors = .ok handle.fds) :
    wbuf.CarriesHandle o handle ↔ handle.numFds = 0 ∨ handle.numInts = 0 := by
  have hfds := h.numFds
  have hints := h.numInts
  constructor
  · intro hcarries
    -- the loop is shorter than the integers unless one of the counts is zero
    have hsize := congrArg List.length hcarries.payload
    rw [hpayload, h.payload_length, List.length_append, NativeHandle.header_length, loopBytes_length] at hsize
    by_contra hneither
    rw [not_or, ← Int32.toInt_inj, ← Int32.toInt_inj] at hneither
    obtain ⟨hne, hne'⟩ := hneither
    rw [Int32.toInt_zero] at hne hne'
    omega
  · intro hzero
    have hbytes : loopBytes o handle = (Codec.word32 o).encodeAll (handle.ints.map Int32.toUInt32) := by
      rw [loopBytes_eq h, List.take_of_length_le]
      rw [h.ints_length]
      rcases hzero with hzero | hzero
      · rw [hzero, Int32.toInt_zero, Int.sub_zero]
      · rw [hzero]
        exact Nat.zero_le _
    have hall : wbuf.pdu.payload = handle.payload o := by
      rw [hpayload, hbytes]
      rfl
    exact ⟨hall, by rw [hcapacity, hall], hdescriptors, by rw [hall]; exact h.rebuild_payload⟩

/-- A Set source command whose request succeeded carries the whole native handle when
the loop reaches all the integers. -/
theorem setSource_carries_whole_iff (hdoc : w.lib.Documented o) (halloc : ∀ log capacity tailLen,
    w.lib.createPduWbuf log capacity tailLen = true) {s : Daemon} (hsend : s.dtv.sendPdu = some .sendPdu)
    {cmd : Pdu} {tunerId : CString} {sourceType : UInt8} {rest : Fmt.Values []}
    (hread : w.lib.readPduAt cmd [.str, .C] = some (tunerId, sourceType, rest))
    {stream : TvStream} {env : DtvEnv} (hset : w.dtv.dtvSetSource tunerId sourceType .unset s.dtv.env =
      .ok ((tvStatusSuccess, stream), env))
    (hhandle : stream.sidebandStreamSourceHandle = some handle) (h : handle.Fits) :
    (∃ wbuf t, DtvIo.setSource w cmd s = .ok (errorNone, t) ∧
      passedWbufs t.io.log = passedWbufs s.io.log ++ [wbuf] ∧
      wbuf.pdu.service = cmd.service ∧ wbuf.pdu.opcode = cmd.opcode ∧
      wbuf.CarriesHandle o handle) ↔ handle.numFds = 0 ∨ handle.numInts = 0 := by
  obtain ⟨wbuf, t, hrun, hpassed, hpdu, hcapacity, hdescriptors⟩ :=
    setSource_sends hdoc halloc hsend hread hset hhandle h
  have hwhole := carriesHandle_iff h (congrArg Pdu.payload hpdu) hcapacity hdescriptors
  constructor
  · rintro ⟨wbuf', t', hrun', hpassed', -, -, hcarries⟩
    rw [hrun, Except.ok.injEq, Prod.mk.injEq] at hrun'
    obtain ⟨-, rfl⟩ := hrun'
    have hsent := (exists_passed_iff (P := (·.CarriesHandle o handle)) hpassed).mp ⟨wbuf', hpassed', hcarries⟩
    exact hwhole.mp hsent
  · intro hzero
    refine ⟨wbuf, t, hrun, hpassed, ?_, ?_, hwhole.mpr hzero⟩
    · rw [hpdu]
    · rw [hpdu]

/-- In every reachable state with the DTV service registered, a Set source command
whose request succeeded carries the whole native handle to the client exactly when
the handle has no descriptors or no integers. -/
theorem setSource_wholeHandle_iff (hdoc : w.lib.Documented o) (halloc : ∀ log capacity tailLen,
    w.lib.createPduWbuf log capacity tailLen = true) {s : Daemon} (hreach : Daemon.Reachable w s)
    (hregistered : s.gServiceHandler serviceDtv ≠ none) {cmd : Pdu} {tunerId : CString}
    {sourceType : UInt8} {rest : Fmt.Values []}
    (hread : w.lib.readPduAt cmd [.str, .C] = some (tunerId, sourceType, rest))
    {stream : TvStream} {env : DtvEnv} (hset : w.dtv.dtvSetSource tunerId sourceType .unset s.dtv.env =
      .ok ((tvStatusSuccess, stream), env))
    (hhandle : stream.sidebandStreamSourceHandle = some handle) (h : handle.Fits) :
    (∃ wbuf t, DtvIo.setSource w cmd s = .ok (errorNone, t) ∧
      passedWbufs t.io.log = passedWbufs s.io.log ++ [wbuf] ∧
      wbuf.pdu.service = cmd.service ∧ wbuf.pdu.opcode = cmd.opcode ∧
      wbuf.CarriesHandle o handle) ↔ handle.numFds = 0 ∨ handle.numInts = 0 :=
  setSource_carries_whole_iff hdoc halloc (hreach.wired.dtv hregistered) hread hset hhandle h

end

/-! ### A handle with descriptors -/

/-- A driver that opens everything with one handle. -/
def handleDriver (handle : NativeHandle) : Driver :=
  { steadyDriver with openStream _ _ _ := (0, handle) }

/-- A handle of two integers, and one of a descriptor and an integer. -/
def intsHandle : NativeHandle := ⟨12, 0, 2, [7, 8]⟩

def mixedHandle : NativeHandle := ⟨12, 1, 1, [7, 8]⟩

/-- A request for the tuner, once it is listed and idle, is given the driver's handle. -/
theorem handleDriver_opens (handle : NativeHandle) {env : DtvEnv} (hfit : env.hal.Fits)
    (hdev : env.hal.device = true) (hlive : env.hal.live = [⟨1, .tuner, -1⟩]) : ∃ stream env',
    (World.onDriver (handleDriver handle)).dtv.dtvSetSource tunerOne 0 .unset env =
      .ok ((tvStatusSuccess, stream), env') ∧ stream.sidebandStreamSourceHandle = some handle := by
  have hid : (parseDeviceId .lp64 tunerOne).toInt32 = 1 := by decide +kernel
  have hoffer : offered (handleDriver handle) env.hal 1 = some ⟨5, .independentVideoSource, 0, 0⟩ := rfl
  have hentry : env.hal.live[env.hal.indexOf 1]? = some ⟨1, .tuner, -1⟩ := by
    rw [TvHal.indexOf, hlive]
    rfl
  obtain ⟨hal, hrun⟩ := tvInputHalGetStream_idleEntry hfit hdev hoffer hentry rfl rfl .unset
  rw [← hid] at hrun
  exact ⟨_, _, zoom_ok hrun, rfl⟩

theorem tunerAvailable_intsHandle :
    Daemon.Reachable (.onDriver (handleDriver intsHandle)) (tunerAvailable (handleDriver intsHandle)) :=
  tunerAvailable_reachable_of (by decide +kernel)

theorem tunerAvailable_mixedHandle :
    Daemon.Reachable (.onDriver (handleDriver mixedHandle)) (tunerAvailable (handleDriver mixedHandle)) :=
  tunerAvailable_reachable_of (by decide +kernel)

theorem setSource_wholeHandle_intsHandle : ∃ wbuf t,
    DtvIo.setSource (.onDriver (handleDriver intsHandle)) ⟨1, 2, [49, 0, 0]⟩
      (tunerAvailable (handleDriver intsHandle)) = .ok (errorNone, t) ∧
    passedWbufs t.io.log = passedWbufs (tunerAvailable (handleDriver intsHandle)).io.log ++ [wbuf] ∧
    wbuf.pdu.service = 1 ∧ wbuf.pdu.opcode = 2 ∧ wbuf.CarriesHandle .little intsHandle := by
  have hfits : intsHandle.Fits := ⟨by decide, by decide, by decide, by decide⟩
  obtain ⟨stream, env, hset, hhandle⟩ := handleDriver_opens intsHandle
    tunerAvailable_intsHandle.halReady.fits (by decide +kernel) (by decide +kernel)
  exact (setSource_wholeHandle_iff Lib.reference_documented (fun _ _ _ => rfl) tunerAvailable_intsHandle
    (by decide +kernel) rfl hset hhandle hfits).mpr (.inl rfl)

/-- Of a descriptor and an integer, the integer is not sent. -/
theorem setSource_partialHandle : ¬∀ (w : World) (o : ByteOrder) (handle : NativeHandle) (s : Daemon)
    (cmd : Pdu) (tunerId : CString) (sourceType : UInt8) (rest : Fmt.Values []) (stream : TvStream)
    (env : DtvEnv), w.lib.Documented o →
    (∀ log capacity tailLen, w.lib.createPduWbuf log capacity tailLen = true) →
    Daemon.Reachable w s → s.gServiceHandler serviceDtv ≠ none →
    w.lib.readPduAt cmd [.str, .C] = some (tunerId, sourceType, rest) →
    w.dtv.dtvSetSource tunerId sourceType .unset s.dtv.env = .ok ((tvStatusSuccess, stream), env) →
    stream.sidebandStreamSourceHandle = some handle → handle.Fits →
    ∃ wbuf t, DtvIo.setSource w cmd s = .ok (errorNone, t) ∧
      passedWbufs t.io.log = passedWbufs s.io.log ++ [wbuf] ∧
      wbuf.pdu.service = cmd.service ∧ wbuf.pdu.opcode = cmd.opcode ∧
      wbuf.CarriesHandle o handle := by
  intro h
  have hfits : mixedHandle.Fits := ⟨by decide, by decide, by decide, by decide⟩
  have hregistered : (tunerAvailable (handleDriver mixedHandle)).gServiceHandler serviceDtv ≠ none := by
    decide +kernel
  have hread : (World.onDriver (handleDriver mixedHandle)).lib.readPduAt ⟨1, 2, [49, 0, 0]⟩ [.str, .C] =
      some (tunerOne, (0 : UInt8), ()) := rfl
  obtain ⟨stream, env, hset, hhandle⟩ := handleDriver_opens mixedHandle
    tunerAvailable_mixedHandle.halReady.fits (by decide +kernel) (by decide +kernel)
  have hsend := tunerAvailable_mixedHandle.wired.dtv hregistered
  have hwhole := (setSource_carries_whole_iff (o := .little) Lib.reference_documented (fun _ _ _ => rfl) hsend
    hread hset hhandle hfits).mp (h _ .little _ _ _ _ _ _ _ _ Lib.reference_documented (fun _ _ _ => rfl)
      tunerAvailable_mixedHandle hregistered hread hset hhandle hfits)
  exact absurd hwhole (by decide)

end Tvd

import Tvd.Dtv.Allocations
import Tvd.Service.Callbacks
import Tvd.Service.Exchange
import Tvd.Wire.Tuners
import Mathlib.Algebra.Order.BigOperators.Group.List

/-! The DTV service over the interface of `dtv.c`. Only Get tuners and Set source get
beyond the interface; every other command is not supported and fails, with nothing
changed but the heap. -/

namespace Tvd

open Exec

/-- The DTV interface is the one in `dtv.c`. -/
def World.IsInTree (w : World) : Prop := w.dtv = .inTree w.lib w.driver w.platform

/-- The daemon once the heap was used like this. -/
def Daemon.withHeap (s : Daemon) (ops : List HeapOp) : Daemon :=
  { s with dtv := { s.dtv with env := s.dtv.env.withHeap ops } }

theorem onEnv_withHeap {α : Type} {m : EnvM α} {s : Daemon} {a : α} {ops : List HeapOp}
    (h : m s.dtv.env = .ok (a, s.dtv.env.withHeap ops)) : onEnv m s = .ok (a, s.withHeap ops) := zoom_ok h

theorem onEnv_bind {α β : Type} (m : EnvM α) (f : α → EnvM β) :
    onEnv (m >>= f) = onEnv m >>= fun a => onEnv (f a) := zoom_bind _ m f

/-! ### Code that leaves the heap alone -/

def Daemon.heap (s : Daemon) : List HeapOp := s.dtv.env.heap

section

variable {w : World} {α : Type}

theorem keepsHeap_onIo (m : IoM α) : Keeps Daemon.heap (onIo m) := keeps_zoom (fun _ _ => rfl) m

theorem keepsHeap_onPdus (m : PduM α) : Keeps Daemon.heap (onPdus m) := keeps_zoom (fun _ _ => rfl) m

theorem keepsHeap_inEnv (m : HalM α) : Keeps (fun dtv : DtvService => dtv.env.heap) (DtvIo.inEnv (onHal m)) :=
  Keeps.zoom (keeps_zoom (fun _ _ => rfl) m)

theorem keepsHeap_call (wbuf : Wbuf) (cb : Option SendPdu) : Keeps Daemon.heap (SendPdu.call w wbuf cb) := by
  cases cb with
  | none => exact keeps_throw _ _
  | some cb =>
    cases cb
    exact (keepsHeap_onPdus _).bind fun _ => (keepsHeap_onIo _).bind fun _ => keeps_pure _ _

theorem keepsHeap_dtvSendPdu (wbuf : Wbuf) : Keeps Daemon.heap (DtvIo.sendPdu w wbuf) :=
  (keeps_get _).bind fun s => keepsHeap_call wbuf s.dtv.sendPdu

theorem keepsHeap_destroyed (wbuf : Wbuf) (status : Int32) :
    Keeps Daemon.heap (do onPdus (destroyPduWbuf wbuf); return status) :=
  (keepsHeap_onPdus _).bind fun _ => keeps_pure _ _

theorem keepsHeap_onDtv {m : DtvM α} (h : Keeps (fun dtv : DtvService => dtv.env.heap) m) :
    Keeps Daemon.heap (onDtv m) := h.zoom

theorem keepsHeap_registerDtv (hw : w.IsInTree) (cb : Option SendPdu) :
    Keeps (fun dtv : DtvService => dtv.env.heap) (DtvIo.registerDtv w cb) := by
  unfold DtvIo.registerDtv
  rw [hw]
  refine (keepsHeap_inEnv _).bind fun ret => .ite ?_ ?_
  · exact (keepsHeap_inEnv _).bind fun _ => keeps_pure _ _
  refine Keeps.bind (keeps_modify fun _ => rfl) fun _ => Keeps.bind (.zoom (keeps_pure _ _)) fun ret => ?_
  refine .ite (Keeps.bind (.zoom (keeps_pure _ _)) fun _ => keeps_pure _ _) ?_
  exact Keeps.bind (keeps_modify fun _ => rfl) fun _ => keeps_pure _ _

theorem keepsHeap_unregisterDtv (hw : w.IsInTree) :
    Keeps (fun dtv : DtvService => dtv.env.heap) (DtvIo.unregisterDtv w) := by
  unfold DtvIo.unregisterDtv
  rw [hw]
  refine (keepsHeap_inEnv _).bind fun ret => .ite (keeps_pure _ _) ?_
  refine Keeps.bind (.zoom (keeps_pure _ _)) fun ret => .ite (keeps_pure _ _) ?_
  exact Keeps.bind (keeps_modify fun _ => rfl) fun _ => keeps_pure _ _

/-- No Registry command uses the heap. -/
theorem keepsHeap_registryHandler (hw : w.IsInTree) (cmd : Pdu) :
    Keeps Daemon.heap (Registry.registryHandler w (.inTree w) cmd) := by
  have hrules : RegistryRules w (.inTree w) (Keeps Daemon.heap) :=
    { code := fun _ => keeps_pure _ _
      get := (keeps_get _).bind
      create := fun _ hnone hf => (keepsHeap_onPdus _).bind (forall_created hnone (keeps_pure _ _) hf)
      destroyed := fun wbuf _ => keepsHeap_destroyed wbuf _
      register := fun cb hregister hf => by
        obtain ⟨-, rfl⟩ := Services.dtvOnly_register hregister
        exact (keepsHeap_onDtv (keepsHeap_registerDtv hw cb)).bind hf
      unregister := fun hunregister hf => by
        obtain ⟨-, rfl⟩ := Services.dtvOnly_unregister hunregister
        exact (keepsHeap_onDtv (keepsHeap_unregisterDtv hw)).bind hf
      setHandler := fun _ _ hf => Keeps.bind (keeps_modify fun _ => rfl) fun _ => hf
      append := fun _ _ _ hf => (keepsHeap_onPdus _).bind hf
      send := fun wbuf => ((keeps_get _).bind fun s => keepsHeap_call wbuf s.gSendPdu).bind
        fun _ => keeps_pure _ _ }
  exact hrules.registryHandler cmd

end

/-! ### Commands that fail -/

/-- The code returns an error, and has freed no field that was never stored. -/
def FailsClean (p : DaemonM Int32) (s : Daemon) : Prop :=
  ∃ status ops, p s = .ok (status, s.withHeap ops) ∧ status ≠ errorNone ∧ HeapOp.free none ∉ ops

theorem FailsClean.error {status : Int32} (h : status ≠ errorNone) (s : Daemon) :
    FailsClean (pure status) s := ⟨status, [], rfl, h, List.not_mem_nil⟩

theorem statusCode_notSupported_ne : DtvIo.statusCode tvStatusNotSupported ≠ errorNone := by decide

section

variable {w : World} {cmd : Pdu} {s : Daemon}

namespace DtvIo

theorem scanCommand_fails {scan : CString → UInt8 → EnvM UInt8}
    (hscan : ∀ id type, scan id type = pure tvStatusNotSupported) (cmd : Pdu) (s : Daemon) :
    FailsClean (scanCommand w scan cmd) s := by
  unfold scanCommand
  cases w.lib.readPduAt cmd [.str, .C] with
  | none => exact .error (by decide) s
  | some values =>
    dsimp only
    rw [hscan]
    exact .error statusCode_notSupported_ne s

theorem cleanCache_fails (hw : w.IsInTree) (cmd : Pdu) (s : Daemon) : FailsClean (cleanCache w cmd) s := by
  unfold cleanCache
  rw [hw]
  exact .error statusCode_notSupported_ne s

theorem getChannels_fails (hw : w.IsInTree) (cmd : Pdu) (s : Daemon) :
    FailsClean (getChannels w cmd) s := by
  unfold getChannels
  cases w.lib.readPduAt cmd [.str, .C] with
  | none => exact .error (by decide) s
  | some values =>
    dsimp only
    rw [hw]
    exact ⟨_, [_], rfl, statusCode_notSupported_ne, by simp⟩

theorem getPrograms_fails (hw : w.IsInTree) (cmd : Pdu) (s : Daemon) :
    FailsClean (getPrograms w cmd) s := by
  unfold getPrograms
  cases w.lib.readPduAt cmd [.str, .C, .str, .L, .L] with
  | none => exact .error (by decide) s
  | some values =>
    dsimp only
    rw [hw]
    exact ⟨_, [_], rfl, statusCode_notSupported_ne, by simp⟩

/-- The record of a channel is allocated, and released as it is. -/
def ReleasesChannel (w : World) (cmd : Pdu) (s : Daemon) : Prop :=
  cmd.opcode = opcodeSetChannel ∧ w.lib.readPduAt cmd [.str, .C, .str] ≠ none ∧
    w.lib.malloc s.dtv.env.heap w.platform.sizeofTvChannel = true

theorem setChannel_fails (hw : w.IsInTree) (hopcode : cmd.opcode = opcodeSetChannel) (s : Daemon) :
    ∃ status ops, setChannel w cmd s = .ok (status, s.withHeap ops) ∧ status ≠ errorNone ∧
      (HeapOp.free none ∈ ops ↔ ReleasesChannel w cmd s) := by
  unfold setChannel ReleasesChannel
  cases w.lib.readPduAt cmd [.str, .C, .str] with
  | none => exact ⟨errorFail, [], rfl, by decide, by simp⟩
  | some values =>
    dsimp only
    cases hmalloc : w.lib.malloc s.dtv.env.heap w.platform.sizeofTvChannel with
    | false =>
      have hrun : onEnv (onHeap (malloc w.lib w.platform.sizeofTvChannel)) s =
          .ok (none, s.withHeap [.malloc w.platform.sizeofTvChannel false]) :=
        onEnv_withHeap (onHeap_malloc_null hmalloc)
      rw [bind_ok hrun, hw]
      exact ⟨_, [_], rfl, statusCode_notSupported_ne, by simp⟩
    | true =>
      have hrun : onEnv (onHeap (malloc w.lib w.platform.sizeofTvChannel)) s =
          .ok (some s.dtv.env.heap.length, s.withHeap [.malloc w.platform.sizeofTvChannel true]) :=
        onEnv_withHeap (onHeap_malloc_ok hmalloc)
      rw [bind_ok hrun, hw]
      refine ⟨_, (releaseChannels 1 (some ⟨s.dtv.env.heap.length, []⟩)).reverse ++ [_], rfl,
        statusCode_notSupported_ne, iff_of_true ?_ ⟨hopcode, Option.some_ne_none _, rfl⟩⟩
      refine List.mem_append_left _ (List.mem_reverse.mpr ?_)
      exact List.mem_cons_of_mem _ List.mem_cons_self

/-- Every other command fails. -/
theorem dtvHandler_fails (hw : w.IsInTree) (hget : cmd.opcode ≠ opcodeGetTuners)
    (hset : cmd.opcode ≠ opcodeSetSource) (s : Daemon) :
    ∃ status ops, dtvHandler w cmd s = .ok (status, s.withHeap ops) ∧ status ≠ errorNone ∧
      (HeapOp.free none ∈ ops ↔ ReleasesChannel w cmd s) := by
  have hclean {p : DaemonM Int32} (hopcode : cmd.opcode ≠ opcodeSetChannel) (h : FailsClean p s) :
      ∃ status ops, p s = .ok (status, s.withHeap ops) ∧ status ≠ errorNone ∧
        (HeapOp.free none ∈ ops ↔ ReleasesChannel w cmd s) := by
    obtain ⟨status, ops, hrun, hstatus, hfree⟩ := h
    exact ⟨status, ops, hrun, hstatus, iff_of_false hfree fun h => hopcode h.1⟩
  have hne {opcode : UInt8} (h : cmd.opcode = opcode) (hother : opcode ≠ opcodeSetChannel) :
      cmd.opcode ≠ opcodeSetChannel := fun heq => hother (h.symm.trans heq)
  rw [dtvHandler_eq]
  unfold commandTable
  rw [if_neg hget, if_neg hset]
  have hstart (id : CString) (type : UInt8) : w.dtv.dtvStartScanning id type = pure tvStatusNotSupported := by
    rw [hw]
    rfl
  have hstop (id : CString) (type : UInt8) : w.dtv.dtvStopScanning id type = pure tvStatusNotSupported := by
    rw [hw]
    rfl
  by_cases hstartScan : cmd.opcode = opcodeStartScan
  · rw [if_pos hstartScan]
    exact hclean (hne hstartScan (by decide)) (scanCommand_fails hstart cmd s)
  rw [if_neg hstartScan]
  by_cases hstopScan : cmd.opcode = opcodeStopScan
  · rw [if_pos hstopScan]
    exact hclean (hne hstopScan (by decide)) (scanCommand_fails hstop cmd s)
  rw [if_neg hstopScan]
  by_cases hclear : cmd.opcode = opcodeClearCache
  · rw [if_pos hclear]
    exact hclean (hne hclear (by decide)) (cleanCache_fails hw cmd s)
  rw [if_neg hclear]
  by_cases hchannel : cmd.opcode = opcodeSetChannel
  · rw [if_pos hchannel]
    exact setChannel_fails hw hchannel s
  rw [if_neg hchannel]
  by_cases hchannels : cmd.opcode = opcodeGetChannel
  · rw [if_pos hchannels]
    exact hclean hchannel (getChannels_fails hw cmd s)
  rw [if_neg hchannels]
  by_cases hprograms : cmd.opcode = opcodeGetProgram
  · rw [if_pos hprograms]
    exact hclean hchannel (getPrograms_fails hw cmd s)
  rw [if_neg hprograms]
  exact hclean hchannel (.error (by decide) s)

end DtvIo

/-! ### Get tuners -/

/-- The size of the reply with these tuners. -/
def tunersSize (ids : List Int32) : ℕ := 4 + (ids.map fun id => (tunerString id).strlen + 5).sum

theorem tunerString_strlen_lt (id : Int32) : (tunerString id).strlen < 256 := by
  have hlen := (getIntLength id.toUInt32).toNat_lt
  rw [tunerString, CString.strlen, snprintfInt, List.length_take]
  omega

theorem tunersSize_le {ids : List Int32} (hlen : ids.length ≤ 100) : tunersSize ids ≤ 26004 := by
  have hsum : (ids.map fun id => (tunerString id).strlen + 5).sum ≤ ids.length * 260 := by
    refine (List.sum_le_card_nsmul _ 260 fun n hn => ?_).trans_eq ?_
    · obtain ⟨id, -, rfl⟩ := List.mem_map.mp hn
      have hstr := tunerString_strlen_lt id
      omega
    · rw [List.length_map]
      rfl
  rw [tunersSize]
  omega

theorem tunersSize_lt {ids : List Int32} (hlen : ids.length ≤ 100) : tunersSize ids < UInt32.size :=
  (tunersSize_le hlen).trans_lt (by decide)

theorem length_noTypes : ([] : List UInt8).length < 2 ^ 32 := Nat.two_pow_pos 32

/-- What a record of the interface holds: an id without types. -/
def idTuner (id : Int32) : Wire.Tuner := ⟨tunerString id, ⟨[], length_noTypes⟩⟩

theorem tunerRecords_holds (ids : List Int32) : ∀ block,
    List.Forall₂ TvTuner.Holds (tunerRecords block ids) (ids.map idTuner) := by
  induction ids with
  | nil => exact fun _ => .nil
  | cons id ids ih =>
    intro block
    exact .cons ⟨rfl, rfl, fun idx h => absurd h (Nat.not_lt_zero idx)⟩ (ih (block + 1))

theorem idTuner_length (o : ByteOrder) (id : Int32) :
    ((Wire.Tuner.codec o).encode (idTuner id)).length = (tunerString id).strlen + 5 := by
  rw [Wire.Tuner.codec_encode]
  simp only [List.length_append, CString.codec_encode_length, Codec.word32_encode_length, idTuner]
  rfl

theorem sizeRecords_tuners {ids : List Int32} (hlen : ids.length ≤ 100) (array block : ℕ) :
    DtvIo.sizeRecords .unset calculateTunerSize (UInt32.ofNat ids.length)
      (some ⟨array, tunerRecords block ids⟩) 4 = .ok (UInt32.ofNat (tunersSize ids)) := by
  have hnum : (UInt32.ofNat ids.length).toNat = (ids.map idTuner).length := by
    rw [List.length_map]
    exact UInt32.toNat_ofNat_of_lt' (hlen.trans_lt (by decide))
  have hsize : DtvIo.sizeRecords .unset calculateTunerSize (UInt32.ofNat ids.length)
      (some ⟨array, tunerRecords block ids⟩) 4 =
        .ok (UInt32.ofNat (4 + ((Wire.Tuner.codec .little).encodeAll (ids.map idTuner)).length)) :=
    sizeRecords_eq (fun _ _ h => h.calculateTunerSize) (tunerRecords_holds ids block) array hnum 4
  rw [Codec.length_encodeAll, List.map_map] at hsize
  have hsum : (ids.map ((fun a => ((Wire.Tuner.codec .little).encode a).length) ∘ idTuner)).sum =
      (ids.map fun id => (tunerString id).strlen + 5).sum := by
    refine congrArg List.sum (List.map_congr_left fun id _ => ?_)
    exact idTuner_length .little id
  rw [hsum] at hsize
  exact hsize

namespace DtvIo

/-- The end of `get_tuners`, with the records at hand. -/
def answerTuners (w : World) (cmd : Pdu) (tunerNum : UInt32) (tuners : Option (Records TvTuner)) :
    DaemonM Int32 := do
  let pduSize ← Exec.lift (sizeRecords .unset calculateTunerSize tunerNum tuners 4)
  createReply w cmd pduSize.toNat (appendRecords w .unset (appendTuner w.lib) tunerNum tuners)
    (releaseTuners tunerNum tuners)

/-- Get tuners is the query and the reply. -/
theorem getTuners_eq (hw : w.IsInTree) (cmd : Pdu) : getTuners w cmd = (do
    let (tunerNum, block, ret, items) ← onEnv (queryTuners w.lib w.platform)
    if ret ≠ tvStatusSuccess then return errorFail
    answerTuners w cmd tunerNum (block.map fun block => Records.mk block items)) := by
  rw [queryTuners, onEnv_bind, bind_assoc, getTuners, hw]
  refine congrArg _ (funext fun tunerNum => ?_)
  rw [onEnv_bind, bind_assoc]
  refine congrArg _ (funext fun block => ?_)
  rw [onEnv_bind, bind_assoc]
  rfl

/-- With everything allocated, the records of the tuners are sent and released. -/
theorem getTuners_listed (hw : w.IsInTree) (hfit : s.dtv.env.hal.Fits)
    (halloc : Allocates w.lib s.dtv.env.heap (tunersAllocations w.platform s.dtv.env.tunerIds)) (cmd : Pdu) :
    let ids := s.dtv.env.tunerIds
    let tuners := some (Records.mk s.dtv.env.heap.length (tunerRecords (s.dtv.env.heap.length + 2) ids))
    getTuners w cmd s = createReply w cmd (tunersSize ids)
      (appendRecords w .unset (appendTuner w.lib) (UInt32.ofNat ids.length) tuners)
      (releaseTuners (UInt32.ofNat ids.length) tuners)
      (s.withHeap (.free (some (s.dtv.env.heap.length + 1)) :: allocated (tunersAllocations w.platform ids))) := by
  intro ids tuners
  have hlen : ids.length ≤ 100 := DtvEnv.tunerIds_length_le hfit
  have hquery : onEnv (queryTuners w.lib w.platform) s = .ok _ := onEnv_withHeap (queryTuners_ok hfit halloc)
  have hsize : sizeRecords .unset calculateTunerSize (UInt32.ofNat ids.length) tuners 4 =
      .ok (UInt32.ofNat (tunersSize ids)) := sizeRecords_tuners hlen _ _
  have htoNat : (UInt32.ofNat (tunersSize ids)).toNat = tunersSize ids :=
    UInt32.toNat_ofNat_of_lt' (tunersSize_lt hlen)
  rw [getTuners_eq hw, bind_ok hquery]
  change answerTuners w cmd (UInt32.ofNat ids.length) tuners _ = _
  rw [answerTuners, hsize]
  change createReply w cmd (UInt32.ofNat (tunersSize ids)).toNat _ _ _ = _
  rw [htoNat]

/-- With a tuner listed and an allocation that fails, it stores through NULL. -/
theorem getTuners_null (hw : w.IsInTree) (hfit : s.dtv.env.hal.Fits) (hlisted : s.dtv.env.tunerIds ≠ [])
    (hnot : ¬Allocates w.lib s.dtv.env.heap (tunersAllocations w.platform s.dtv.env.tunerIds)) (cmd : Pdu) :
    getTuners w cmd s = .error .nullPointer := by
  have hquery : onEnv (queryTuners w.lib w.platform) s = .error .nullPointer :=
    zoom_error (queryTuners_null hfit hlisted hnot)
  rw [getTuners_eq hw]
  exact bind_error hquery _

/-- With none, the reply is an empty list, and there are no records to release. -/
theorem getTuners_empty (hw : w.IsInTree) (hfit : s.dtv.env.hal.Fits) (hlisted : s.dtv.env.tunerIds = [])
    (cmd : Pdu) : ∃ tuners frees ok ok',
      getTuners w cmd s = createReply w cmd 4 (appendRecords w .unset (appendTuner w.lib) 0 tuners)
        (releaseTuners 0 tuners) (s.withHeap (frees ++ [.malloc 0 ok, .malloc 0 ok'])) ∧
      ∀ op ∈ frees, ∃ block, op = .free (some block) := by
  obtain ⟨block, frees, ok, ok', hrun, hfrees⟩ : ∃ tuners frees ok ok',
      queryTuners w.lib w.platform s.dtv.env = .ok ((0, tuners, tvStatusSuccess, []),
        s.dtv.env.withHeap (frees ++ [.malloc 0 ok, .malloc 0 ok'])) ∧
          ∀ op ∈ frees, ∃ block, op = .free (some block) := queryTuners_empty hfit hlisted
  refine ⟨block.map fun block => ⟨block, []⟩, frees, ok, ok', ?_, hfrees⟩
  have hquery : onEnv (queryTuners w.lib w.platform) s = .ok _ := onEnv_withHeap hrun
  rw [getTuners_eq hw, bind_ok hquery]
  rfl

end DtvIo

/-! ### Replies -/

namespace DtvIo

/-- What a reply is made of is released once there is a buffer for it. -/
theorem reply_heap (cmd : Pdu) (wbuf : Option Wbuf) (fill : Fill) (release : List HeapOp) (s : Daemon) :
    Ensures (reply w cmd wbuf fill release) s fun _ t =>
      t.heap = (if wbuf.isSome then release.reverse else []) ++ s.heap := by
  cases wbuf with
  | none => exact ensures_pure.mpr rfl
  | some wbuf =>
  have hrelease (u : Daemon) : Ensures (onEnv (onHeap (heapOps release))) u fun _ t =>
      t.heap = release.reverse ++ u.heap :=
    ensures_zoom.mpr (ensures_zoom.mpr (ensures_modify.mpr rfl))
  unfold reply
  dsimp only
  rw [ensures_bind]
  refine (keepsHeap_onPdus _ s).mono fun filled t ht => ?_
  cases filled with
  | none =>
    rw [ensures_bind]
    refine (hrelease t).mono fun _ u hu => ?_
    refine (keepsHeap_destroyed _ _ u).mono fun _ v hv => ?_
    rw [hv, hu, ht]
    rfl
  | some wbuf =>
    rw [ensures_bind]
    refine (keepsHeap_dtvSendPdu wbuf t).mono fun _ u hu => ?_
    rw [ensures_bind]
    refine (hrelease u).mono fun _ v hv => ensures_pure.mpr ?_
    rw [hv, hu, ht]
    rfl

theorem createReply_heap (cmd : Pdu) (capacity : ℕ) (fill : Fill) (release : List HeapOp) (s : Daemon) :
    Ensures (createReply w cmd capacity fill release) s fun _ t =>
      t.heap = (if w.lib.createPduWbuf s.pdus capacity 0 = true then release.reverse else []) ++ s.heap := by
  rw [createReply, ensures_bind, ensures_zoom]
  intro wbuf log hcreate
  refine (reply_heap cmd wbuf fill release _).mono fun _ t ht => ht.trans ?_
  cases halloc : w.lib.createPduWbuf s.pdus capacity 0 with
  | false =>
    cases hcreate.symm.trans (createPduWbuf_none halloc false)
    rfl
  | true =>
    cases hcreate.symm.trans (createPduWbuf_some halloc _)
    rfl

/-- Set source has no records to release. -/
theorem keepsHeap_setSource (hw : w.IsInTree) (cmd : Pdu) : Keeps Daemon.heap (setSource w cmd) := by
  unfold setSource
  rw [hw]
  cases w.lib.readPduAt cmd [.str, .C] with
  | none => exact keeps_pure _ _
  | some values =>
    have hset (id : CString) (type : UInt8) :
        Keeps Daemon.heap (onEnv (dtvSetSource w.driver w.platform id type .unset)) :=
      Keeps.zoom (keeps_zoom (fun _ _ => rfl) _)
    obtain ⟨tunerId, sourceType, rest⟩ := values
    refine (hset tunerId sourceType).bind fun result => .ite (keeps_pure _ _) ?_
    split
    · exact keeps_throw _ _
    refine (keepsHeap_onPdus _).bind fun wbuf s => (reply_heap cmd wbuf _ [] s).mono fun _ t ht => ?_
    rw [ht]
    split
    · rfl
    · rfl

end DtvIo

/-! ### A command and its service -/

theorem DtvIo.dtvHandler_getTuners (h : cmd.opcode = DtvIo.opcodeGetTuners) :
    DtvIo.dtvHandler w cmd = DtvIo.getTuners w cmd := by
  rw [DtvIo.dtvHandler_eq]
  unfold DtvIo.commandTable
  rw [if_pos h]

theorem DtvIo.dtvHandler_setSource (h : cmd.opcode = DtvIo.opcodeSetSource) :
    DtvIo.dtvHandler w cmd = DtvIo.setSource w cmd := by
  have hother : cmd.opcode ≠ DtvIo.opcodeGetTuners := by
    rw [h]
    decide
  rw [DtvIo.dtvHandler_eq]
  unfold DtvIo.commandTable
  rw [if_neg hother, if_pos h]

/-- The code that a command runs. -/
theorem serve_cases (hreach : Daemon.Reachable w s) (cmd : Pdu) :
    (cmd.service = serviceRegistry ∧
      Io.serve w (.inTree w) (s.logged cmd) cmd = Registry.registryHandler w (.inTree w) cmd) ∨
    (cmd.service = serviceDtv ∧ s.gServiceHandler serviceDtv ≠ none ∧
      Io.serve w (.inTree w) (s.logged cmd) cmd = DtvIo.dtvHandler w cmd) ∨
    (cmd.service ≠ serviceRegistry ∧ (cmd.service = serviceDtv → s.gServiceHandler serviceDtv = none) ∧
      Io.serve w (.inTree w) (s.logged cmd) cmd = pure errorUnsupported) := by
  have hinstalled := hreach.installed
  by_cases hregistry : cmd.service = serviceRegistry
  · have htable : (s.logged cmd).gServiceHandler cmd.service = some .registryHandler := by
      rw [hregistry]
      exact hinstalled.registry
    exact .inl ⟨hregistry, Io.serve_registry htable⟩
  by_cases hregistered : cmd.service = serviceDtv ∧ s.gServiceHandler serviceDtv ≠ none
  · have htable : (s.logged cmd).gServiceHandler cmd.service = some .dtvHandler := by
      rw [hregistered.1]
      exact hreach.dtvHandler hregistered.2
    exact .inr (.inl ⟨hregistered.1, hregistered.2, Io.serve_dtv htable⟩)
  have hdtv (hservice : cmd.service = serviceDtv) : s.gServiceHandler serviceDtv = none := by
    by_contra hne
    exact hregistered ⟨hservice, hne⟩
  have htable : (s.logged cmd).gServiceHandler cmd.service = none := by
    by_cases hservice : cmd.service = serviceDtv
    · rw [hservice]
      exact hdtv hservice
    · exact hinstalled.others _ hregistry hservice
  exact .inr (.inr ⟨hregistry, hdtv, Io.serve_none htable⟩)

end

end Tvd

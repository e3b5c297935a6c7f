import Tvd.Service.Answers
import Tvd.Service.Device
import Tvd.Wire.Calls

/-! A Set source command that fails. The stream is opened and stored before there is a
reply, and neither is undone, so a reply that cannot be created or filled tells the
client of a failure while the stream goes on. Before that, a failure changes nothing. -/

namespace Tvd

open Exec

/-! ### The reply -/

section

variable {w : World} {handle : NativeHandle}

/-- The calls that fill the reply: the three fields, then an integer in each iteration. -/
def NativeHandle.fieldsCall (handle : NativeHandle) : List Fmt × List Arg :=
  ([.I, .I, .I], [.int handle.version.toUInt32, .int handle.numFds.toUInt32, .int handle.numInts.toUInt32])

def NativeHandle.intCall (handle : NativeHandle) (i : ℕ) : Except Fault (List Fmt × List Arg) :=
  (handle.dataAt (handle.numFds.toInt + i)).map fun v => ([.I], [.int v.toUInt32])

def NativeHandle.appendCalls (handle : NativeHandle) : AppendCalls :=
  .ok handle.fieldsCall ::
    (List.range (handle.numInts.toInt - handle.numFds.toInt).toNat).map handle.intCall

theorem fillSource_eq : DtvIo.fillSource w handle = appendAll w.lib handle.appendCalls := by
  rw [NativeHandle.appendCalls, appendAll, ← appendEach_eq_appendAll handle.intCall]
  unfold DtvIo.fillSource
  congr 1
  funext wbuf
  congr 1
  funext wbuf i
  unfold NativeHandle.intCall
  cases handle.dataAt (handle.numFds.toInt + i) <;> rfl

/-- The sizes that the reply is created with. -/
def NativeHandle.replySize (p : Platform) (handle : NativeHandle) : ℕ :=
  p.sizeT (4 + 4 + 4 + 4 * handle.numInts.toInt)

def NativeHandle.tailSize (p : Platform) (handle : NativeHandle) : ℕ :=
  if handle.numFds = 0 then 0
  else p.sizeT (p.sizeofPtr + 4 + 4 * handle.numFds.toInt + p.cmsgSpace (p.sizeT (4 * handle.numFds.toInt)))

/-- There is no memory for the reply, or an append to it fails. With descriptors, a
reply without memory, or a handle without its descriptors, ends the process. -/
inductive ReplyFails (w : World) (cmd : Pdu) (handle : NativeHandle) (log : List PduOp) : Prop
  | noMemory (hfds : handle.numFds = 0)
      (hcreate : w.lib.createPduWbuf log (handle.replySize w.platform) 0 = false)
  | unfilled (hdata : handle.numFds.toInt ≤ handle.data.length)
      (hcreate : w.lib.createPduWbuf log (handle.replySize w.platform) (handle.tailSize w.platform) = true)
      (happend : AppendFails w.lib
        (.create (handle.replySize w.platform) (handle.tailSize w.platform) true :: log)
        ⟨cmd.service, cmd.opcode, []⟩ handle.appendCalls)

/-- The buffer of the reply, by the memory for it and by the data of the handle. -/
theorem createSourceWbuf_cases (handle : NativeHandle) (log : List PduOp) :
    (w.lib.createPduWbuf log (handle.replySize w.platform) (handle.tailSize w.platform) = false ∧
      handle.numFds = 0 ∧ ∃ log', DtvIo.createSourceWbuf w handle log = .ok (none, log')) ∨
    (((w.lib.createPduWbuf log (handle.replySize w.platform) (handle.tailSize w.platform) = false ∧
        handle.numFds ≠ 0) ∨ handle.data.length < handle.numFds.toInt) ∧
      ∃ e, DtvIo.createSourceWbuf w handle log = .error e) ∨
    (w.lib.createPduWbuf log (handle.replySize w.platform) (handle.tailSize w.platform) = true ∧
      handle.numFds.toInt ≤ handle.data.length ∧ ∃ wbuf, DtvIo.createSourceWbuf w handle log =
        .ok (some wbuf, .create (handle.replySize w.platform) (handle.tailSize w.platform) true :: log)) := by
  unfold DtvIo.createSourceWbuf
  dsimp only
  rw [← NativeHandle.replySize]
  by_cases hfds : handle.numFds = 0
  · have htail : handle.tailSize w.platform = 0 := if_pos hfds
    rw [if_pos hfds, htail]
    cases halloc : w.lib.createPduWbuf log (handle.replySize w.platform) 0 with
    | false => exact .inl ⟨rfl, hfds, _, createPduWbuf_none halloc _⟩
    | true =>
      refine .inr (.inr ⟨rfl, ?_, _, createPduWbuf_some halloc _⟩)
      rw [hfds, Int32.toInt_zero]
      omega
  · have htail : handle.tailSize w.platform = _ := if_neg hfds
    rw [if_neg hfds, ← htail]
    cases halloc : w.lib.createPduWbuf log (handle.replySize w.platform) (handle.tailSize w.platform) with
    | false =>
      rw [bind_ok (createPduWbuf_none halloc _)]
      exact .inr (.inl ⟨.inl ⟨rfl, hfds⟩, _, rfl⟩)
    | true =>
      rw [bind_ok (createPduWbuf_some halloc _)]
      dsimp only
      have hlen : (handle.data.take handle.numFds.toInt.toNat).length < handle.numFds.toInt ↔
          handle.data.length < handle.numFds.toInt := by
        rw [List.length_take]
        omega
      by_cases hdata : (handle.data.take handle.numFds.toInt.toNat).length < handle.numFds.toInt
      · rw [if_pos hdata]
        exact .inr (.inl ⟨.inr (hlen.mp hdata), _, rfl⟩)
      · rw [if_neg hdata]
        exact .inr (.inr ⟨rfl, by rw [hlen] at hdata; omega, _, rfl⟩)

/-- A reply reports a failure exactly when it could not be filled. -/
theorem reply_fails_iff {cmd : Pdu} {wbuf : Wbuf} {fill : DtvIo.Fill} (release : List HeapOp) (s : Daemon) :
    (∃ status t, DtvIo.reply w cmd (some wbuf) fill release s = .ok (status, t) ∧ status ≠ errorNone) ↔
      ∃ log, fill (wbuf.initPdu cmd.service cmd.opcode) s.pdus = .ok (none, log) := by
  constructor
  · rintro ⟨status, t, hrun, hstatus⟩
    obtain ⟨r, u, hfill, hrest⟩ := bind_eq_ok.mp hrun
    obtain ⟨_, log, hlog, heq⟩ := zoom_eq_ok.mp hfill
    cases heq
    cases r with
    | none => exact ⟨log, hlog⟩
    | some filled =>
      obtain ⟨_, v, -, hrest⟩ := bind_eq_ok.mp hrest
      obtain ⟨_, v', -, hpure⟩ := bind_eq_ok.mp hrest
      cases hpure
      exact absurd rfl hstatus
  · rintro ⟨log, hfill⟩
    have hfill' : onPdus (fill (wbuf.initPdu cmd.service cmd.opcode)) s =
        .ok (none, { s with pdus := log }) := zoom_ok hfill
    rw [DtvIo.reply, bind_ok hfill']
    exact ⟨errorNomem, _, rfl, by decide⟩

/-- What becomes of the reply once the stream is open. -/
theorem sourceReply_fails_iff {cmd : Pdu} (s : Daemon) :
    (∃ status t, (do
        let wbuf ← onPdus (DtvIo.createSourceWbuf w handle)
        DtvIo.reply w cmd wbuf (DtvIo.fillSource w handle) []) s = .ok (status, t) ∧
      status ≠ errorNone) ↔ ReplyFails w cmd handle s.pdus := by
  rcases createSourceWbuf_cases (w := w) handle s.pdus with
    ⟨hcreate, hfds, log, hrun⟩ | ⟨hcrash, e, hrun⟩ | ⟨hcreate, hdata, wbuf, hrun⟩
  · have htail : handle.tailSize w.platform = 0 := if_pos hfds
    rw [htail] at hcreate
    rw [bind_ok (zoom_ok hrun)]
    exact iff_of_true ⟨errorNomem, _, rfl, by decide⟩ (.noMemory hfds hcreate)
  · rw [bind_error (zoom_error hrun)]
    refine iff_of_false ?_ ?_
    · rintro ⟨status, t, h, -⟩
      cases h
    · rintro (⟨hfds, -⟩ | ⟨hdata, hcreate, -⟩)
      · rcases hcrash with ⟨-, hne⟩ | hshort
        · exact hne hfds
        · rw [hfds, Int32.toInt_zero] at hshort
          omega
      · rcases hcrash with ⟨hfail, -⟩ | hshort
        · exact absurd (hfail.symm.trans hcreate) (by decide)
        · omega
  · rw [bind_ok (zoom_ok hrun), reply_fails_iff, fillSource_eq]
    refine (appendAll_fails_iff _ _ _).trans ⟨fun happend => .unfilled hdata hcreate happend, ?_⟩
    rintro (⟨hfds, hfail⟩ | ⟨-, -, happend⟩)
    · have htail : handle.tailSize w.platform = 0 := if_pos hfds
      rw [htail, hfail] at hcreate
      cases hcreate
    · exact happend

end

/-! ### What the driver does -/

/-- What lasts of a command: no stream is open that was not, and the list is the same. -/
structure TvHal.SameStreams (s t : TvHal) : Prop where
  opened : openPairs t.calls ⊆ openPairs s.calls
  deviceNum : t.deviceNum = s.deviceNum
  deviceList : t.deviceList = s.deviceList

/-- The driver has a stream for the device and opens it, and the list has an entry to
store it in: that of the device, or the one behind the live entries. -/
structure OpensFor (driver : Driver) (s : TvHal) (deviceId : Int32) (config : TvStreamConfig)
    (handle : NativeHandle) (info : DeviceInfo) : Prop where
  device : s.device = true
  offered : offered driver s deviceId = some config
  opened : driver.openStream (s.asked driver deviceId).calls deviceId config.streamId = (0, handle)
  entry : s.deviceList[s.indexOf deviceId]? = some info

section

variable {s t : TvHal} {driver : Driver} {deviceId : Int32} {tvStream : TvStream}

theorem TvHal.SameStreams.refl (s : TvHal) : s.SameStreams s := ⟨subset_rfl, rfl, rfl⟩

/-- Without an acting stream, the device's entry is where the stream goes. -/
theorem tvInputHalGetStream_idle (hfit : s.Fits) (hdev : s.device = true)
    (hidle : ∀ id, (deviceId, id) ∉ actingPairs s.live) (tvStream : TvStream) :
    tvInputHalGetStream driver deviceId tvStream s =
      match offered driver s deviceId with
      | none => .ok ((tvStatusFail, tvStream), s.asked driver deviceId)
      | some config => openAndStore driver deviceId (s.indexOf deviceId) config.streamId
          (tvStream.configure config) (s.asked driver deviceId) := by
  rw [tvInputHalGetStream_eq hfit hdev]
  have hlen := hfit.live_length
  cases offered driver s deviceId with
  | none => rfl
  | some config =>
    dsimp only
    rcases lookup_closing hfit deviceId with ⟨hnone, hge, -⟩ | ⟨h, -, hsome⟩
    · have hle : s.indexOf deviceId ≤ s.live.length := firstIdx_le deviceId s.live
      have hnum : s.deviceNum.toNat = s.indexOf deviceId := by omega
      rw [hnone, hnum]
    · have hacting : s.live[s.indexOf deviceId].actingStreamId = -1 := by
        by_contra hacting
        exact hidle _ (mem_actingPairs.mpr ⟨_, List.getElem_mem h, getElem_firstIdx h, rfl, hacting⟩)
      rw [hsome]
      dsimp only
      rw [if_pos hacting]

/-- The state once the stream is open and stored. -/
def TvHal.stored (driver : Driver) (s : TvHal) (deviceId streamId : Int32) (info : DeviceInfo) : TvHal :=
  ((s.asked driver deviceId).opened driver deviceId streamId).setEntry (s.indexOf deviceId)
    { info with actingStreamId := streamId }

theorem getStream_opens (hfit : s.Fits) (hidle : ∀ id, (deviceId, id) ∉ actingPairs s.live)
    {config : TvStreamConfig} {handle : NativeHandle} {info : DeviceInfo}
    (h : OpensFor driver s deviceId config handle info) (tvStream : TvStream) :
    tvInputHalGetStream driver deviceId tvStream s =
      .ok ((tvStatusSuccess, (tvStream.configure config).withHandle handle),
        s.stored driver deviceId config.streamId info) := by
  have hdev : (s.asked driver deviceId).device = true := h.device
  obtain ⟨hlt, hentry⟩ := Vector.getElem?_eq_some_iff.mp h.entry
  rw [tvInputHalGetStream_idle hfit h.device hidle, h.offered]
  dsimp only
  rw [openAndStore_ok hdev (by rw [h.opened]), Exec.bind_ok (setActingStreamId_ok hlt _), h.opened]
  subst hentry
  rfl

/-- Otherwise a request that returns has failed, and nothing of it lasts. -/
theorem getStream_refused (hfit : s.Fits) (hidle : ∀ id, (deviceId, id) ∉ actingPairs s.live)
    (h : ∀ config handle info, ¬OpensFor driver s deviceId config handle info) {r : UInt8 × TvStream}
    (hrun : tvInputHalGetStream driver deviceId tvStream s = .ok (r, t)) :
    r.1 = tvStatusFail ∧ s.SameStreams t := by
  have hdev := device_of_getStream hrun
  have hdev' : (s.asked driver deviceId).device = true := hdev
  rw [tvInputHalGetStream_idle hfit hdev hidle] at hrun
  cases hoffer : offered driver s deviceId with
  | none =>
    rw [hoffer] at hrun
    cases hrun
    exact ⟨rfl, (openPairs_asked _).subset, rfl, rfl⟩
  | some config =>
    rw [hoffer] at hrun
    dsimp only at hrun
    rcases Nat.lt_or_ge (s.indexOf deviceId) maxDeviceNum with hlt | hge
    · have hfail : (driver.openStream (s.asked driver deviceId).calls deviceId config.streamId).1 ≠ 0 := by
        intro hok
        refine h config _ s.deviceList[s.indexOf deviceId] ⟨hdev, hoffer, Prod.ext hok rfl, ?_⟩
        exact Vector.getElem?_eq_getElem hlt
      rw [openAndStore_fail hdev' hfail] at hrun
      cases hrun
      refine ⟨rfl, ?_, rfl, rfl⟩
      rw [openPairs_opened, if_neg hfail, openPairs_asked]
    · by_cases hok : (driver.openStream (s.asked driver deviceId).calls deviceId config.streamId).1 = 0
      · rw [openAndStore_ok hdev' hok, Exec.bind_error (setActingStreamId_error hge _)] at hrun
        cases hrun
      · rw [openAndStore_fail hdev' hok] at hrun
        cases hrun
        refine ⟨rfl, ?_, rfl, rfl⟩
        rw [openPairs_opened, if_neg hok, openPairs_asked]

/-- A stream that is open and stored lasts unless it was so before. -/
theorem sameStreams_stored_iff {config : TvStreamConfig} {handle : NativeHandle} {info : DeviceInfo}
    (h : OpensFor driver s deviceId config handle info) :
    s.SameStreams (s.stored driver deviceId config.streamId info) ↔
      (deviceId, config.streamId) ∈ openPairs s.calls ∧ info.actingStreamId = config.streamId := by
  obtain ⟨hlt, hentry⟩ := Vector.getElem?_eq_some_iff.mp h.entry
  have hopened : openPairs (s.stored driver deviceId config.streamId info).calls =
      insert (deviceId, config.streamId) (openPairs s.calls) := by
    rw [TvHal.stored, TvHal.setEntry_calls, openPairs_opened, if_pos (by rw [h.opened]), openPairs_asked]
  have hlist : (s.stored driver deviceId config.streamId info).deviceList =
      s.deviceList.setIfInBounds (s.indexOf deviceId) { info with actingStreamId := config.streamId } := rfl
  constructor
  · rintro ⟨hsub, -, heq⟩
    have hself := congrArg (fun table => table[s.indexOf deviceId]?) (hlist.symm.trans heq)
    rw [Vector.getElem?_setIfInBounds_self_of_lt hlt, h.entry, Option.some.injEq] at hself
    rw [hopened] at hsub
    exact ⟨hsub (Set.mem_insert _ _), (congrArg DeviceInfo.actingStreamId hself).symm⟩
  · rintro ⟨hmem, hacting⟩
    refine ⟨?_, rfl, ?_⟩
    · rw [hopened, Set.insert_eq_of_mem hmem]
    · rw [hlist, ← hacting]
      apply Vector.ext
      intro i hi
      rw [Vector.getElem_setIfInBounds]
      split
      · next heq =>
        subst heq
        exact hentry.symm
      · rfl

end

/-! ### The command -/

section

variable {lib : Lib} {fdio : Fdio} {driver : Driver} {p : Platform}
  {runTask : List PduOp → Wbuf → Int32} {s t : Daemon} {cmd : Pdu} {deviceId : Int32}

/-- The device that a Set source command names. -/
def Names (w : World) (cmd : Pdu) (deviceId : Int32) : Prop :=
  ∃ tunerId sourceType rest, w.lib.readPduAt cmd [.str, .C] = some (tunerId, sourceType, rest) ∧
    ServiceOp.deviceOf w tunerId = deviceId

theorem Names.eq {w : World} {tunerId : CString} {sourceType : UInt8} {rest : Fmt.Values []}
    (hread : w.lib.readPduAt cmd [.str, .C] = some (tunerId, sourceType, rest))
    (h : Names w cmd deviceId) : deviceId = ServiceOp.deviceOf w tunerId := by
  obtain ⟨tunerId', sourceType', rest', hread', rfl⟩ := h
  rw [hread] at hread'
  cases hread'
  rfl

theorem OpensFor.unique {s : TvHal} {config config' : TvStreamConfig} {handle handle' : NativeHandle}
    {info info' : DeviceInfo} (h : OpensFor driver s deviceId config handle info)
    (h' : OpensFor driver s deviceId config' handle' info') :
    config' = config ∧ handle' = handle ∧ info' = info := by
  have hconfig : config' = config := Option.some_inj.mp (h'.offered.symm.trans h.offered)
  subst hconfig
  have hopened := congrArg Prod.snd (h'.opened.symm.trans h.opened)
  exact ⟨rfl, hopened, Option.some_inj.mp (h'.entry.symm.trans h.entry)⟩

/-- The daemon with another HAL. -/
def Daemon.withHal (s : Daemon) (hal : TvHal) : Daemon :=
  { s with dtv := { s.dtv with env := { s.dtv.env with hal } } }

variable {tunerId : CString} {sourceType : UInt8} {rest : Fmt.Values []}

/-- Once the stream is open, the reply decides on the result, and the stream stays. -/
theorem setSource_opened (hfit : s.dtv.env.hal.Fits)
    (hread : lib.readPduAt cmd [.str, .C] = some (tunerId, sourceType, rest))
    (hdevice : ServiceOp.deviceOf (.inTree lib fdio driver p runTask) tunerId = deviceId)
    (hidle : ∀ id, (deviceId, id) ∉ actingPairs s.dtv.env.hal.live) {config : TvStreamConfig}
    {handle : NativeHandle} {info : DeviceInfo}
    (h : OpensFor driver s.dtv.env.hal deviceId config handle info) :
    ((∃ status t, DtvIo.setSource (.inTree lib fdio driver p runTask) cmd s = .ok (status, t) ∧
        status ≠ errorNone) ↔ ReplyFails (.inTree lib fdio driver p runTask) cmd handle s.pdus) ∧
      ∀ status t, DtvIo.setSource (.inTree lib fdio driver p runTask) cmd s = .ok (status, t) →
        t.dtv.env.hal = s.dtv.env.hal.stored driver deviceId config.streamId info := by
  let u := s.withHal (s.dtv.env.hal.stored driver deviceId config.streamId info)
  have hset : onEnv (dtvSetSource driver p tunerId sourceType .unset) s =
      .ok ((tvStatusSuccess, (TvStream.unset.configure config).withHandle handle), u) := by
    subst hdevice
    exact zoom_ok (zoom_ok (getStream_opens hfit hidle h .unset))
  have hrun : DtvIo.setSource (.inTree lib fdio driver p runTask) cmd s = (do
      let wbuf ← onPdus (DtvIo.createSourceWbuf (.inTree lib fdio driver p runTask) handle)
      DtvIo.reply (.inTree lib fdio driver p runTask) cmd wbuf
        (DtvIo.fillSource (.inTree lib fdio driver p runTask) handle) []) u := by
    have hread' : (World.inTree lib fdio driver p runTask).lib.readPduAt cmd [.str, .C] =
        some (tunerId, sourceType, rest) := hread
    unfold DtvIo.setSource
    rw [hread']
    exact bind_ok hset _
  refine ⟨?_, fun status t ht => ?_⟩
  · rw [hrun]
    exact sourceReply_fails_iff u
  · rw [hrun] at ht
    have hkeep : Keeps Daemon.control (do
        let wbuf ← onPdus (DtvIo.createSourceWbuf (.inTree lib fdio driver p runTask) handle)
        DtvIo.reply (.inTree lib fdio driver p runTask) cmd wbuf
          (DtvIo.fillSource (.inTree lib fdio driver p runTask) handle) []) :=
      (keeps_onPdus _).bind fun wbuf => DtvIo.keeps_reply cmd wbuf _ _
    exact congrArg Control.hal (hkeep u status t ht)

/-- Where no stream can be opened, nothing of a command that returns lasts. -/
theorem setSource_refused (hfit : s.dtv.env.hal.Fits)
    (hread : lib.readPduAt cmd [.str, .C] = some (tunerId, sourceType, rest))
    (hdevice : ServiceOp.deviceOf (.inTree lib fdio driver p runTask) tunerId = deviceId)
    (hidle : ∀ id, (deviceId, id) ∉ actingPairs s.dtv.env.hal.live)
    (h : ∀ config handle info, ¬OpensFor driver s.dtv.env.hal deviceId config handle info)
    {status : Int32} (hrun : DtvIo.setSource (.inTree lib fdio driver p runTask) cmd s = .ok (status, t)) :
    s.dtv.env.hal.SameStreams t.dtv.env.hal := by
  have hread' : (World.inTree lib fdio driver p runTask).lib.readPduAt cmd [.str, .C] =
      some (tunerId, sourceType, rest) := hread
  unfold DtvIo.setSource at hrun
  rw [hread'] at hrun
  obtain ⟨r, u, hset, hrest⟩ := bind_eq_ok.mp hrun
  obtain ⟨_, env, henv, heq⟩ := zoom_eq_ok.mp hset
  obtain ⟨_, hal, hhal, heq'⟩ := zoom_eq_ok.mp henv
  cases heq
  cases heq'
  subst hdevice
  obtain ⟨hfail, hsame⟩ := getStream_refused hfit hidle h hhal
  have hret : r.1 ≠ tvStatusSuccess := by
    rw [hfail]
    decide
  dsimp only at hrest
  rw [if_pos hret] at hrest
  cases hrest
  exact hsame

/-- In every reachable state in which the named device has no acting stream, a Set source
command that reports a failure changes nothing that lasts, if and only if the driver does
not open a stream for which the reply fails, or it was open before and in its entry. -/
theorem setSource_unchanged_iff (hreach : Daemon.Reachable (.inTree lib fdio driver p runTask) s)
    (hidle : ∀ deviceId, Names (.inTree lib fdio driver p runTask) cmd deviceId →
      ∀ id, (deviceId, id) ∉ actingPairs s.dtv.env.hal.live) :
    (∀ status t, DtvIo.setSource (.inTree lib fdio driver p runTask) cmd s = .ok (status, t) →
      status ≠ errorNone → s.dtv.env.hal.SameStreams t.dtv.env.hal) ↔
    ∀ deviceId config handle info, Names (.inTree lib fdio driver p runTask) cmd deviceId →
      OpensFor driver s.dtv.env.hal deviceId config handle info →
      ReplyFails (.inTree lib fdio driver p runTask) cmd handle s.pdus →
      (deviceId, config.streamId) ∈ openPairs s.dtv.env.hal.calls ∧
        info.actingStreamId = config.streamId := by
  have hfit := hreach.halReady.fits
  cases hread : lib.readPduAt cmd [.str, .C] with
  | none =>
    have hread' : (World.inTree lib fdio driver p runTask).lib.readPduAt cmd [.str, .C] = none := hread
    refine iff_of_true (fun status t hrun _ => ?_) ?_
    · unfold DtvIo.setSource at hrun
      rw [hread'] at hrun
      cases hrun
      exact .refl _
    · rintro deviceId config handle info ⟨_, _, _, hread'', -⟩
      rw [hread'] at hread''
      cases hread''
  | some values =>
    obtain ⟨tunerId, sourceType, rest⟩ := values
    let device := ServiceOp.deviceOf (.inTree lib fdio driver p runTask) tunerId
    have hnames : Names (.inTree lib fdio driver p runTask) cmd device :=
      ⟨tunerId, sourceType, rest, hread, rfl⟩
    by_cases hopens : ∃ config handle info, OpensFor driver s.dtv.env.hal device config handle info
    · obtain ⟨config, handle, info, hopens⟩ := hopens
      obtain ⟨hfails, hstored⟩ : (_ ↔ ReplyFails (.inTree lib fdio driver p runTask) cmd handle s.pdus) ∧ _ :=
        setSource_opened hfit hread rfl (hidle device hnames) hopens
      have hlasts := sameStreams_stored_iff hopens
      constructor
      · intro hsame deviceId' config' handle' info' hnames' hopens' hreply
        obtain rfl : deviceId' = device := hnames'.eq hread
        obtain ⟨rfl, rfl, rfl⟩ := hopens.unique hopens'
        obtain ⟨status, t, hrun, hstatus⟩ := hfails.mpr hreply
        have ht := hsame status t hrun hstatus
        rw [hstored status t hrun] at ht
        exact hlasts.mp ht
      · intro hcond status t hrun hstatus
        rw [hstored status t hrun]
        exact hlasts.mpr (hcond device config handle info hnames hopens (hfails.mp ⟨status, t, hrun, hstatus⟩))
    · have hnone : ∀ config handle info, ¬OpensFor driver s.dtv.env.hal device config handle info :=
        fun config handle info h => hopens ⟨config, handle, info, h⟩
      refine iff_of_true (fun status t hrun _ => ?_) ?_
      · exact setSource_refused hfit hread rfl (hidle device hnames) hnone hrun
      · intro deviceId' config' handle' info' hnames' hopens'
        obtain rfl : deviceId' = device := hnames'.eq hread
        exact absurd hopens' (hnone config' handle' info')

end

/-! ### No memory for the reply -/

/-- There is memory for one buffer, that of the first reply. -/
def World.oneBuffer : World :=
  .inTree { Lib.reference with createPduWbuf := fun log _ _ => log.isEmpty } .ready switchingDriver .lp64
    fun _ _ => 0

/-- There is memory for buffers of four bytes, as those of a Register or an error response. -/
def World.shortBuffers : World :=
  .inTree { Lib.reference with createPduWbuf := fun _ capacity _ => decide (capacity ≤ 4) } .ready steadyDriver .lp64
    fun _ _ => 0

/-- A client has registered the DTV service, and tuner 1 is available. -/
def tunerListed : List Input :=
  [.readable (some [0, 1, 1, 0, 1]), .halEvent ⟨.deviceAvailable, 1, .tuner⟩]

def tunerListedIn (w : World) : Daemon := tunerListed.foldl (Daemon.next w) (.connected w)

/-- A Set source command for tuner 1. -/
def setSourceCmd : Pdu := ⟨1, 2, [49, 0, 0]⟩

theorem oneBuffer_reachable : Daemon.Reachable .oneBuffer (tunerListedIn .oneBuffer) :=
  .ofInputs rfl tunerListed (by decide +kernel)

theorem shortBuffers_reachable : Daemon.Reachable .shortBuffers (tunerListedIn .shortBuffers) :=
  .ofInputs rfl tunerListed (by decide +kernel)

/-- The tuner has no acting stream, whatever device is asked for. -/
theorem idle_of_live {s : TvHal} (hlive : s.live = [⟨1, .tuner, -1⟩]) (deviceId id : Int32) :
    (deviceId, id) ∉ actingPairs s.live := by
  rw [hlive, mem_actingPairs]
  rintro ⟨info, hinfo, -, hid, hne⟩
  rw [List.mem_singleton.mp hinfo] at hid
  exact hne hid.symm

/-- A driver that offers stream 5, and opens nothing. -/
def refusingDriver : Driver := { steadyDriver with openStream _ _ _ := (-1, ⟨0, 0, 0, []⟩) }

/-- The command fails, and nothing of it is left. -/
theorem setSource_unchanged_refused :
    ∃ status t, DtvIo.setSource (.onDriver refusingDriver) setSourceCmd (tunerListedIn (.onDriver refusingDriver)) =
      .ok (status, t) ∧ status ≠ errorNone ∧
      (tunerListedIn (.onDriver refusingDriver)).dtv.env.hal.SameStreams t.dtv.env.hal := by
  have hreach : Daemon.Reachable (.onDriver refusingDriver) (tunerListedIn (.onDriver refusingDriver)) :=
    .ofInputs rfl tunerListed (by decide +kernel)
  obtain ⟨status, t, hrun, hstatus⟩ : ∃ status t, DtvIo.setSource (.onDriver refusingDriver) setSourceCmd
      (tunerListedIn (.onDriver refusingDriver)) = .ok (status, t) ∧ status ≠ errorNone := ⟨_, _, rfl, by decide⟩
  refine ⟨status, t, hrun, hstatus, ?_⟩
  refine (setSource_unchanged_iff hreach fun deviceId _ =>
    idle_of_live (by decide +kernel) deviceId).mpr ?_ status t hrun hstatus
  intro deviceId config handle info _ hopens
  have hrefused : (-1 : Int32) = 0 := congrArg Prod.fst hopens.opened
  exact absurd hrefused (by decide)

theorem oneBuffer_opens : OpensFor switchingDriver (tunerListedIn .oneBuffer).dtv.env.hal 1
    ⟨5, .independentVideoSource, 0, 0⟩ ⟨0, 0, 0, []⟩ ⟨1, .tuner, -1⟩ := by
  refine ⟨?_, ?_, ?_, ?_⟩ <;> decide +kernel

/-- The stream is open and stored when the client is told that there is no memory. -/
theorem setSource_keepsStream : ¬∀ (lib : Lib) (fdio : Fdio) (driver : Driver) (p : Platform)
    (runTask : List PduOp → Wbuf → Int32) (s : Daemon) (cmd : Pdu),
    Daemon.Reachable (.inTree lib fdio driver p runTask) s →
    (∀ deviceId, Names (.inTree lib fdio driver p runTask) cmd deviceId →
      ∀ id, (deviceId, id) ∉ actingPairs s.dtv.env.hal.live) →
    ∀ status t, DtvIo.setSource (.inTree lib fdio driver p runTask) cmd s = .ok (status, t) →
      status ≠ errorNone → s.dtv.env.hal.SameStreams t.dtv.env.hal := by
  intro h
  have hidle : ∀ id, ((1 : Int32), id) ∉ actingPairs (tunerListedIn .oneBuffer).dtv.env.hal.live :=
    idle_of_live (by decide +kernel) 1
  have hunchanged := h _ _ _ _ _ _ setSourceCmd oneBuffer_reachable fun deviceId _ =>
    idle_of_live (by decide +kernel) deviceId
  have hread : World.oneBuffer.lib.readPduAt setSourceCmd [.str, .C] = some (tunerOne, (0 : UInt8), ()) := rfl
  have hdevice : ServiceOp.deviceOf .oneBuffer tunerOne = 1 := by decide +kernel
  obtain ⟨hfails, hstored⟩ :=
    setSource_opened oneBuffer_reachable.halReady.fits hread hdevice hidle oneBuffer_opens
  obtain ⟨status, t, hrun, hstatus⟩ := hfails.mpr (.noMemory rfl (by decide +kernel))
  have hsame := hunchanged status t hrun hstatus
  rw [hstored status t hrun] at hsame
  exact absurd ((sameStreams_stored_iff oneBuffer_opens).mp hsame).2 (by decide)

end Tvd

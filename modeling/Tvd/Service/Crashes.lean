import Tvd.Exec.Returns
import Tvd.Service.Allocations
import Tvd.Service.Delivery
import Tvd.Service.Requests
import Tvd.Service.SourceReply

/-! When the daemon crashes. Each callback is followed to where it could dereference NULL,
leave an array, read what was never stored or abort, and what is left over are the few
commands and events that it does not survive. A pointer that was never stored and is passed
to `free` does not end the step here. -/

namespace Tvd

open Exec

/-! ### Replies -/

section

variable {w : World} {o : ByteOrder} {s : Daemon} {cmd : Pdu}

theorem returns_createPduWbuf (lib : Lib) (capacity tailLen : ℕ) (hasBuilder : Bool) (log : List PduOp) :
    Returns (createPduWbuf lib capacity tailLen hasBuilder) log :=
  returns_of_avoids (fun _ => avoids_createPduWbuf _ _ _ _ _) log

/-- Arguments of the right types are appended, or there is no room for them. -/
theorem returns_appendToPdu (hdoc : w.lib.Documented o) {fmt : List Fmt} {args : List Arg} {bytes : List UInt8}
    (hargs : encodeArgs o fmt args = some bytes) (wbuf : Wbuf) (log : List PduOp) :
    Returns (appendToPdu w.lib wbuf fmt args) log := by
  rw [appendToPdu]
  rcases Nat.lt_or_ge pduMaxDataLength (wbuf.pdu.payload.length + bytes.length) with hfull | hroom
  · have hfail := hdoc.full log wbuf.pdu fmt args bytes hargs hfull
    exact ⟨none, _, by rw [get_bind_apply, hfail]; rfl⟩
  · have hok := hdoc.fits log wbuf.pdu fmt args bytes hargs hroom
    exact ⟨_, _, appendToPdu_ok hok⟩

namespace DtvIo

theorem returns_sendPdu (hsend : s.dtv.sendPdu = some .sendPdu) (wbuf : Wbuf) : Returns (sendPdu w wbuf) s := by
  obtain ⟨io, hrun⟩ := sendPdu_ok (w := w) hsend wbuf
  exact returns_of_ok hrun

theorem returns_heapOps (ops : List HeapOp) (s : Daemon) : Returns (onEnv (onHeap (heapOps ops))) s :=
  returns_of_avoids (fun _ => (avoids_heapOps _ ops).zoom.zoom) s

/-- A reply returns if filling its empty buffer does. -/
theorem returns_reply (hsend : s.dtv.sendPdu = some .sendPdu) {fill : Fill}
    (hfill : ∀ wbuf log, wbuf.pdu.payload = [] → Returns (fill wbuf) log) (wbuf : Option Wbuf)
    (release : List HeapOp) : Returns (reply w cmd wbuf fill release) s := by
  cases wbuf with
  | none => exact returns_pure _ _
  | some wbuf =>
    refine (returns_zoom.mpr (hfill _ _ rfl)).bind fun filled t hrun => ?_
    obtain ⟨_, log, -, heq⟩ := zoom_eq_ok.mp hrun
    cases heq
    cases filled with
    | none =>
      refine (returns_heapOps _ _).bind fun _ _ _ => ?_
      exact (returns_zoom.mpr (returns_modify _ _)).bind fun _ _ _ => returns_pure _ _
    | some filled =>
      refine (returns_sendPdu (s := Daemon.pdusLens.set log s) hsend _).bind fun _ _ _ => ?_
      exact (returns_heapOps _ _).bind fun _ _ _ => returns_pure _ _

theorem returns_createReply (hsend : s.dtv.sendPdu = some .sendPdu) {fill : Fill}
    (hfill : ∀ wbuf log, wbuf.pdu.payload = [] → Returns (fill wbuf) log) (capacity : ℕ)
    (release : List HeapOp) : Returns (createReply w cmd capacity fill release) s := by
  refine (returns_zoom.mpr (returns_createPduWbuf _ _ _ _ _)).bind fun wbuf t hrun => ?_
  obtain ⟨_, log, -, heq⟩ := zoom_eq_ok.mp hrun
  cases heq
  exact returns_reply (s := Daemon.pdusLens.set log s) hsend hfill _ _

theorem returns_of_appends {fill : Fill} {bytes : List UInt8} (h : Appends fill bytes)
    (hfits : bytes.length ≤ pduMaxDataLength) (wbuf : Wbuf) (log : List PduOp) (hempty : wbuf.pdu.payload = []) :
    Returns (fill wbuf) log := by
  obtain ⟨log', hrun⟩ := h wbuf log (by rwa [hempty, List.length_nil, Nat.zero_add])
  exact returns_of_ok hrun

/-! ### Get tuners -/

/-- Get tuners returns exactly if there is memory for the records of the tuners listed. -/
theorem getTuners_returns_iff (hw : w.IsInTree) (hdoc : w.lib.Documented o) (hfit : s.dtv.env.hal.Fits)
    (hsend : s.dtv.sendPdu = some .sendPdu) : Returns (getTuners w cmd) s ↔
      (s.dtv.env.tunerIds ≠ [] →
        Allocates w.lib s.dtv.env.heap (tunersAllocations w.platform s.dtv.env.tunerIds)) := by
  have hlen : s.dtv.env.tunerIds.length ≤ 100 := DtvEnv.tunerIds_length_le hfit
  by_cases hlisted : s.dtv.env.tunerIds = []
  · obtain ⟨tuners, frees, ok, ok', heq, -⟩ := getTuners_empty hw hfit hlisted cmd
    refine iff_of_true ?_ fun hne => absurd hlisted hne
    unfold Returns
    rw [heq]
    exact returns_createReply (s := s.withHeap _) hsend
      (returns_of_appends (noTuners_appends hdoc tuners) (tuners_length_le (Nat.zero_le _))) _ _
  by_cases halloc : Allocates w.lib s.dtv.env.heap (tunersAllocations w.platform s.dtv.env.tunerIds)
  · refine iff_of_true ?_ fun _ => halloc
    unfold Returns
    rw [getTuners_listed hw hfit halloc]
    exact returns_createReply (s := s.withHeap _) hsend
      (returns_of_appends (tuners_appends hdoc hlen _ _) (tuners_length_le hlen)) _ _
  · refine iff_of_false (not_returns_of_error (getTuners_null hw hfit hlisted halloc cmd)) fun h => ?_
    exact halloc (h hlisted)

end DtvIo

end

/-! ### The stream of a tuner -/

section

variable {driver : Driver} {hal : TvHal} {deviceId : Int32}

/-- The driver opens a stream for a device that is not listed, and the list is full. -/
def Overruns (driver : Driver) (s : TvHal) (deviceId : Int32) : Prop :=
  s.live[s.indexOf deviceId]? = none ∧ maxDeviceNum ≤ s.deviceNum.toNat ∧
    ∃ config, offered driver s deviceId = some config ∧
      (driver.openStream (s.asked driver deviceId).calls deviceId config.streamId).1 = 0

theorem returns_openAndStore_iff (hdev : hal.device = true) {idx : ℕ} {streamId : Int32} {tvStream : TvStream} :
    Returns (openAndStore driver deviceId idx streamId tvStream) hal ↔
      (idx < maxDeviceNum ∨ (driver.openStream hal.calls deviceId streamId).1 ≠ 0) := by
  by_cases hok : (driver.openStream hal.calls deviceId streamId).1 = 0
  · unfold Returns
    rw [openAndStore_ok hdev hok]
    rcases Nat.lt_or_ge idx maxDeviceNum with hlt | hge
    · rw [bind_ok (setActingStreamId_ok hlt _)]
      exact iff_of_true (returns_pure _ _) (.inl hlt)
    · rw [bind_error (setActingStreamId_error hge _)]
      refine iff_of_false ?_ fun h => ?_
      · rintro ⟨a, t, hrun⟩
        cases hrun
      · rcases h with hlt | hfail
        · exact absurd hlt (Nat.not_lt.mpr hge)
        · exact hfail hok
  · unfold Returns
    rw [openAndStore_fail hdev hok]
    exact iff_of_true ⟨_, _, rfl⟩ (.inr hok)

/-- `tv_input_hal_get_stream` returns unless it stores the stream behind the list. -/
theorem returns_getStream_iff (hfit : hal.Fits) (hdev : hal.device = true) (tvStream : TvStream) :
    Returns (tvInputHalGetStream driver deviceId tvStream) hal ↔ ¬Overruns driver hal deviceId := by
  have hdev' : (hal.asked driver deviceId).device = true := hdev
  unfold Returns
  rw [tvInputHalGetStream_eq hfit hdev]
  cases hoffer : offered driver hal deviceId with
  | none =>
    refine iff_of_true ⟨_, _, rfl⟩ ?_
    rintro ⟨-, -, config, hconfig, -⟩
    cases hoffer.symm.trans hconfig
  | some config =>
  dsimp only
  cases hentry : hal.live[hal.indexOf deviceId]? with
  | none =>
    refine (returns_openAndStore_iff hdev').trans ?_
    rw [← Nat.not_le, ← not_and_or, not_iff_not]
    constructor
    · rintro ⟨hfull, hopen⟩
      exact ⟨hentry, hfull, config, hoffer, hopen⟩
    · rintro ⟨-, hfull, config', hconfig, hopen⟩
      cases hoffer.symm.trans hconfig
      exact ⟨hfull, hopen⟩
  | some info =>
  have hlt := hfit.lt_max hentry
  refine iff_of_true ?_ fun h => absurd (hentry.symm.trans h.1) (Option.some_ne_none _)
  dsimp only
  split
  · exact (returns_openAndStore_iff hdev').mpr (.inl hlt)
  split
  · exact ⟨_, _, rfl⟩
  split
  · exact ⟨_, _, rfl⟩
  · have hdev'' : ((hal.asked driver deviceId).closed driver deviceId info.actingStreamId).device = true := hdev
    exact (returns_openAndStore_iff hdev'').mpr (.inl hlt)

theorem openAndStore_handle (hdev : hal.device = true) {idx : ℕ} {streamId : Int32} {tvStream stream : TvStream}
    {t : TvHal} (hrun : openAndStore driver deviceId idx streamId tvStream hal = .ok ((tvStatusSuccess, stream), t)) :
    stream.sidebandStreamSourceHandle ≠ none := by
  by_cases hok : (driver.openStream hal.calls deviceId streamId).1 = 0
  · rw [openAndStore_ok hdev hok] at hrun
    obtain ⟨_, u, -, hpure⟩ := bind_eq_ok.mp hrun
    cases hpure
    exact Option.some_ne_none _
  · rw [openAndStore_fail hdev hok] at hrun
    cases hrun

/-- The device is already acting on what the driver offers exactly if the request succeeds
and stores no handle. -/
theorem alreadyActing_iff (hfit : hal.Fits) (hdev : hal.device = true) : AlreadyActing driver hal deviceId ↔
    ∃ stream t, tvInputHalGetStream driver deviceId .unset hal = .ok ((tvStatusSuccess, stream), t) ∧
      stream.sidebandStreamSourceHandle = none := by
  have hdev' : (hal.asked driver deviceId).device = true := hdev
  have hopens {idx : ℕ} {streamId : Int32} {tvStream : TvStream} {t : TvHal} (ht : t.device = true) :
      ¬∃ stream u, openAndStore driver deviceId idx streamId tvStream t = .ok ((tvStatusSuccess, stream), u) ∧
        stream.sidebandStreamSourceHandle = none := by
    rintro ⟨stream, u, hrun, hnone⟩
    exact openAndStore_handle ht hrun hnone
  rw [tvInputHalGetStream_eq hfit hdev]
  cases hoffer : offered driver hal deviceId with
  | none =>
    refine iff_of_false ?_ ?_
    · rintro ⟨config, _, hconfig, -⟩
      cases hoffer.symm.trans hconfig
    · rintro ⟨_, _, hrun, -⟩
      cases hrun
  | some config =>
  have hacting : AlreadyActing driver hal deviceId ↔ ∃ info, hal.live[hal.indexOf deviceId]? = some info ∧
      info.actingStreamId = config.streamId ∧ info.actingStreamId ≠ -1 := by
    constructor
    · rintro ⟨config', info, hconfig, h⟩
      cases hoffer.symm.trans hconfig
      exact ⟨info, h⟩
    · rintro ⟨info, h⟩
      exact ⟨config, info, hoffer, h⟩
  rw [hacting]
  cases hentry : hal.live[hal.indexOf deviceId]? with
  | none =>
    refine iff_of_false ?_ (hopens hdev')
    rintro ⟨info, hinfo, -⟩
    cases hinfo
  | some info =>
  dsimp only
  by_cases hidle : info.actingStreamId = -1
  · rw [if_pos hidle]
    refine iff_of_false ?_ (hopens hdev')
    rintro ⟨_, hinfo, -, hne⟩
    cases hinfo
    exact hne hidle
  rw [if_neg hidle]
  by_cases hsame : info.actingStreamId = config.streamId
  · rw [if_pos hsame, TvStream.configure_of_video (offered_type hoffer)]
    exact iff_of_true ⟨info, rfl, hsame, hidle⟩ ⟨_, _, rfl, rfl⟩
  rw [if_neg hsame]
  refine iff_of_false ?_ ?_
  · rintro ⟨_, hinfo, heq, -⟩
    cases hinfo
    exact hsame heq
  split
  · rintro ⟨_, _, hrun, -⟩
    cases hrun
  · exact hopens (t := (hal.asked driver deviceId).closed driver deviceId info.actingStreamId) hdev

end

/-! ### Set source -/

/-- The handles of streams that the driver opens are as long as they say. -/
def Driver.OpensWhole (driver : Driver) : Prop :=
  ∀ calls deviceId streamId handle, driver.openStream calls deviceId streamId = (0, handle) →
    0 ≤ handle.numFds.toInt ∧ 0 ≤ handle.numInts.toInt ∧
      (handle.data.length : ℤ) = handle.numFds.toInt + handle.numInts.toInt

section

variable {w : World} {o : ByteOrder} {s : Daemon} {cmd : Pdu} {handle : NativeHandle}

/-- A handle that a stream is given with came from the driver. -/
theorem Gives.opens {driver : Driver} {hal : TvHal} {deviceId : Int32} (h : Gives driver hal deviceId handle) :
    ∃ calls streamId, driver.openStream calls deviceId streamId = (0, handle) := by
  unfold Gives at h
  split at h
  · exact h.elim
  · exact ⟨_, _, h.2⟩
  · dsimp only at h
    split at h
    · exact ⟨_, _, h⟩
    · exact ⟨_, _, h.2.2⟩

theorem returns_fillSource (hdoc : w.lib.Documented o) (hfds : 0 ≤ handle.numFds.toInt)
    (hdata : (handle.data.length : ℤ) = handle.numFds.toInt + handle.numInts.toInt) (wbuf : Wbuf)
    (log : List PduOp) : Returns (DtvIo.fillSource w handle wbuf) log := by
  refine returns_of_avoids (fun e => ?_) log
  have hargs {fmt : List Fmt} {args : List Arg} {bytes : List UInt8} (h : encodeArgs o fmt args = some bytes)
      (wbuf : Wbuf) : Avoids e (appendToPdu w.lib wbuf fmt args) := fun log herror =>
    not_returns_of_error herror (returns_appendToPdu hdoc h wbuf log)
  have hheader : encodeArgs o [.I, .I, .I] [.int handle.version.toUInt32, .int handle.numFds.toUInt32,
      .int handle.numInts.toUInt32] = some (handle.header o) := by
    simp [encodeArgs, Fmt.encode, NativeHandle.header]
  refine (hargs hheader wbuf).bind fun filled => ?_
  cases filled with
  | none => exact avoids_pure _ _
  | some wbuf =>
    refine avoids_accumulate _ _ _ fun idx wbuf _ hidx => ?_
    have hlt : (handle.numFds.toInt + idx).toNat < handle.data.length := by omega
    have hread : handle.dataAt (handle.numFds.toInt + idx) =
        .ok (handle.data[(handle.numFds.toInt + idx).toNat]) := by
      rw [NativeHandle.dataAt, List.getElem?_eq_getElem hlt]
      dsimp only
      rw [if_neg (by omega)]
    dsimp only
    rw [hread]
    exact hargs rfl wbuf

/-- The buffer of the reply is created, unless there is no memory for one with
descriptors. -/
theorem createSourceWbuf_returns_iff (hdata : handle.numFds.toInt ≤ handle.data.length) (log : List PduOp) :
    Returns (DtvIo.createSourceWbuf w handle) log ↔ (handle.numFds ≠ 0 →
      w.lib.createPduWbuf log (handle.replySize w.platform) (handle.tailSize w.platform) = true) := by
  unfold DtvIo.createSourceWbuf
  dsimp only
  rw [← NativeHandle.replySize]
  by_cases hfds : handle.numFds = 0
  · rw [if_pos hfds]
    exact iff_of_true (returns_createPduWbuf _ _ _ _ _) fun hne => absurd hfds hne
  have htail : handle.tailSize w.platform = _ := if_neg hfds
  rw [if_neg hfds, ← htail]
  cases halloc : w.lib.createPduWbuf log (handle.replySize w.platform) (handle.tailSize w.platform) with
  | false =>
    rw [returns_bind_ok (createPduWbuf_none halloc true)]
    refine iff_of_false (not_returns_of_error rfl) fun h => ?_
    cases h hfds
  | true =>
    rw [returns_bind_ok (createPduWbuf_some halloc true)]
    refine iff_of_true ?_ fun _ => rfl
    have hlen : ¬((handle.data.take handle.numFds.toInt.toNat).length : ℤ) < handle.numFds.toInt := by
      rw [List.length_take]
      omega
    dsimp only
    rw [if_neg hlen]
    exact ⟨_, _, rfl⟩

/-- What Set source does not survive: a request for the stream that the device is already
acting on, one behind a full list, and one that gets descriptors when there is no memory for
the buffer with them. -/
inductive DtvIo.SourceCrash (w : World) (hal : TvHal) (pdus : List PduOp) (deviceId : Int32) : Prop
  | repeated (hacting : AlreadyActing w.driver hal deviceId)
  | overrun (hoverruns : Overruns w.driver hal deviceId)
  | noMemory (handle : NativeHandle) (hgives : Gives w.driver hal deviceId handle) (hfds : handle.numFds ≠ 0)
      (hwbuf : w.lib.createPduWbuf pdus (handle.replySize w.platform) (handle.tailSize w.platform) = false)

theorem DtvIo.setSource_returns_iff (hw : w.IsInTree) (hdoc : w.lib.Documented o) (hwhole : w.driver.OpensWhole)
    (hfit : s.dtv.env.hal.Fits) (hdev : s.dtv.env.hal.device = true) (hsend : s.dtv.sendPdu = some .sendPdu) :
    Returns (setSource w cmd) s ↔ ∀ deviceId, Names w cmd deviceId → ¬SourceCrash w s.dtv.env.hal s.pdus deviceId := by
  unfold setSource
  cases hread : w.lib.readPduAt cmd [.str, .C] with
  | none =>
    refine iff_of_true (returns_pure _ _) ?_
    rintro deviceId ⟨_, _, _, hread', -⟩
    cases hread.symm.trans hread'
  | some values =>
  obtain ⟨tunerId, sourceType, rest⟩ := values
  have hnamed : (∀ deviceId, Names w cmd deviceId → ¬SourceCrash w s.dtv.env.hal s.pdus deviceId) ↔
      ¬SourceCrash w s.dtv.env.hal s.pdus (ServiceOp.deviceOf w tunerId) := by
    constructor
    · exact fun h => h _ ⟨tunerId, sourceType, rest, hread, rfl⟩
    · rintro h deviceId hnames
      rwa [hnames.eq hread]
  have hset : w.dtv.dtvSetSource tunerId sourceType .unset =
      onHal (tvInputHalGetStream w.driver (ServiceOp.deviceOf w tunerId) .unset) := by
    rw [hw]
    rfl
  dsimp only
  rw [hset, hnamed]
  generalize ServiceOp.deviceOf w tunerId = deviceId
  by_cases hoverruns : Overruns w.driver s.dtv.env.hal deviceId
  · refine iff_of_false (fun h => ?_) fun h => h (.overrun hoverruns)
    obtain ⟨_, _, hrun, -⟩ := returns_bind.mp h
    have hreturns : Returns (tvInputHalGetStream w.driver deviceId .unset) s.dtv.env.hal :=
      returns_zoom.mp (returns_zoom.mp (returns_of_ok hrun))
    exact (returns_getStream_iff hfit hdev _).mp hreturns hoverruns
  obtain ⟨⟨ret, stream⟩, hal, hrun⟩ := (returns_getStream_iff hfit hdev .unset).mpr hoverruns
  have hok : onEnv (onHal (tvInputHalGetStream w.driver deviceId .unset)) s = .ok ((ret, stream), s.withHal hal) :=
    zoom_ok (zoom_ok hrun)
  rw [returns_bind_ok hok]
  dsimp only
  by_cases hret : ret = tvStatusSuccess
  case neg =>
    rw [if_pos hret]
    refine iff_of_true (returns_pure _ _) ?_
    rintro (hacting | h | ⟨handle, hgives, -⟩)
    · obtain ⟨_, _, hrun', -⟩ := (alreadyActing_iff hfit hdev).mp hacting
      cases hrun.symm.trans hrun'
      exact hret rfl
    · exact hoverruns h
    · obtain ⟨_, _, hrun', -⟩ := (gives_iff hfit hdev).mp hgives
      cases hrun.symm.trans hrun'
      exact hret rfl
  subst hret
  rw [if_neg (not_not.mpr rfl)]
  cases hhandle : stream.sidebandStreamSourceHandle with
  | none =>
    refine iff_of_false (not_returns_of_error rfl) fun h => ?_
    exact h (.repeated ((alreadyActing_iff hfit hdev).mpr ⟨stream, hal, hrun, hhandle⟩))
  | some handle =>
  have hgives : Gives w.driver s.dtv.env.hal deviceId handle := (gives_iff hfit hdev).mpr ⟨stream, hal, hrun, hhandle⟩
  obtain ⟨calls, streamId, hopen⟩ := hgives.opens
  obtain ⟨hfds, hints, hdata⟩ := hwhole _ _ _ _ hopen
  have hcrash : ¬SourceCrash w s.dtv.env.hal s.pdus deviceId ↔ (handle.numFds ≠ 0 →
      w.lib.createPduWbuf s.pdus (handle.replySize w.platform) (handle.tailSize w.platform) = true) := by
    constructor
    · intro h hne
      by_contra hnone
      exact h (.noMemory handle hgives hne (Bool.eq_false_of_not_eq_true hnone))
    · rintro hmemory (hacting | h | ⟨handle', hgives', hne, hnone⟩)
      · obtain ⟨_, _, hrun', hnone⟩ := (alreadyActing_iff hfit hdev).mp hacting
        cases hrun.symm.trans hrun'
        cases hhandle.symm.trans hnone
      · exact hoverruns h
      · obtain ⟨_, _, hrun', hhandle'⟩ := (gives_iff hfit hdev).mp hgives'
        cases hrun.symm.trans hrun'
        cases hhandle.symm.trans hhandle'
        cases hnone.symm.trans (hmemory hne)
  rw [hcrash, ← createSourceWbuf_returns_iff (by omega)]
  refine (returns_bind_iff fun wbuf t hcreate => ?_).trans returns_zoom
  obtain ⟨_, log, -, heq⟩ := zoom_eq_ok.mp hcreate
  cases heq
  exact returns_reply (s := Daemon.pdusLens.set log (s.withHal hal)) hsend
    (fun wbuf log _ => returns_fillSource hdoc hfds hdata wbuf log) wbuf []

end

/-! ### The Registry -/

section

variable {lib : Lib} {fdio : Fdio} {driver : Driver} {p : Platform} {runTask : List PduOp → Wbuf → Int32}
  {o : ByteOrder} {s : Daemon}

namespace Registry

theorem returns_sendPdu {w : World} (hsend : s.gSendPdu = some .sendPdu) (wbuf : Wbuf) :
    Returns (sendPdu w wbuf) s := by
  change Returns (SendPdu.call w wbuf s.gSendPdu) s
  rw [hsend]
  exact returns_of_avoids (fun _ => avoids_call wbuf .sendPdu) s

theorem returns_destroyed (wbuf : Wbuf) (status : Int32) (s : Daemon) :
    Returns (do onPdus (destroyPduWbuf wbuf); return status) s :=
  (returns_zoom.mpr (returns_modify _ _)).bind fun _ _ _ => returns_pure _ _

theorem returns_registerModule (hdoc : lib.Documented o) (hsend : s.gSendPdu = some .sendPdu) (cmd : Pdu) :
    let w := World.inTree lib fdio driver p runTask
    Returns (registerModule w (.inTree w) cmd) s := by
  intro w
  unfold registerModule
  cases w.lib.readPduAt cmd [.C] with
  | none => exact returns_pure _ _
  | some values =>
  obtain ⟨service, rest⟩ := values
  refine .ite (fun _ => returns_pure _ _) fun _ => ?_
  cases hfound : (Services.inTree w).register service with
  | none => exact returns_pure _ _
  | some register =>
  obtain ⟨rfl, rfl⟩ := Services.dtvOnly_register hfound
  refine (returns_zoom.mpr (returns_createPduWbuf _ _ _ _ _)).bind fun wbuf t hcreate => ?_
  obtain ⟨_, log, -, heq⟩ := zoom_eq_ok.mp hcreate
  cases heq
  cases wbuf with
  | none => exact returns_pure _ _
  | some wbuf =>
  obtain ⟨r, hrun⟩ : ∃ r, DtvIo.registerDtv w s.gSendPdu s.dtv = .ok r := registerDtv_returns _ _
  refine Returns.bind ⟨r.1, _, zoom_ok hrun⟩ fun handler t hregister => ?_
  obtain ⟨_, dtv, -, heq⟩ := zoom_eq_ok.mp hregister
  cases heq
  cases handler with
  | none => exact returns_destroyed _ _ _
  | some handler =>
  refine Returns.bind (returns_modify _ _) fun _ t hset => ?_
  cases hset
  refine (returns_zoom.mpr (returns_appendToPdu hdoc rfl _ _)).bind fun filled t happend => ?_
  obtain ⟨_, log', -, heq⟩ := zoom_eq_ok.mp happend
  cases heq
  cases filled with
  | none => exact returns_destroyed _ _ _
  | some filled =>
    dsimp only
    refine Returns.bind (returns_sendPdu ?_ filled) fun _ _ _ => returns_pure _ _
    exact hsend

theorem returns_unregisterModule (hknown : s.dtv.env.hal.Known) (hsend : s.gSendPdu = some .sendPdu) (cmd : Pdu) :
    Returns (unregisterModule (.inTree lib fdio driver p runTask) (.inTree (.inTree lib fdio driver p runTask)) cmd)
      s := by
  unfold unregisterModule
  cases (World.inTree lib fdio driver p runTask).lib.readPduAt cmd [.C] with
  | none => exact returns_pure _ _
  | some values =>
  obtain ⟨service, rest⟩ := values
  refine (returns_zoom.mpr (returns_createPduWbuf _ _ _ _ _)).bind fun wbuf t hcreate => ?_
  obtain ⟨_, log, -, heq⟩ := zoom_eq_ok.mp hcreate
  cases heq
  cases wbuf with
  | none => exact returns_pure _ _
  | some wbuf =>
  refine .ite (fun _ => returns_destroyed _ _ _) fun _ => ?_
  cases hfound : (Services.inTree (.inTree lib fdio driver p runTask)).unregister service with
  | none => exact returns_destroyed _ _ _
  | some unregister =>
  obtain ⟨rfl, rfl⟩ := Services.dtvOnly_unregister hfound
  obtain ⟨r, hrun⟩ : ∃ r, DtvIo.unregisterDtv (.inTree lib fdio driver p runTask) s.dtv = .ok r :=
    unregisterDtv_returns hknown
  refine Returns.bind ⟨r.1, _, zoom_ok hrun⟩ fun result t hunregister => ?_
  obtain ⟨_, dtv, -, heq⟩ := zoom_eq_ok.mp hunregister
  cases heq
  refine .ite (fun _ => returns_destroyed _ _ _) fun _ => ?_
  refine Returns.bind (returns_modify _ _) fun _ t hset => ?_
  cases hset
  refine Returns.bind (returns_sendPdu ?_ _) fun _ _ _ => returns_pure _ _
  exact hsend

/-- Every command of the Registry returns. -/
theorem returns_registryHandler (hdoc : lib.Documented o) (hknown : s.dtv.env.hal.Known)
    (hsend : s.gSendPdu = some .sendPdu) (cmd : Pdu) :
    Returns (registryHandler (.inTree lib fdio driver p runTask) (.inTree (.inTree lib fdio driver p runTask)) cmd)
      s :=
  registryHandler_rule (Q := fun m => Returns m s) (returns_pure _ _) (returns_registerModule hdoc hsend cmd)
    (returns_unregisterModule hknown hsend cmd)

end Registry

end

/-! ### Handling a command -/

/-- What the DTV service does not survive: Get tuners without memory for the records of the
tuners listed, and Set source for some tuners. -/
inductive DtvIo.Crashes (w : World) (env : DtvEnv) (pdus : List PduOp) (cmd : Pdu) : Prop
  | getTuners (hopcode : cmd.opcode = opcodeGetTuners) (hlisted : env.tunerIds ≠ [])
      (hmemory : ¬Allocates w.lib env.heap (tunersAllocations w.platform env.tunerIds))
  | setSource (hopcode : cmd.opcode = opcodeSetSource) (deviceId : Int32) (hnames : Names w cmd deviceId)
      (hsource : SourceCrash w env.hal pdus deviceId)

/-- A command that ends the daemon: its service crashes, or fails when there is no memory
for an error reply. -/
inductive Daemon.Dies (w : World) (s : Daemon) (cmd : Pdu) : Prop
  | crashes (hservice : cmd.service = serviceDtv) (hregistered : s.gServiceHandler serviceDtv ≠ none)
      (h : DtvIo.Crashes w s.dtv.env s.pdus cmd)
  | aborts {status : Int32} {t : Daemon} (hstatus : status ≠ 0)
      (hserve : Io.serve w (.inTree w) (s.logged cmd) cmd (s.logged cmd) = .ok (status, t))
      (hwbuf : w.lib.createPduWbuf t.pdus 1 0 = false)

section

variable {lib : Lib} {fdio : Fdio} {driver : Driver} {p : Platform} {runTask : List PduOp → Wbuf → Int32}
  {o : ByteOrder} {s : Daemon} {cmd : Pdu}

theorem DtvIo.dtvHandler_returns_iff {w : World} (hw : w.IsInTree) (hdoc : w.lib.Documented o)
    (hwhole : w.driver.OpensWhole) (hfit : s.dtv.env.hal.Fits) (hdev : s.dtv.env.hal.device = true)
    (hsend : s.dtv.sendPdu = some .sendPdu) : Returns (dtvHandler w cmd) s ↔ ¬Crashes w s.dtv.env s.pdus cmd := by
  by_cases hget : cmd.opcode = opcodeGetTuners
  · have hset : cmd.opcode ≠ opcodeSetSource := by
      rw [hget]
      decide
    rw [dtvHandler_getTuners hget, getTuners_returns_iff hw hdoc hfit hsend]
    constructor
    · rintro h (⟨-, hlisted, hmemory⟩ | ⟨hopcode, -⟩)
      · exact hmemory (h hlisted)
      · exact hset hopcode
    · intro h hlisted
      by_contra hmemory
      exact h (.getTuners hget hlisted hmemory)
  by_cases hset : cmd.opcode = opcodeSetSource
  · rw [dtvHandler_setSource hset, setSource_returns_iff hw hdoc hwhole hfit hdev hsend]
    constructor
    · rintro h (⟨hopcode, -⟩ | ⟨-, deviceId, hnames, hsource⟩)
      · exact hget hopcode
      · exact h deviceId hnames hsource
    · exact fun h deviceId hnames hsource => h (.setSource hset deviceId hnames hsource)
  obtain ⟨status, ops, hrun, -, -⟩ := dtvHandler_fails hw hget hset s
  refine iff_of_true (returns_of_ok hrun) ?_
  rintro (⟨hopcode, -⟩ | ⟨hopcode, -⟩)
  · exact hget hopcode
  · exact hset hopcode

/-- Serving a command returns unless the DTV service crashes. -/
theorem serve_returns_iff (hdoc : lib.Documented o) (hwhole : driver.OpensWhole)
    (hreach : Daemon.Reachable (.inTree lib fdio driver p runTask) s) (io : IoState) :
    let w := World.inTree lib fdio driver p runTask
    Returns (Io.serve w (.inTree w) (s.logged cmd) cmd) { s with io } ↔
      ¬(cmd.service = serviceDtv ∧ s.gServiceHandler serviceDtv ≠ none ∧
        DtvIo.Crashes w s.dtv.env s.pdus cmd) := by
  intro w
  have hwired := hreach.wired
  rcases serve_cases hreach cmd with ⟨hservice, heq⟩ | ⟨hservice, hregistered, heq⟩ | ⟨-, hnone, heq⟩
  · rw [heq]
    refine iff_of_true ?_ fun h => absurd (hservice.symm.trans h.1) (by decide)
    exact Registry.returns_registryHandler (s := { s with io }) hdoc hreach.known hwired.registry cmd
  · rw [heq]
    refine (DtvIo.dtvHandler_returns_iff (w := w) (s := { s with io }) rfl hdoc hwhole hreach.halReady.fits
      (hreach.halReady.device hregistered) (hwired.dtv hregistered)).trans ?_
    rw [and_iff_right hservice, and_iff_right hregistered]
  · rw [heq]
    exact iff_of_true (returns_pure _ _) fun h => h.2.1 (hnone h.1)

/-- Where the loop registers what it is asked to, sending does not fail. -/
theorem ioStateSend_nonneg {fdio : Fdio} (hregisters : fdio.Registers) (wbuf : Wbuf) (s : IoState) :
    Ensures (ioStateSend fdio wbuf) s fun res _ => ¬res.toInt < 0 := by
  rw [ioStateSend, ensures_bind]
  refine ensures_modify.mpr (ensures_bind.mpr (ensures_modify.mpr (ensures_bind.mpr fun _ t _ => ?_)))
  dsimp only
  rw [ensures_bind, ensures_get, ensures_ite]
  refine ⟨fun _ => ?_, fun _ => ensures_pure.mpr (by decide)⟩
  rw [ensures_bind]
  refine (addFdEvents_ensures hregisters _ _).mono ?_
  rintro res u ⟨hres, -⟩
  rw [ensures_ite]
  refine ⟨fun hneg => absurd hres (Int.not_le.mpr hneg), fun _ => ?_⟩
  rw [ensures_bind]
  exact ensures_modify.mpr (ensures_pure.mpr (by decide))

/-- An error reply is sent if there is memory for it. -/
theorem sendErrorReply_returns_iff {w : World} (hdoc : w.lib.Documented o) (hregisters : w.fdio.Registers)
    (service error : UInt8) : Returns (Io.sendErrorReply w service error) s ↔
      w.lib.createPduWbuf s.pdus 1 0 = true := by
  unfold Io.sendErrorReply
  cases halloc : w.lib.createPduWbuf s.pdus 1 0 with
  | false =>
    have hrun : onPdus (createPduWbuf w.lib 1 0 false) s = .ok (none, _) := zoom_ok (createPduWbuf_none halloc _)
    rw [returns_bind_ok hrun]
    exact iff_of_false (not_returns_of_error rfl) (by decide)
  | true =>
    have hrun : onPdus (createPduWbuf w.lib 1 0 false) s = .ok (some _, _) := zoom_ok (createPduWbuf_some halloc _)
    rw [returns_bind_ok hrun]
    refine iff_of_true ?_ rfl
    refine (returns_zoom.mpr (returns_appendToPdu hdoc (encodeArgs_cons (uint8Arg_encode error) rfl) _ _)).bind
      fun appended t _ => ?_
    refine (returns_zoom.mpr (returns_of_avoids (fun _ => avoids_ioStateSend _ _) _)).bind fun res u hsend => ?_
    obtain ⟨_, io, hio, heq⟩ := zoom_eq_ok.mp hsend
    cases heq
    exact .ite (fun hneg => absurd hneg (ioStateSend_nonneg hregisters _ _ _ _ hio)) fun _ => returns_pure _ _

/-- A command is handled to its end unless the daemon dies of it. -/
theorem handlePdu_returns_iff (hdoc : lib.Documented o) (hregisters : fdio.Registers) (hwhole : driver.OpensWhole)
    (hreach : Daemon.Reachable (.inTree lib fdio driver p runTask) s) (io : IoState) :
    let w := World.inTree lib fdio driver p runTask
    Returns (Io.handlePdu w (.inTree w) cmd) { s with io } ↔ ¬Daemon.Dies w { s with io } cmd := by
  intro w
  have hserve : Returns (Io.serve w (.inTree w) (Daemon.logged { s with io } cmd) cmd)
      (Daemon.logged { s with io } cmd) ↔
      ¬(cmd.service = serviceDtv ∧ s.gServiceHandler serviceDtv ≠ none ∧
        DtvIo.Crashes w s.dtv.env s.pdus cmd) :=
    serve_returns_iff hdoc hwhole hreach _
  unfold Returns
  rw [Io.handlePdu_eq]
  change Returns _ _ ↔ _
  by_cases hcrash : cmd.service = serviceDtv ∧ s.gServiceHandler serviceDtv ≠ none ∧
      DtvIo.Crashes w s.dtv.env s.pdus cmd
  · refine iff_of_false (fun h => ?_) fun h => h (.crashes hcrash.1 hcrash.2.1 hcrash.2.2)
    obtain ⟨_, _, hrun, -⟩ := returns_bind.mp h
    exact hserve.mp (returns_of_ok hrun) hcrash
  obtain ⟨status, t, hrun⟩ := hserve.mpr hcrash
  rw [returns_bind_ok hrun]
  have hdies : Daemon.Dies w { s with io } cmd ↔
      status ≠ 0 ∧ w.lib.createPduWbuf t.pdus 1 0 = false := by
    constructor
    · rintro (⟨hservice, hregistered, h⟩ | ⟨hstatus, hrun', hwbuf⟩)
      · exact absurd ⟨hservice, hregistered, h⟩ hcrash
      · cases hrun.symm.trans hrun'
        exact ⟨hstatus, hwbuf⟩
    · rintro ⟨hstatus, hwbuf⟩
      exact .aborts hstatus hrun hwbuf
  rw [hdies]
  dsimp only
  by_cases hstatus : status = 0
  · rw [if_neg (not_not.mpr hstatus)]
    exact iff_of_true (returns_pure _ _) fun h => h.1 hstatus
  · rw [if_pos hstatus, and_iff_right hstatus, Bool.not_eq_false,
      ← sendErrorReply_returns_iff (w := w) hdoc hregisters cmd.service status.toUInt32.toUInt8]
    exact returns_bind_iff fun _ _ _ => returns_pure _ _

end

/-! ### Inputs -/

section

variable {w : World} {o : ByteOrder} {s : Daemon}

/-- In every reachable state there is a receive buffer while the connection is open. -/
theorem Daemon.Reachable.attached (hframes : w.lib.Frames o) (hreports : w.fdio.Reports)
    (h : Daemon.Reachable w s) : ∃ maxlen, 4 + pduMaxDataLength ≤ maxlen ∧ s.Attached maxlen := by
  obtain ⟨s₀, hs₀, hreach⟩ := h
  obtain ⟨rbuf, hrbuf, hcreate, -⟩ := hs₀.rbuf
  have hroom := hframes.room rbuf hcreate
  refine ⟨rbuf.maxlen, hroom, hreach.invariant (fun _ _ _ hstep ha => ?_) fun _ => ⟨rbuf, hrbuf, rfl⟩⟩
  exact (hstep.received hframes hroom hreports ha).1

theorem returns_stopWatching (fdio : Fdio) (event : UInt32) (s : IoState) : Returns (stopWatching fdio event) s := by
  refine (returns_modify _ _).bind fun _ _ _ => ?_
  refine Returns.bind ⟨_, _, get_apply _⟩ fun t _ _ => .ite (fun _ => ?_) fun _ => ?_
  · exact ⟨_, _, rfl⟩
  · exact ⟨_, _, rfl⟩

theorem returns_ioStateOut (fdio : Fdio) (s : IoState) : Returns (ioStateOut fdio) s := by
  have hdrain : Returns (ioStateSendPendingWbufs fdio) s :=
    Returns.bind ⟨_, _, get_apply _⟩ fun _ _ _ => returns_of_avoids (fun e => avoids_sendPending e _) _
  refine hdrain.bind fun _ _ _ => Returns.bind ⟨_, _, get_apply _⟩ fun t _ _ => .ite (fun _ => ?_) fun _ => ?_
  · exact (returns_stopWatching _ _ _).bind fun _ _ _ =>
      .ite (fun _ => returns_pure _ _) fun _ => returns_pure _ _
  · exact returns_pure _ _

/-- An empty packet frames nothing, so it is received whatever the buffer holds. -/
theorem returns_stateIn_nil (hframes : w.lib.Frames o) (hreports : w.fdio.Reports) {rbuf : Rbuf}
    (hrbuf : s.io.rbuf = some rbuf) : Returns (Io.stateIn w (some [])) s := by
  have hrbuf' : (Daemon.ioLens.get s).rbuf = some rbuf := hrbuf
  have hget : zoom Daemon.ioLens (Exec.get : IoM IoState) s = .ok (s.io, s) := zoom_ok (get_apply _)
  have hlog : zoom Daemon.ioLens (logIo (.recvmsg s.io.fd)) s = .ok ((), { s with io := s.io.recvmsg }) := zoom_ok rfl
  obtain ⟨res, io, hstop⟩ := returns_stopWatching w.fdio epollIn s.io.recvmsg
  have hstop' : (Int32.toInt <$> zoom Daemon.ioLens (stopWatching w.fdio epollIn)) { s with io := s.io.recvmsg } =
      .ok (res.toInt, { s with io }) := by
    have hzoom : zoom Daemon.ioLens (stopWatching w.fdio epollIn) { s with io := s.io.recvmsg } =
        .ok (res, { s with io }) := zoom_ok hstop
    exact bind_ok hzoom _
  rw [Io.stateIn, ioStateIn, returns_bind_ok hget, hrbuf]
  dsimp only
  rw [returns_bind_ok hlog, if_pos (by simp), returns_bind_ok hstop']
  have hlen : res.toInt.toNat = 0 := Int.toNat_eq_zero.mpr (stopWatching_reports hreports _ _ _ _ hstop).1
  have hpdu : w.lib.pduRbufHasPdu { rbuf.receive [] with len := 0 } = false := by
    rw [Bool.eq_false_iff, ne_eq, hframes.hasPdu]
    dsimp only
    omega
  refine .ite (fun _ => returns_pure _ _) fun _ => ?_
  refine Returns.bind (returns_zoom.mpr (returns_modify _ _)) fun _ t _ => ?_
  rw [hlen, hpdu, if_neg (by decide)]
  exact .ite (fun _ => returns_pure _ _) fun _ => returns_pure _ _

/-- A command or an event that ends the daemon: the PDU that the packet frames is a command
that it dies of, or a tuner that is listed goes away, or changes, when the driver's device
is not open. -/
inductive Daemon.Crashes (w : World) (o : ByteOrder) (s : Daemon) : Input → Prop
  | command {packet : List UInt8} {rbuf : Rbuf} {cmd : Pdu} (hrbuf : s.io.rbuf = some rbuf)
      (hframe : framePdu o rbuf.maxlen packet = some cmd)
      (hdies : Daemon.Dies w { s with io := s.io.receive rbuf packet } cmd) : Crashes w o s (.readable (some packet))
  | event {event : TvInputEvent} (hdevice : s.dtv.env.hal.device = false)
      (hcloses : event.closes s.dtv.env.hal.live ≠ none) : Crashes w o s (.halEvent event)

/-- A request for the stream that a device is acting on already ends the daemon. -/
theorem Daemon.Crashes.repeated {packet : List UInt8} {rbuf : Rbuf} {cmd : Pdu} {deviceId : Int32}
    (hrbuf : s.io.rbuf = some rbuf) (hframe : framePdu o rbuf.maxlen packet = some cmd)
    (hservice : cmd.service = serviceDtv) (hregistered : s.gServiceHandler serviceDtv ≠ none)
    (hopcode : cmd.opcode = DtvIo.opcodeSetSource) (hnames : Names w cmd deviceId)
    (hacting : AlreadyActing w.driver s.dtv.env.hal deviceId) : Crashes w o s (.readable (some packet)) :=
  .command hrbuf hframe (.crashes hservice hregistered (.setSource hopcode deviceId hnames (.repeated hacting)))

theorem notify_returns_iff {driver : Driver} {hal : TvHal} (hfit : hal.Fits) (event : TvInputEvent) :
    Returns (deviceInitNotify driver event) hal ↔ ¬(hal.device = false ∧ event.closes hal.live ≠ none) := by
  by_cases hcrash : hal.device = false ∧ event.closes hal.live ≠ none
  · refine iff_of_false (not_returns_of_error (deviceInitNotify_error hfit hcrash.2 hcrash.1)) ?_
    exact not_not.mpr hcrash
  · refine iff_of_true ?_ hcrash
    have hdev : event.closes hal.live ≠ none → hal.device = true := fun hcloses =>
      Bool.eq_true_of_not_eq_false fun hdevice => hcrash ⟨hdevice, hcloses⟩
    obtain ⟨t, hrun, -⟩ : ∃ t, Notifies driver event hal t := deviceInitNotify_ok hfit event hdev
    exact returns_of_ok hrun

end

section

variable {lib : Lib} {fdio : Fdio} {driver : Driver} {p : Platform} {runTask : List PduOp → Wbuf → Int32}
  {o : ByteOrder} {s : Daemon} {input : Input}

theorem stateIn_returns_iff (hframes : lib.Frames o) (hdoc : lib.Documented o) (hregisters : fdio.Registers)
    (hreports : fdio.Reports) (hwhole : driver.OpensWhole)
    (hreach : Daemon.Reachable (.inTree lib fdio driver p runTask) s) (hopen : s.io.fd ≠ -1)
    (packet : Option (List UInt8)) : Returns (Io.stateIn (.inTree lib fdio driver p runTask) packet) s ↔
      ¬Daemon.Crashes (.inTree lib fdio driver p runTask) o s (.readable packet) := by
  obtain ⟨maxlen, hroom, hattached⟩ :=
    Daemon.Reachable.attached (w := .inTree lib fdio driver p runTask) hframes hreports hreach
  obtain ⟨rbuf, hrbuf, rfl⟩ := hattached hopen
  cases packet with
  | none =>
    refine iff_of_true (returns_of_ok (stateIn_none hrbuf)) fun h => ?_
    cases h
  | some packet =>
  by_cases hpacket : packet = []
  · subst hpacket
    refine iff_of_true (returns_stateIn_nil hframes hreports hrbuf) ?_
    rintro ⟨-, hframe, -⟩
    rw [framePdu_nil] at hframe
    cases hframe
  have hrbuf' : (Daemon.ioLens.get s).rbuf = some rbuf := hrbuf
  cases hframe : framePdu o rbuf.maxlen packet with
  | none =>
    refine iff_of_true (returns_of_ok (ioStateIn_unframed hframes hrbuf' hroom hpacket hframe)) ?_
    rintro ⟨hrbuf', hframe', -⟩
    cases hrbuf.symm.trans hrbuf'
    cases hframe.symm.trans hframe'
  | some cmd =>
    have hcrashes : Daemon.Crashes (.inTree lib fdio driver p runTask) o s (.readable (some packet)) ↔
        Daemon.Dies (.inTree lib fdio driver p runTask) { s with io := s.io.receive rbuf packet } cmd := by
      refine ⟨?_, .command hrbuf hframe⟩
      rintro ⟨hrbuf', hframe', hdies⟩
      cases hrbuf.symm.trans hrbuf'
      cases hframe.symm.trans hframe'
      exact hdies
    rw [hcrashes]
    refine Iff.trans ?_ (handlePdu_returns_iff hdoc hregisters hwhole hreach _)
    have hin : Io.stateIn (.inTree lib fdio driver p runTask) (some packet) s =
        (Io.handlePdu _ _ cmd >>= fun status => _) { s with io := s.io.receive rbuf packet } :=
      ioStateIn_framed hframes hrbuf' hroom hpacket hframe
    unfold Returns
    rw [hin]
    refine returns_bind_iff fun status t _ => .ite (fun _ => returns_pure _ _) fun _ => ?_
    exact (returns_zoom.mpr (returns_modify _ _)).bind fun _ _ _ => returns_pure _ _

/-- A task sends its notification, unless the service is gone. -/
theorem returns_runTask {w : World} {s : Daemon} (idx : ℕ) : Returns (Daemon.runTask w idx) s := by
  refine Returns.bind ⟨_, _, get_apply _⟩ fun u _ hget => ?_
  cases hget
  cases s.tasks[idx]? with
  | none => exact returns_pure _ _
  | some wbuf =>
    refine Returns.bind (returns_modify _ _) fun _ t htaken => ?_
    cases htaken
    refine Returns.bind ⟨_, _, get_apply _⟩ fun u _ hget => ?_
    cases hget
    cases hsend : s.dtv.sendPdu with
    | none =>
      rw [if_pos (by simp)]
      exact returns_pure _ _
    | some cb =>
      cases cb
      rw [if_neg (by simp)]
      refine Returns.bind (DtvIo.returns_sendPdu ?_ wbuf) fun _ _ _ => returns_pure _ _
      exact hsend

/-- In every reachable state of the in-tree daemon, whichever allocations fail, a step for an
input that can arrive is there if and only if the input is not one that ends the daemon. Of
the driver only handles of the right length are asked, of the loop that it registers what
it is told to, and of libpdu what it documents. -/
theorem daemon_steps_iff (hframes : lib.Frames o) (hdoc : lib.Documented o) (hregisters : fdio.Registers)
    (hreports : fdio.Reports) (hwhole : driver.OpensWhole)
    (hreach : Daemon.Reachable (.inTree lib fdio driver p runTask) s) (hrunning : s.running = true)
    (henabled : s.Enabled input) (hinput : ¬input.IsNotify) :
    (∃ t, Daemon.Step (.inTree lib fdio driver p runTask) s input t) ↔
      ¬Daemon.Crashes (.inTree lib fdio driver p runTask) o s input := by
  have hstep : (∃ t, Daemon.Step (.inTree lib fdio driver p runTask) s input t) ↔
      Returns (Daemon.callback (.inTree lib fdio driver p runTask) input) s := by
    refine Iff.trans ?_ (returns_bind_iff (f := fun result => if result = .exit ∨ result = .abort then
      Exec.modify fun s : Daemon => { s with running := false } else pure ()) fun _ _ _ =>
        .ite (fun _ => returns_modify _ _) fun _ => returns_pure _ _)
    constructor
    · rintro ⟨t, -, -, hrun⟩
      exact ⟨(), t, hrun⟩
    · rintro ⟨_, t, hrun⟩
      exact ⟨t, hrunning, henabled, hrun⟩
  rw [hstep]
  have hsound {m : DaemonM IoResult} (hm : Returns m s)
      (hcrashes : ¬Daemon.Crashes (.inTree lib fdio driver p runTask) o s input) :
      Returns m s ↔ ¬Daemon.Crashes (.inTree lib fdio driver p runTask) o s input := iff_of_true hm hcrashes
  cases input with
  | channelUpdate | scanStatus | eventNfy => exact absurd trivial hinput
  | readable packet =>
    rw [← stateIn_returns_iff hframes hdoc hregisters hreports hwhole hreach henabled packet]
    exact returns_bind_iff fun _ _ _ => .ite (fun _ => returns_pure _ _) fun _ => returns_pure _ _
  | halEvent event =>
    have hevent : Daemon.Crashes (.inTree lib fdio driver p runTask) o s (.halEvent event) ↔
        s.dtv.env.hal.device = false ∧ event.closes s.dtv.env.hal.live ≠ none := by
      refine ⟨fun h => ?_, fun h => .event h.1 h.2⟩
      cases h with
      | event hdevice hcloses => exact ⟨hdevice, hcloses⟩
    rw [hevent, ← notify_returns_iff hreach.halReady.fits]
    refine (returns_bind_iff fun _ _ _ => returns_pure _ _).trans ?_
    exact returns_zoom.trans returns_zoom
  | writable =>
    refine hsound ?_ fun h => by cases h
    exact (returns_zoom.mpr (returns_ioStateOut _ _)).bind fun _ _ _ =>
      .ite (fun _ => returns_pure _ _) fun _ => returns_pure _ _
  | err => exact hsound ⟨_, _, rfl⟩ fun h => by cases h
  | hup => exact hsound ⟨_, _, rfl⟩ fun h => by cases h
  | task idx =>
    refine hsound ?_ fun h => by cases h
    exact returns_runTask idx

end

end Tvd

import Tvd.Service.Device

/-! The handle that a Set source reply is built from. After a successful request
the stream structure carries the handle of the stream that is open now, unless that
stream was acting already: then no handle is stored, and the command reads one that
was never initialised. -/

namespace Tvd

open Exec

variable {s t : TvHal} {driver : Driver} {deviceId : Int32}

/-- The handle that the driver supplied for a stream, while the stream is open. -/
def openHandle (deviceId streamId : Int32) : List HalCall → Option NativeHandle
  | [] => none
  | .openStream d id result handle :: calls =>
    if d = deviceId ∧ id = streamId ∧ result = 0 then some handle
    else openHandle deviceId streamId calls
  | .closeStream d id result :: calls =>
    if d = deviceId ∧ id = streamId ∧ result = 0 then none else openHandle deviceId streamId calls
  | _ :: calls => openHandle deviceId streamId calls

/-- The structure names an open stream of the device, and has its handle. -/
def TvStream.Carries (tvStream : TvStream) (deviceId : Int32) (calls : List HalCall) : Prop :=
  ∃ streamId handle, tvStream.streamId = some streamId ∧
    tvStream.sidebandStreamSourceHandle = some handle ∧
    openHandle deviceId streamId calls = some handle

/-- The first entry of the device is acting on the stream that the driver offers. -/
def AlreadyActing (driver : Driver) (s : TvHal) (deviceId : Int32) : Prop :=
  ∃ config info, offered driver s deviceId = some config ∧
    s.live[firstIdx deviceId s.live]? = some info ∧
    info.actingStreamId = config.streamId ∧ info.actingStreamId ≠ -1

/-- Opening a stream for a listed device stores its handle. -/
theorem carries_openAndStore (hfit : s.Fits) (hdev : s.device = true) {idx : ℕ}
    (h : idx < s.live.length) {streamId : Int32} {tvStream stream : TvStream}
    (hid : tvStream.streamId = some streamId)
    (hrun : openAndStore driver deviceId idx streamId tvStream s =
      .ok ((tvStatusSuccess, stream), t)) :
    stream.Carries deviceId t.calls ∧ stream.sidebandStreamSourceHandle ≠ none := by
  rw [openAndStore_listed hfit hdev h] at hrun
  dsimp only at hrun
  by_cases hok : (driver.openStream s.calls deviceId streamId).1 = 0
  · rw [if_pos hok] at hrun
    cases hrun
    refine ⟨⟨streamId, _, hid, rfl, ?_⟩, Option.some_ne_none _⟩
    rw [TvHal.setEntry_calls, TvHal.opened, TvHal.withCall_calls, openHandle,
      if_pos ⟨rfl, rfl, hok⟩]
  · rw [if_neg hok] at hrun
    cases hrun

/-- A successful request for a listed device: the stream is acting already and no
handle is stored, or the structure carries the handle of the open stream. -/
theorem getStream_carries (hfit : s.Fits) (hlisted : ∃ info ∈ s.live, info.deviceId = deviceId)
    {stream : TvStream} (hrun : tvInputHalGetStream driver deviceId .unset s =
      .ok ((tvStatusSuccess, stream), t)) :
    (AlreadyActing driver s deviceId ∧ stream.sidebandStreamSourceHandle = none) ∨
      (¬AlreadyActing driver s deviceId ∧ stream.Carries deviceId t.calls ∧
        stream.sidebandStreamSourceHandle ≠ none) := by
  have hdev := device_of_getStream hrun
  have hlt := firstIdx_lt_iff.mpr hlisted
  have hget := List.getElem?_eq_getElem hlt
  rw [tvInputHalGetStream_eq hfit hdev] at hrun
  cases hoffer : offered driver s deviceId with
  | none =>
    rw [hoffer] at hrun
    cases hrun
  | some config =>
    rw [hoffer] at hrun
    dsimp only [TvHal.indexOf] at hrun
    rw [hget] at hrun
    dsimp only at hrun
    have hacting : AlreadyActing driver s deviceId ↔
        s.live[firstIdx deviceId s.live].actingStreamId = config.streamId ∧
          s.live[firstIdx deviceId s.live].actingStreamId ≠ -1 := by
      constructor
      · rintro ⟨config', info, hoffer', hget', heq, hne⟩
        rw [hoffer, Option.some_inj] at hoffer'
        rw [hget, Option.some_inj] at hget'
        subst hoffer' hget'
        exact ⟨heq, hne⟩
      · rintro ⟨heq, hne⟩
        exact ⟨config, _, hoffer, hget, heq, hne⟩
    have hasked : (s.asked driver deviceId).Fits := hfit
    rw [hacting]
    rw [TvStream.configure_of_video (offered_type hoffer)] at hrun
    by_cases hidle : s.live[firstIdx deviceId s.live].actingStreamId = -1
    · rw [if_pos hidle] at hrun
      exact .inr ⟨fun h => h.2 hidle, carries_openAndStore hasked hdev hlt rfl hrun⟩
    rw [if_neg hidle] at hrun
    by_cases heq : s.live[firstIdx deviceId s.live].actingStreamId = config.streamId
    · rw [if_pos heq] at hrun
      cases hrun
      exact .inl ⟨⟨heq, hidle⟩, rfl⟩
    rw [if_neg heq] at hrun
    split at hrun
    · cases hrun
    · have hclosed : ((s.asked driver deviceId).closed driver deviceId
          s.live[firstIdx deviceId s.live].actingStreamId).Fits := hfit
      exact .inr ⟨fun h => heq h.1, carries_openAndStore hclosed hdev hlt rfl hrun⟩

/-! ### The command -/

section

variable {w : World}

theorem avoids_call {e : Fault} (wbuf : Wbuf) (cb : SendPdu) : Avoids e (SendPdu.call w wbuf (some cb)) := by
  cases cb
  exact Avoids.bind (avoids_modify _ _).zoom fun _ =>
    (avoids_ioStateSend _ _).zoom.bind fun _ => avoids_pure _ _

theorem avoids_sendPdu {e : Fault} (hcall : .nullCallback ≠ e) (wbuf : Wbuf) :
    Avoids e (DtvIo.sendPdu w wbuf) := by
  refine (avoids_get _).bind fun s => ?_
  cases s.dtv.sendPdu with
  | none => exact avoids_throw hcall
  | some cb => exact avoids_call wbuf cb

/-- A reply stops only where filling it does. -/
theorem avoids_reply {e : Fault} (hcall : .nullCallback ≠ e) {fill : DtvIo.Fill}
    (hfill : ∀ wbuf, Avoids e (fill wbuf)) (cmd : Pdu) (wbuf : Option Wbuf) (release : List HeapOp) :
    Avoids e (DtvIo.reply w cmd wbuf fill release) := by
  have hheap (ops : List HeapOp) : Avoids e (onEnv (onHeap (heapOps ops))) := (avoids_heapOps _ ops).zoom.zoom
  cases wbuf with
  | none => exact avoids_pure _ _
  | some wbuf =>
    refine (hfill _).zoom.bind fun filled => ?_
    cases filled with
    | none => exact (hheap _).bind fun _ => Avoids.bind (avoids_modify _ _).zoom fun _ => avoids_pure _ _
    | some wbuf => exact (avoids_sendPdu hcall wbuf).bind fun _ => (hheap _).bind fun _ => avoids_pure _ _

theorem avoids_createSourceWbuf {e : Fault} (hnull : .nullPointer ≠ e) (hbounds : .outOfBounds ≠ e)
    (handle : NativeHandle) : Avoids e (DtvIo.createSourceWbuf w handle) := by
  refine .ite (avoids_createPduWbuf _ _ _ _ _) ((avoids_createPduWbuf _ _ _ _ _).bind fun wbuf => ?_)
  cases wbuf with
  | none => exact avoids_throw hnull
  | some wbuf => exact .ite ((avoids_throw hbounds).bind fun _ => avoids_pure _ _) (avoids_pure _ _)

theorem avoids_fillSource {e : Fault} (hargs : .badArguments ≠ e) (hbounds : .outOfBounds ≠ e)
    (handle : NativeHandle) (wbuf : Wbuf) : Avoids e (DtvIo.fillSource w handle wbuf) := by
  refine (avoids_appendToPdu hargs _ _ _ _).bind fun filled => ?_
  cases filled with
  | none => exact avoids_pure _ _
  | some wbuf =>
    refine (avoids_closed _).accumulate (fun idx wbuf => Avoids.bind (avoids_lift ?_) fun v => ?_) _ _ _
    · unfold NativeHandle.dataAt
      split
      · exact fun h => hbounds (Except.error.inj h)
      · split
        · exact fun h => hbounds (Except.error.inj h)
        · exact fun h => by cases h
    · exact avoids_appendToPdu hargs _ _ _ _

/-- Creating, filling and sending a Set source reply reads nothing uninitialised. -/
theorem avoids_sourceReply (cmd : Pdu) (handle : NativeHandle) :
    Avoids .indeterminate (do
      let wbuf ← onPdus (DtvIo.createSourceWbuf w handle)
      DtvIo.reply w cmd wbuf (DtvIo.fillSource w handle) []) := by
  refine (avoids_createSourceWbuf (by decide) (by decide) handle).zoom.bind fun wbuf => ?_
  exact avoids_reply (by decide) (avoids_fillSource (by decide) (by decide) handle) cmd wbuf []

end

section

variable {lib : Lib} {fdio : Fdio} {driver : Driver} {p : Platform}
  {runTask : List PduOp → Wbuf → Int32}

/-- The command reads an uninitialised handle exactly when the request stored none. -/
theorem setSource_indeterminate_iff {s : Daemon} {hal : TvHal} {stream : TvStream} {cmd : Pdu}
    {tunerId : CString} {sourceType : UInt8} {rest : Fmt.Values []}
    (hread : lib.readPduAt cmd [.str, .C] = some (tunerId, sourceType, rest))
    (hrun : tvInputHalGetStream driver (parseDeviceId p tunerId).toInt32 .unset s.dtv.env.hal =
      .ok ((tvStatusSuccess, stream), hal)) :
    DtvIo.setSource (.inTree lib fdio driver p runTask) cmd s = .error .indeterminate ↔
      stream.sidebandStreamSourceHandle = none := by
  generalize hw : World.inTree lib fdio driver p runTask = w
  have hset : onEnv (w.dtv.dtvSetSource tunerId sourceType .unset) s =
      .ok ((tvStatusSuccess, stream), Daemon.envLens.set { s.dtv.env with hal } s) := by
    subst hw
    exact zoom_ok (zoom_ok hrun)
  have hread' : w.lib.readPduAt cmd [.str, .C] = some (tunerId, sourceType, rest) := by
    subst hw
    exact hread
  unfold DtvIo.setSource
  rw [hread']
  dsimp only
  rw [bind_ok hset, if_neg (not_not.mpr rfl)]
  cases hhandle : stream.sidebandStreamSourceHandle with
  | none => simp
  | some handle =>
    exact iff_of_false (avoids_sourceReply cmd handle _) (Option.some_ne_none _)

/-- In every reachable state, a successful request for a listed device leads to a
reply with the handle of the open stream exactly when the device was not acting on
the offered stream already. -/
theorem setSource_carries_iff {s : Daemon}
    (hreach : Daemon.Reachable (.inTree lib fdio driver p runTask) s) {deviceId : Int32}
    (hlisted : ∃ info ∈ s.dtv.env.hal.live, info.deviceId = deviceId) {stream : TvStream}
    {hal : TvHal} (hrun : tvInputHalGetStream driver deviceId .unset s.dtv.env.hal =
      .ok ((tvStatusSuccess, stream), hal)) :
    (stream.Carries deviceId hal.calls ∧ ∀ cmd tunerId sourceType rest,
      lib.readPduAt cmd [.str, .C] = some (tunerId, sourceType, rest) →
      (parseDeviceId p tunerId).toInt32 = deviceId →
      DtvIo.setSource (.inTree lib fdio driver p runTask) cmd s ≠ .error .indeterminate) ↔
    ¬AlreadyActing driver s.dtv.env.hal deviceId := by
  rcases getStream_carries hreach.halReady.fits hlisted hrun with ⟨hacting, hnone⟩ | ⟨hnew, hcarries, hsome⟩
  · refine iff_of_false ?_ (not_not.mpr hacting)
    rintro ⟨⟨_, _, _, hhandle, _⟩, _⟩
    rw [hnone] at hhandle
    cases hhandle
  · refine iff_of_true ⟨hcarries, fun cmd tunerId sourceType rest hread hid => ?_⟩ hnew
    subst hid
    rwa [Ne, setSource_indeterminate_iff hread hrun]

end

/-! ### A repeated command -/

/-- A client has registered the DTV service, and tuner 1 has become available. -/
def tunerAvailable (driver : Driver) : Daemon :=
  ((Daemon.connected (.onDriver driver)).next (.onDriver driver) (.readable (some [0, 1, 1, 0, 1]))).next
    (.onDriver driver) (.halEvent ⟨.deviceAvailable, 1, .tuner⟩)

/-- A Set source command for tuner 1. -/
def setSourceOne : List UInt8 := [1, 2, 3, 0, 49, 0, 0]

theorem tunerAvailable_reachable_of {driver : Driver}
    (h : ∀ x ∈ trace (Daemon.next (.onDriver driver)) (Daemon.connected (.onDriver driver))
        [.readable (some [0, 1, 1, 0, 1]), .halEvent ⟨.deviceAvailable, 1, .tuner⟩],
      Daemon.Takes (.onDriver driver) x.before x.label) :
    Daemon.Reachable (.onDriver driver) (tunerAvailable driver) := .ofInputs rfl _ h

theorem tunerAvailable_reachable :
    Daemon.Reachable (.onDriver steadyDriver) (tunerAvailable steadyDriver) :=
  tunerAvailable_reachable_of (by decide +kernel)

theorem tunerAvailable_live : (tunerAvailable steadyDriver).dtv.env.hal.live = [⟨1, .tuner, -1⟩] := by
  decide +kernel

theorem tunerAvailable_registered : (tunerAvailable steadyDriver).gServiceHandler serviceDtv ≠ none := by
  decide +kernel

theorem setSource_carries_steadyDriver : ∃ stream hal,
    tvInputHalGetStream steadyDriver 1 .unset (tunerAvailable steadyDriver).dtv.env.hal =
      .ok ((tvStatusSuccess, stream), hal) ∧ stream.Carries 1 hal.calls := by
  have hlisted : ∃ info ∈ (tunerAvailable steadyDriver).dtv.env.hal.live, info.deviceId = 1 := by
    rw [tunerAvailable_live]
    exact ⟨_, List.mem_cons_self, rfl⟩
  have hnew : ¬AlreadyActing steadyDriver (tunerAvailable steadyDriver).dtv.env.hal 1 := by
    rintro ⟨config, info, -, hget, -, hacting⟩
    rw [tunerAvailable_live] at hget
    cases hget
    exact hacting rfl
  have hoffer : offered steadyDriver (tunerAvailable steadyDriver).dtv.env.hal 1 =
      some ⟨5, .independentVideoSource, 0, 0⟩ := rfl
  have hentry : (tunerAvailable steadyDriver).dtv.env.hal.live[
      (tunerAvailable steadyDriver).dtv.env.hal.indexOf 1]? = some ⟨1, .tuner, -1⟩ := by
    rw [TvHal.indexOf, tunerAvailable_live]
    rfl
  obtain ⟨hal, hrun⟩ := tvInputHalGetStream_idleEntry tunerAvailable_reachable.halReady.fits
    (by decide +kernel) hoffer hentry rfl rfl .unset
  exact ⟨_, hal, hrun, ((setSource_carries_iff tunerAvailable_reachable hlisted hrun).mpr hnew).1⟩

/-- The same Set source command again reads a handle that was never stored. -/
theorem setSource_repeated : ¬∀ (lib : Lib) (fdio : Fdio) (driver : Driver) (p : Platform)
    (runTask : List PduOp → Wbuf → Int32) (s : Daemon) (deviceId : Int32) (stream : TvStream)
    (hal : TvHal), Daemon.Reachable (.inTree lib fdio driver p runTask) s →
    (∃ info ∈ s.dtv.env.hal.live, info.deviceId = deviceId) →
    tvInputHalGetStream driver deviceId .unset s.dtv.env.hal = .ok ((tvStatusSuccess, stream), hal) →
    stream.Carries deviceId hal.calls ∧ ∀ cmd tunerId sourceType rest,
      lib.readPduAt cmd [.str, .C] = some (tunerId, sourceType, rest) →
      (parseDeviceId p tunerId).toInt32 = deviceId →
      DtvIo.setSource (.inTree lib fdio driver p runTask) cmd s ≠ .error .indeterminate := by
  intro h
  let s := (tunerAvailable steadyDriver).next (.onDriver steadyDriver) (.readable (some setSourceOne))
  have hreach : Daemon.Reachable (.onDriver steadyDriver) s :=
    tunerAvailable_reachable.takes (by decide +kernel)
  have hlive : s.dtv.env.hal.live = [⟨1, .tuner, 5⟩] := by decide +kernel
  have hlisted : ∃ info ∈ s.dtv.env.hal.live, info.deviceId = 1 := by
    rw [hlive]
    exact ⟨_, List.mem_cons_self, rfl⟩
  -- the tuner acts on the offered stream already
  have hoffer : offered steadyDriver s.dtv.env.hal 1 = some ⟨5, .independentVideoSource, 0, 0⟩ := rfl
  have hentry : s.dtv.env.hal.live[s.dtv.env.hal.indexOf 1]? = some ⟨1, .tuner, 5⟩ := by decide +kernel
  obtain ⟨stream, hal, hrun, hnone⟩ : ∃ stream hal,
      tvInputHalGetStream steadyDriver 1 .unset s.dtv.env.hal = .ok ((tvStatusSuccess, stream), hal) ∧
        stream.sidebandStreamSourceHandle = none := by
    rw [tvInputHalGetStream_eq hreach.halReady.fits (by decide +kernel), hoffer, hentry]
    exact ⟨_, _, rfl, rfl⟩
  obtain ⟨-, hreply⟩ := h _ _ _ _ _ _ 1 _ _ hreach hlisted hrun
  have hid : (parseDeviceId .lp64 tunerOne).toInt32 = 1 := by decide +kernel
  refine hreply ⟨1, 2, [49, 0, 0]⟩ tunerOne 0 () rfl hid ?_
  rw [← hid] at hrun
  exact (setSource_indeterminate_iff rfl hrun).mpr hnone

end Tvd

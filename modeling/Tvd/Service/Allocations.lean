import Tvd.Service.Buffers
import Tvd.Service.InTree
import Tvd.Service.DevicePointer
import Tvd.Service.Registrations
import Tvd.Service.Releases
import Tvd.Service.SourceFailure
import Tvd.Service.Statuses

/-! Allocations that fail. Every handler tests the buffer of its reply, but the records
of the tuners, their ids and the strings are stored to untested, and so is the tail of a
Set source reply with descriptors. Where the run does not end there, a failed allocation
is always reported. -/

namespace Tvd

open Exec

/-! ### Code that stores through no NULL -/

section

variable {w : World} {cmd : Pdu}

theorem appendTuner_safe (lib : Lib) (wbuf : Wbuf) (tuner : TvTuner) :
    Avoids .nullPointer (appendTuner lib wbuf (some tuner)) := by
  have hget {α : Type} (s : Ptr α) : s.get ≠ .error .nullPointer := by
    unfold Ptr.get
    split
    · exact fun h => by cases h
    · exact fun h => by cases h
  have harg : ptrArg tuner.id ≠ .error .nullPointer := by
    unfold ptrArg
    intro h
    cases hid : tuner.id.get with
    | ok id =>
      rw [hid] at h
      cases h
    | error e =>
      rw [hid] at h
      cases h
      exact hget _ hid
  refine (avoids_lift harg).bind fun id => (avoids_appendToPdu (by decide) _ _ _ _).bind fun filled => ?_
  cases filled with
  | none => exact avoids_pure _ _
  | some wbuf =>
    refine (avoids_closed _).accumulate (fun idx wbuf => (avoids_lift (hget _)).bind fun types => ?_) _ _ _
    split
    · exact avoids_throw (by decide)
    · exact avoids_appendToPdu (by decide) _ _ _ _

/-- The list of the tuners is appended from an array, or is empty. -/
theorem appendTuners_safe {num : UInt32} {tuners : Option (Records TvTuner)}
    (h : tuners ≠ none ∨ num = 0) (wbuf : Wbuf) :
    Avoids .nullPointer (DtvIo.appendRecords w .unset (appendTuner w.lib) num tuners wbuf) := by
  refine (avoids_appendToPdu (by decide) _ _ _ _).bind fun filled => ?_
  cases filled with
  | none => exact avoids_pure _ _
  | some wbuf =>
    refine avoids_accumulate _ _ _ fun idx wbuf _ hidx => ?_
    cases tuners with
    | none =>
      rw [h.resolve_left fun hne => hne rfl] at hidx
      exact absurd hidx (Nat.not_lt_zero idx)
    | some records =>
      exact appendTuner_safe w.lib wbuf (records.items.getD idx .unset)

theorem createTuners_safe {num : UInt32} {tuners : Option (Records TvTuner)} (h : tuners ≠ none ∨ num = 0)
    (capacity : ℕ) (release : List HeapOp) : Avoids .nullPointer (DtvIo.createReply w cmd capacity
      (DtvIo.appendRecords w .unset (appendTuner w.lib) num tuners) release) :=
  (avoids_createPduWbuf _ _ _ _ _).zoom.bind fun wbuf =>
    avoids_reply (by decide) (appendTuners_safe h) cmd wbuf release

/-- The buffer of a Set source reply is stored to without a test if there are descriptors. -/
theorem createSourceWbuf_null_iff (handle : NativeHandle) (log : List PduOp) :
    DtvIo.createSourceWbuf w handle log = .error .nullPointer ↔ handle.numFds ≠ 0 ∧
      w.lib.createPduWbuf log (handle.replySize w.platform) (handle.tailSize w.platform) = false := by
  unfold DtvIo.createSourceWbuf
  dsimp only
  rw [← NativeHandle.replySize]
  by_cases hfds : handle.numFds = 0
  · rw [if_pos hfds]
    exact iff_of_false (avoids_createPduWbuf _ _ _ _ _ log) fun h => h.1 hfds
  have htail : handle.tailSize w.platform = _ := if_neg hfds
  rw [if_neg hfds, ← htail, and_iff_right hfds]
  cases halloc : w.lib.createPduWbuf log (handle.replySize w.platform) (handle.tailSize w.platform) with
  | false =>
    rw [bind_ok (createPduWbuf_none halloc true)]
    exact iff_of_true rfl rfl
  | true =>
    rw [bind_ok (createPduWbuf_some halloc true)]
    refine iff_of_false ?_ (by decide)
    exact (Avoids.ite ((avoids_throw (by decide)).bind fun _ => avoids_pure _ _) (avoids_pure _ _)) _

end

/-! ### The handle that the driver gives -/

section

variable {driver : Driver} {s : TvHal} {deviceId : Int32} {handle : NativeHandle}

/-- A stream is given with this handle: the driver opens the one that it offers, at once
or in place of another that closes, and there is an entry to store its id in. -/
def Gives (driver : Driver) (s : TvHal) (deviceId : Int32) (handle : NativeHandle) : Prop :=
  match offered driver s deviceId, s.live[s.indexOf deviceId]? with
  | none, _ => False
  | some config, none => s.deviceNum.toNat < maxDeviceNum ∧
    driver.openStream (s.asked driver deviceId).calls deviceId config.streamId = (0, handle)
  | some config, some info =>
    let t := s.asked driver deviceId
    let u := t.closed driver deviceId info.actingStreamId
    if info.actingStreamId = -1 then driver.openStream t.calls deviceId config.streamId = (0, handle)
    else info.actingStreamId ≠ config.streamId ∧
      driver.closeStream t.calls deviceId info.actingStreamId = 0 ∧
      driver.openStream u.calls deviceId config.streamId = (0, handle)

theorem openAndStore_gives_iff (hdev : s.device = true) {idx : ℕ} {streamId : Int32} {tvStream : TvStream} :
    (∃ stream t, openAndStore driver deviceId idx streamId tvStream s = .ok ((tvStatusSuccess, stream), t) ∧
      stream.sidebandStreamSourceHandle = some handle) ↔
    idx < maxDeviceNum ∧ driver.openStream s.calls deviceId streamId = (0, handle) := by
  by_cases hok : (driver.openStream s.calls deviceId streamId).1 = 0
  · rw [openAndStore_ok hdev hok]
    rcases Nat.lt_or_ge idx maxDeviceNum with hlt | hge
    · rw [bind_ok (setActingStreamId_ok hlt _), and_iff_right hlt]
      constructor
      · rintro ⟨stream, t, hrun, hhandle⟩
        cases hrun
        exact Prod.ext hok (Option.some_inj.mp hhandle)
      · intro hopen
        refine ⟨_, _, rfl, ?_⟩
        rw [hopen]
        rfl
    · rw [bind_error (setActingStreamId_error hge _)]
      refine iff_of_false ?_ fun h => absurd h.1 (Nat.not_lt.mpr hge)
      rintro ⟨stream, t, hrun, -⟩
      cases hrun
  · rw [openAndStore_fail hdev hok]
    refine iff_of_false ?_ fun h => hok (congrArg Prod.fst h.2)
    rintro ⟨stream, t, hrun, -⟩
    cases hrun

theorem gives_iff (hfit : s.Fits) (hdev : s.device = true) : Gives driver s deviceId handle ↔
    ∃ stream t, tvInputHalGetStream driver deviceId .unset s = .ok ((tvStatusSuccess, stream), t) ∧
      stream.sidebandStreamSourceHandle = some handle := by
  have hdev' : (s.asked driver deviceId).device = true := hdev
  rw [tvInputHalGetStream_eq hfit hdev]
  unfold Gives
  cases hoffer : offered driver s deviceId with
  | none =>
    refine iff_of_false id ?_
    rintro ⟨stream, t, hrun, -⟩
    cases hrun
  | some config =>
  cases hentry : s.live[s.indexOf deviceId]? with
  | none => exact (openAndStore_gives_iff hdev').symm
  | some info =>
  dsimp only
  by_cases hidle : info.actingStreamId = -1
  · rw [if_pos hidle, if_pos hidle, openAndStore_gives_iff hdev', and_iff_right (hfit.lt_max hentry)]
  rw [if_neg hidle, if_neg hidle]
  by_cases hacting : info.actingStreamId = config.streamId
  · rw [if_pos hacting]
    refine iff_of_false (fun h => h.1 hacting) ?_
    rintro ⟨stream, t, hrun, hhandle⟩
    cases hrun
    rw [TvStream.configure_of_video (offered_type hoffer)] at hhandle
    cases hhandle
  rw [if_neg hacting, and_iff_right hacting]
  by_cases hclose : driver.closeStream (s.asked driver deviceId).calls deviceId info.actingStreamId = 0
  · have hdev'' : ((s.asked driver deviceId).closed driver deviceId info.actingStreamId).device = true := hdev
    rw [if_neg (not_not.mpr hclose), openAndStore_gives_iff hdev'', and_iff_right hclose,
      and_iff_right (hfit.lt_max hentry)]
  · rw [if_pos hclose]
    refine iff_of_false (fun h => hclose h.1) ?_
    rintro ⟨stream, t, hrun, -⟩
    cases hrun

end

/-! ### The handlers -/

section

variable {w : World} {s : Daemon} {cmd : Pdu}

/-- Set source stores through NULL exactly when there is no memory for the reply with
the descriptors of the stream that it is given. -/
theorem setSource_null_iff (hw : w.IsInTree) (hfit : s.dtv.env.hal.Fits) (hdev : s.dtv.env.hal.device = true) :
    DtvIo.setSource w cmd s = .error .nullPointer ↔ ∃ deviceId handle, Names w cmd deviceId ∧
      Gives w.driver s.dtv.env.hal deviceId handle ∧ handle.numFds ≠ 0 ∧
      w.lib.createPduWbuf s.pdus (handle.replySize w.platform) (handle.tailSize w.platform) = false := by
  cases hread : w.lib.readPduAt cmd [.str, .C] with
  | none =>
    unfold DtvIo.setSource
    rw [hread]
    refine iff_of_false (fun h => by cases h) ?_
    rintro ⟨deviceId, handle, ⟨_, _, _, hread', -⟩, -⟩
    cases hread.symm.trans hread'
  | some values =>
  obtain ⟨tunerId, sourceType, rest⟩ := values
  -- what the right-hand side says of the one device that is named
  have hgives : (∃ deviceId handle, Names w cmd deviceId ∧ Gives w.driver s.dtv.env.hal deviceId handle ∧
      handle.numFds ≠ 0 ∧
      w.lib.createPduWbuf s.pdus (handle.replySize w.platform) (handle.tailSize w.platform) = false) ↔
      ∃ handle stream hal, tvInputHalGetStream w.driver (ServiceOp.deviceOf w tunerId) .unset s.dtv.env.hal =
        .ok ((tvStatusSuccess, stream), hal) ∧ stream.sidebandStreamSourceHandle = some handle ∧
        handle.numFds ≠ 0 ∧
        w.lib.createPduWbuf s.pdus (handle.replySize w.platform) (handle.tailSize w.platform) = false := by
    constructor
    · rintro ⟨deviceId, handle, hnames, hgives, hfails⟩
      cases hnames.eq hread
      obtain ⟨stream, hal, hrun, hhandle⟩ := (gives_iff hfit hdev).mp hgives
      exact ⟨handle, stream, hal, hrun, hhandle, hfails⟩
    · rintro ⟨handle, stream, hal, hrun, hhandle, hfails⟩
      exact ⟨_, handle, ⟨tunerId, sourceType, rest, hread, rfl⟩,
        (gives_iff hfit hdev).mpr ⟨stream, hal, hrun, hhandle⟩, hfails⟩
  rw [hgives]
  have hset : w.dtv.dtvSetSource tunerId sourceType .unset =
      onHal (tvInputHalGetStream w.driver (ServiceOp.deviceOf w tunerId) .unset) := by
    rw [hw]
    rfl
  unfold DtvIo.setSource
  rw [hread]
  dsimp only
  rw [hset]
  cases hrun : tvInputHalGetStream w.driver (ServiceOp.deviceOf w tunerId) .unset s.dtv.env.hal with
  | error e =>
    have herror : onEnv (onHal (tvInputHalGetStream w.driver (ServiceOp.deviceOf w tunerId) .unset)) s =
        .error e := zoom_error (zoom_error hrun)
    rw [bind_error herror]
    refine iff_of_false (fun h => ?_) ?_
    · cases h
      exact tvInputHalGetStream_safe hfit hdev _ _ hrun
    · rintro ⟨_, _, _, h, -⟩
      cases h
  | ok r =>
  obtain ⟨⟨ret, stream⟩, hal⟩ := r
  have hok : onEnv (onHal (tvInputHalGetStream w.driver (ServiceOp.deviceOf w tunerId) .unset)) s =
      .ok ((ret, stream), s.withHal hal) := zoom_ok (zoom_ok hrun)
  rw [bind_ok hok]
  dsimp only
  by_cases hret : ret = tvStatusSuccess
  case neg =>
    rw [if_pos hret]
    refine iff_of_false (fun h => by cases h) ?_
    rintro ⟨_, _, _, h, -⟩
    cases h
    exact hret rfl
  subst hret
  rw [if_neg (not_not.mpr rfl)]
  cases hhandle : stream.sidebandStreamSourceHandle with
  | none =>
    refine iff_of_false (fun h => by cases h) ?_
    rintro ⟨handle, _, _, h, hsome, -⟩
    cases h
    cases hhandle.symm.trans hsome
  | some handle =>
    have hfails : (∃ handle' stream' hal', (Except.ok ((tvStatusSuccess, stream), hal) :
          Except Fault ((UInt8 × TvStream) × TvHal)) = .ok ((tvStatusSuccess, stream'), hal') ∧
        stream'.sidebandStreamSourceHandle = some handle' ∧ handle'.numFds ≠ 0 ∧
        w.lib.createPduWbuf s.pdus (handle'.replySize w.platform) (handle'.tailSize w.platform) = false) ↔
        DtvIo.createSourceWbuf w handle s.pdus = .error .nullPointer := by
      rw [createSourceWbuf_null_iff]
      constructor
      · rintro ⟨handle', _, _, h, hsome, hfails⟩
        cases h
        cases hhandle.symm.trans hsome
        exact hfails
      · exact fun hfails => ⟨handle, stream, hal, rfl, hhandle, hfails⟩
    rw [hfails]
    have hreply (wbuf : Option Wbuf) :
        Avoids .nullPointer (DtvIo.reply w cmd wbuf (DtvIo.fillSource w handle) []) :=
      avoids_reply (by decide) (avoids_fillSource (by decide) (by decide) handle) cmd wbuf []
    dsimp only
    constructor
    · intro h
      cases hcreate : DtvIo.createSourceWbuf w handle s.pdus with
      | error e =>
        have herror : onPdus (DtvIo.createSourceWbuf w handle) (s.withHal hal) = .error e := zoom_error hcreate
        rw [bind_error herror] at h
        cases h
        rfl
      | ok r =>
        have hok : onPdus (DtvIo.createSourceWbuf w handle) (s.withHal hal) = .ok (r.1, _) := zoom_ok hcreate
        rw [bind_ok hok] at h
        exact absurd h (hreply _ _)
    · intro hcreate
      have herror : onPdus (DtvIo.createSourceWbuf w handle) (s.withHal hal) = .error .nullPointer :=
        zoom_error hcreate
      exact bind_error herror _

end

/-! ### Failures -/

/-- An allocation that failed; nothing was asked for with the size zero. -/
def HeapOp.Failed : HeapOp → Prop
  | .malloc size ok => 0 < size ∧ ok = false
  | .load _ | .free _ => False

def PduOp.Failed : PduOp → Prop
  | .create _ _ ok => ok = false
  | .append _ | .destroy _ | .send _ | .runTask .. => False

/-- A log that went on without a failure. -/
def Unfailed {α : Type} (Failed : α → Prop) (base log : List α) : Prop :=
  ∃ ops, log = ops ++ base ∧ ∀ op ∈ ops, ¬Failed op

namespace Unfailed

variable {α : Type} {Failed : α → Prop} {base log ops : List α}

theorem refl (Failed : α → Prop) (base : List α) : Unfailed Failed base base :=
  ⟨[], rfl, fun _ h => absurd h List.not_mem_nil⟩

theorem append (h : Unfailed Failed base log) (hops : ∀ op ∈ ops, ¬Failed op) :
    Unfailed Failed base (ops ++ log) := by
  obtain ⟨before, rfl, hbefore⟩ := h
  refine ⟨ops ++ before, (List.append_assoc _ _ _).symm, fun op hop => ?_⟩
  rcases List.mem_append.mp hop with hop | hop
  · exact hops op hop
  · exact hbefore op hop

theorem cons (h : Unfailed Failed base log) {op : α} (hop : ¬Failed op) :
    Unfailed Failed base (op :: log) := by
  have hone : ∀ other ∈ [op], ¬Failed other := List.forall_mem_singleton.mpr hop
  exact h.append hone

theorem not_failed (h : Unfailed Failed base log) (hlog : log = ops ++ base) : ∀ op ∈ ops, ¬Failed op := by
  obtain ⟨ops', heq, hops'⟩ := h
  rwa [← List.append_cancel_right (heq.symm.trans hlog)]

end Unfailed

/-! ### Buffers that could not be created -/

section

variable {w : World} {base : List PduOp}

/-- Every buffer since `base` could be created. -/
def Created (base : List PduOp) (s : Daemon) : Prop := Unfailed PduOp.Failed base s.pdus

/-- A buffer that could not be created ends in an error. -/
def Obtains (base : List PduOp) (p : DaemonM Int32) : Prop :=
  ∀ s, Created base s → Ensures p s fun status t => status = errorNone → Created base t

theorem Obtains.of_preserves {p : DaemonM Int32} (h : Preserves (Created base) p) : Obtains base p :=
  fun s hs => (h s hs).mono fun _ _ ht _ => ht

theorem obtains_error {status : Int32} (h : status ≠ errorNone) : Obtains base (pure status) :=
  fun _ _ => ensures_pure.mpr fun hstatus => absurd hstatus h

theorem Obtains.after {α : Type} {m : DaemonM α} (hm : Preserves (Created base) m) {f : α → DaemonM Int32}
    (hf : ∀ a, Obtains base (f a)) : Obtains base (m >>= f) := by
  intro s hs
  rw [ensures_bind]
  exact (hm s hs).mono fun a t ht => hf a t ht

theorem created_of_keeps {α : Type} {m : DaemonM α} (hm : Keeps Daemon.pdus m) : Preserves (Created base) m :=
  hm.preserves fun s t h hs => by
    unfold Created
    rwa [h]

theorem created_log {op : PduOp} (hop : ¬op.Failed) :
    Preserves (Created base) (onPdus (Exec.modify (op :: ·))) :=
  fun _ hs => ensures_zoom.mpr (ensures_modify.mpr (hs.cons hop))

theorem created_call (wbuf : Wbuf) (cb : Option SendPdu) :
    Preserves (Created base) (SendPdu.call w wbuf cb) := by
  cases cb with
  | none => exact preserves_throw _ _
  | some cb =>
    cases cb
    refine Preserves.bind (created_log id) fun _ => created_of_keeps ?_
    exact (keeps_pdus_onIo _).bind fun _ => keeps_pure _ _

theorem created_fill {fill : DtvIo.Fill} (hfill : Proper fill) (wbuf : Wbuf) :
    Preserves (Created base) (onPdus (fill wbuf)) := by
  intro s hs
  refine ensures_zoom.mpr ((hfill.appends wbuf s.pdus _ ⟨[], rfl⟩).mono ?_)
  rintro _ _ ⟨oks, rfl⟩
  refine hs.append fun op hop => ?_
  obtain ⟨ok, -, rfl⟩ := List.mem_map.mp hop
  exact id

theorem obtains_destroyed {status : Int32} (wbuf : Wbuf) :
    Obtains base (do onPdus (destroyPduWbuf wbuf); return status) :=
  .of_preserves (Preserves.bind (created_log id) fun _ => preserves_pure _ _)

/-- Code that creates a buffer, or returns none. -/
theorem obtains_create {m : PduM (Option Wbuf)} {f : Option Wbuf → DaemonM Int32}
    (hm : ∀ log, Ensures m log fun r log' => r ≠ none → Unfailed PduOp.Failed log log')
    (hnone : f none = pure errorNomem) (hsome : ∀ wbuf, Obtains base (f (some wbuf))) :
    Obtains base (onPdus m >>= f) := by
  intro s hs
  rw [ensures_bind, ensures_zoom]
  refine (hm s.pdus).mono fun r log hlog => ?_
  cases r with
  | none =>
    rw [hnone]
    exact ensures_pure.mpr fun h => absurd h (by decide)
  | some wbuf =>
    obtain ⟨ops, rfl, hops⟩ := hlog (Option.some_ne_none wbuf)
    exact hsome wbuf _ (hs.append hops)

theorem unfailed_createPduWbuf (lib : Lib) (capacity tailLen : ℕ) (hasBuilder : Bool) (log : List PduOp) :
    Ensures (createPduWbuf lib capacity tailLen hasBuilder) log fun r log' =>
      r ≠ none → Unfailed PduOp.Failed log log' := by
  refine (createPduWbuf_ensures _ _ _ _).mono ?_
  rintro _ _ (⟨-, rfl, rfl⟩ | ⟨-, rfl, rfl⟩) hne
  · exact absurd rfl hne
  · exact (Unfailed.refl _ _).cons (by simp [PduOp.Failed])

theorem unfailed_createSourceWbuf (handle : NativeHandle) (log : List PduOp) :
    Ensures (DtvIo.createSourceWbuf w handle) log fun r log' =>
      r ≠ none → Unfailed PduOp.Failed log log' := by
  unfold DtvIo.createSourceWbuf
  dsimp only
  split
  · exact unfailed_createPduWbuf _ _ _ _ log
  rw [ensures_bind]
  refine (unfailed_createPduWbuf _ _ _ _ log).mono fun r log' hlog => ?_
  cases r with
  | none => exact ensures_throw.mpr trivial
  | some wbuf =>
    have hlog' := hlog (Option.some_ne_none wbuf)
    dsimp only
    split
    · exact ensures_bind.mpr (ensures_throw.mpr trivial)
    · exact ensures_pure.mpr fun _ => hlog'

theorem obtains_reply (cmd : Pdu) {fill : DtvIo.Fill} (hfill : Proper fill) (release : List HeapOp) (wbuf : Wbuf) :
    Obtains base (DtvIo.reply w cmd (some wbuf) fill release) := by
  have hrelease : Preserves (Created base) (onEnv (onHeap (heapOps release))) :=
    created_of_keeps (keeps_pdus_onEnv _)
  refine .after (created_fill hfill _) fun filled => ?_
  cases filled with
  | none => exact .after hrelease fun _ => obtains_destroyed _
  | some wbuf =>
    refine .after ((preserves_get _).bind fun s => created_call wbuf _) fun _ => ?_
    exact .of_preserves (hrelease.bind fun _ => preserves_pure _ _)

theorem IsCode.ne_errorNone {status : Int32} (h : IsCode status) : status ≠ errorNone := by
  obtain ⟨error, herror, rfl⟩ := h
  exact statusCode_ne_zero herror

theorem obtains_dtvHandler (cmd : Pdu) : Obtains base (DtvIo.dtvHandler w cmd) := by
  have hrules : HandlerRules w cmd (Obtains base) :=
    { api := fun _ hf => .after (created_of_keeps (keeps_pdus_onEnv _)) hf
      heap := fun _ hf => .after (created_of_keeps (keeps_pdus_onEnv _)) hf
      size := fun _ hf => .after (preserves_lift _ _) hf
      code := fun h => obtains_error h.ne_errorNone
      indeterminate := .of_preserves (preserves_throw _ _)
      reply := fun _ release hfill =>
        obtains_create (unfailed_createPduWbuf _ _ _ _) rfl (obtains_reply cmd hfill release)
      sourceReply := fun handle =>
        obtains_create (unfailed_createSourceWbuf handle) rfl (obtains_reply cmd (proper_fillSource handle) []) }
  exact hrules.dtvHandler

theorem obtains_registryHandler {services : Services} (cmd : Pdu) :
    Obtains base (Registry.registryHandler w services cmd) := by
  have hrules : RegistryRules w services (Obtains base) :=
    { code := fun h => obtains_error h.ne_errorNone
      get := fun hf => .after (preserves_get _) hf
      create := fun _ => obtains_create (unfailed_createPduWbuf _ _ _ _)
      destroyed := fun wbuf _ => obtains_destroyed wbuf
      register := fun _ _ hf => .after (created_of_keeps (keeps_pdus_onDtv _)) hf
      unregister := fun _ hf => .after (created_of_keeps (keeps_pdus_onDtv _)) hf
      setHandler := fun service handler hf => by
        have hset : Keeps Daemon.pdus (setServiceHandler service handler) := keeps_modify fun _ => rfl
        exact .after (created_of_keeps hset) fun _ => hf
      append := fun wbuf fmt args hf => .after (created_fill (.args fmt args) wbuf) hf
      send := fun wbuf => .of_preserves
        (((preserves_get _).bind fun s => created_call wbuf _).bind fun _ => preserves_pure _ _) }
  exact hrules.registryHandler cmd

/-- No service returns zero where a buffer could not be created. -/
theorem obtains_serve {services : Services} (s : Daemon) (cmd : Pdu) : Obtains base (Io.serve w services s cmd) :=
  Io.serve_rule (obtains_error (by decide)) (obtains_registryHandler cmd) (obtains_dtvHandler cmd) s

end

/-! ### Memory that could not be allocated -/

theorem allocated_not_failed {sizes : List ℕ} {op : HeapOp} (h : op ∈ allocated sizes) : ¬op.Failed := by
  obtain ⟨size, -, rfl⟩ := mem_allocated h
  exact fun hfailed => absurd hfailed.2 (by decide)

theorem freeFields_not_failed {array : ℕ} {fields : List (Option ℕ)} {op : HeapOp}
    (h : op ∈ freeFields array fields) : ¬op.Failed := by
  obtain ⟨p, -, hop⟩ := List.mem_flatMap.mp h
  rcases List.mem_cons.mp hop with rfl | hop
  · exact id
  · rw [List.mem_singleton.mp hop]
    exact id

theorem releaseTuners_not_failed {num : UInt32} {tuners : Option (Records TvTuner)} {op : HeapOp}
    (h : op ∈ releaseTuners num tuners) : ¬op.Failed := by
  cases tuners with
  | none => cases h
  | some tuners =>
    rcases List.mem_append.mp h with h | h
    · obtain ⟨idx, -, hop⟩ := List.mem_flatMap.mp h
      exact freeFields_not_failed hop
    · rw [List.mem_singleton.mp h]
      exact id

section

variable {w : World} {s : Daemon} {cmd : Pdu}

/-- What a reply releases was allocated. -/
theorem createReply_unfailed {capacity : ℕ} {fill : DtvIo.Fill} {num : UInt32} {tuners : Option (Records TvTuner)}
    {ops : List HeapOp} (hops : ∀ op ∈ ops, ¬op.Failed) :
    Ensures (DtvIo.createReply w cmd capacity fill (releaseTuners num tuners)) (s.withHeap ops) fun _ t =>
      Unfailed HeapOp.Failed s.heap t.heap := by
  refine (DtvIo.createReply_heap cmd capacity fill _ _).mono fun _ t ht => ?_
  have hheap : (s.withHeap ops).heap = ops ++ s.heap := rfl
  rw [ht, hheap]
  refine ((Unfailed.refl _ _).append hops).append fun op hop => ?_
  split at hop
  · exact releaseTuners_not_failed (List.mem_reverse.mp hop)
  · cases hop

/-- Get tuners does not return where an allocation failed. -/
theorem getTuners_unfailed (hw : w.IsInTree) (hfit : s.dtv.env.hal.Fits) (cmd : Pdu) :
    Ensures (DtvIo.getTuners w cmd) s fun _ t => Unfailed HeapOp.Failed s.heap t.heap := by
  by_cases hlisted : s.dtv.env.tunerIds = []
  · obtain ⟨tuners, frees, ok, ok', heq, hfrees⟩ := DtvIo.getTuners_empty hw hfit hlisted cmd
    intro status t hrun
    rw [heq] at hrun
    refine createReply_unfailed (fun op hop => ?_) status t hrun
    rcases List.mem_append.mp hop with hop | hop
    · obtain ⟨block, rfl⟩ := hfrees op hop
      exact id
    -- the sizes of the two arrays are zero
    · rcases List.mem_cons.mp hop with rfl | hop
      · exact fun hfailed => absurd hfailed.1 (Nat.lt_irrefl 0)
      · rw [List.mem_singleton.mp hop]
        exact fun hfailed => absurd hfailed.1 (Nat.lt_irrefl 0)
  · intro status t hrun
    by_cases halloc : Allocates w.lib s.dtv.env.heap (tunersAllocations w.platform s.dtv.env.tunerIds)
    case neg =>
      rw [DtvIo.getTuners_null hw hfit hlisted halloc] at hrun
      cases hrun
    rw [DtvIo.getTuners_listed hw hfit halloc] at hrun
    refine createReply_unfailed (fun op hop => ?_) status t hrun
    rcases List.mem_cons.mp hop with rfl | hop
    · exact id
    · exact allocated_not_failed hop

theorem dtvHandler_unfailed (hw : w.IsInTree) (hfit : s.dtv.env.hal.Fits) (cmd : Pdu) :
    Ensures (DtvIo.dtvHandler w cmd) s fun status t =>
      status = errorNone → Unfailed HeapOp.Failed s.heap t.heap := by
  by_cases hget : cmd.opcode = DtvIo.opcodeGetTuners
  · rw [DtvIo.dtvHandler_getTuners hget]
    exact (getTuners_unfailed hw hfit cmd).mono fun _ _ ht _ => ht
  by_cases hset : cmd.opcode = DtvIo.opcodeSetSource
  · rw [DtvIo.dtvHandler_setSource hset]
    refine (DtvIo.keepsHeap_setSource hw cmd s).mono fun _ t ht _ => ?_
    rw [ht]
    exact .refl _ _
  obtain ⟨code, ops, hrun, hcode, -⟩ := DtvIo.dtvHandler_fails hw hget hset s
  intro status t h hstatus
  cases hrun.symm.trans h
  exact absurd hstatus hcode

/-- Since `s`, an allocation failed. -/
def AllocationFailed (s t : Daemon) : Prop :=
  (∃ ops, t.heap = ops ++ s.heap ∧ ∃ op ∈ ops, op.Failed) ∨
    ∃ ops, t.pdus = ops ++ s.pdus ∧ ∃ op ∈ ops, op.Failed

theorem not_allocationFailed {t : Daemon} (hheap : Unfailed HeapOp.Failed s.heap t.heap)
    (hpdus : Unfailed PduOp.Failed s.pdus t.pdus) : ¬AllocationFailed s t := by
  rintro (⟨ops, hops, op, hop, hfailed⟩ | ⟨ops, hops, op, hop, hfailed⟩)
  · exact hheap.not_failed hops op hop hfailed
  · exact hpdus.not_failed hops op hop hfailed

/-- A service that returns zero had all its allocations. -/
theorem serve_reports (hw : w.IsInTree) (hreach : Daemon.Reachable w s) (hfit : s.dtv.env.hal.Fits) (cmd : Pdu) :
    Ensures (Io.serve w (.inTree w) (s.logged cmd) cmd) (s.logged cmd) fun status t =>
      AllocationFailed s t → status ≠ errorNone := by
  intro status t hrun hfailed hstatus
  have hpdus : Unfailed PduOp.Failed s.pdus t.pdus :=
    obtains_serve (s.logged cmd) cmd (s.logged cmd) (.refl _ _) status t hrun hstatus
  refine not_allocationFailed ?_ hpdus hfailed
  rcases serve_cases hreach cmd with ⟨-, heq⟩ | ⟨-, -, heq⟩ | ⟨-, -, heq⟩
  · rw [heq] at hrun
    have hheap : t.heap = s.heap := keepsHeap_registryHandler hw cmd (s.logged cmd) _ _ hrun
    rw [hheap]
    exact .refl _ _
  · rw [heq] at hrun
    exact dtvHandler_unfailed (s := s.logged cmd) hw hfit cmd status t hrun hstatus
  · rw [heq] at hrun
    cases hrun
    exact .refl _ _

end

/-! ### Stores through NULL -/

section

variable {w : World} {s : Daemon} {cmd : Pdu}

/-- There is memory for what is stored to untested: the records of the tuners with their
ids and strings, and the buffer of a Set source reply with descriptors. -/
structure Suffices (w : World) (s : Daemon) (cmd : Pdu) : Prop where
  getTuners : cmd.opcode = DtvIo.opcodeGetTuners → s.dtv.env.tunerIds ≠ [] →
    Allocates w.lib s.dtv.env.heap (tunersAllocations w.platform s.dtv.env.tunerIds)
  setSource : cmd.opcode = DtvIo.opcodeSetSource → ∀ deviceId handle, Names w cmd deviceId →
    Gives w.driver s.dtv.env.hal deviceId handle → handle.numFds ≠ 0 →
    w.lib.createPduWbuf s.pdus (handle.replySize w.platform) (handle.tailSize w.platform) = true

theorem getTuners_null_iff (hw : w.IsInTree) (hfit : s.dtv.env.hal.Fits) : DtvIo.getTuners w cmd s =
    .error .nullPointer ↔ ¬(s.dtv.env.tunerIds ≠ [] →
      Allocates w.lib s.dtv.env.heap (tunersAllocations w.platform s.dtv.env.tunerIds)) := by
  by_cases hlisted : s.dtv.env.tunerIds = []
  · obtain ⟨tuners, frees, ok, ok', heq, -⟩ := DtvIo.getTuners_empty hw hfit hlisted cmd
    rw [heq]
    exact iff_of_false (createTuners_safe (.inr rfl) _ _ _) (not_not.mpr fun hne => absurd hlisted hne)
  by_cases halloc : Allocates w.lib s.dtv.env.heap (tunersAllocations w.platform s.dtv.env.tunerIds)
  · rw [DtvIo.getTuners_listed hw hfit halloc]
    exact iff_of_false (createTuners_safe (.inl (Option.some_ne_none _)) _ _ _) (not_not.mpr fun _ => halloc)
  · rw [DtvIo.getTuners_null hw hfit hlisted halloc]
    exact iff_of_true rfl fun h => halloc (h hlisted)

theorem dtvHandler_null_iff (hw : w.IsInTree) (hfit : s.dtv.env.hal.Fits) (hdev : s.dtv.env.hal.device = true) :
    DtvIo.dtvHandler w cmd s = .error .nullPointer ↔ ¬Suffices w s cmd := by
  by_cases hget : cmd.opcode = DtvIo.opcodeGetTuners
  · have hset : cmd.opcode ≠ DtvIo.opcodeSetSource := by
      rw [hget]
      decide
    rw [DtvIo.dtvHandler_getTuners hget, getTuners_null_iff hw hfit]
    exact not_congr ⟨fun h => ⟨fun _ => h, fun hopcode => absurd hopcode hset⟩, fun h => h.getTuners hget⟩
  by_cases hset : cmd.opcode = DtvIo.opcodeSetSource
  · rw [DtvIo.dtvHandler_setSource hset, setSource_null_iff hw hfit hdev]
    constructor
    · rintro ⟨deviceId, handle, hnames, hgives, hfds, hcreate⟩ hsuffices
      have hmemory := hsuffices.setSource hset deviceId handle hnames hgives hfds
      cases hcreate.symm.trans hmemory
    · intro hnot
      by_contra hnone
      refine hnot ⟨fun hopcode => absurd hopcode hget, fun _ deviceId handle hnames hgives hfds => ?_⟩
      by_contra hcreate
      exact hnone ⟨deviceId, handle, hnames, hgives, hfds, Bool.eq_false_of_not_eq_true hcreate⟩
  obtain ⟨code, ops, hrun, -, -⟩ := DtvIo.dtvHandler_fails hw hget hset s
  rw [hrun]
  refine iff_of_false (fun h => by cases h) (not_not.mpr ?_)
  exact ⟨fun hopcode => absurd hopcode hget, fun hopcode => absurd hopcode hset⟩

end

section

variable {lib : Lib} {fdio : Fdio} {driver : Driver} {p : Platform} {runTask : List PduOp → Wbuf → Int32}

/-- No Registry command does. -/
theorem registryHandler_safe {s : Daemon} (hknown : s.dtv.env.hal.Known) (cmd : Pdu) :
    Registry.registryHandler (.inTree lib fdio driver p runTask) (.inTree (.inTree lib fdio driver p runTask)) cmd s
      ≠ .error .nullPointer := by
  let w := World.inTree lib fdio driver p runTask
  have hregister (cb : Option SendPdu) : AvoidsFrom (fun s : Daemon => s.dtv.env.hal.Known) .nullPointer
      (onDtv (DtvIo.registerDtv w cb)) := by
    intro t _ herror
    obtain ⟨r, hrun⟩ : ∃ r, DtvIo.registerDtv w cb t.dtv = .ok r := registerDtv_returns cb t.dtv
    cases herror.symm.trans (zoom_ok hrun)
  have hunregister : AvoidsFrom (fun s : Daemon => s.dtv.env.hal.Known) .nullPointer
      (onDtv (DtvIo.unregisterDtv w)) := by
    intro t ht herror
    obtain ⟨r, hrun⟩ : ∃ r, DtvIo.unregisterDtv w t.dtv = .ok r := unregisterDtv_returns ht
    cases herror.symm.trans (zoom_ok hrun)
  refine Registry.avoidsFrom_registryHandler (by decide) (fun m => .zoom fun _ hs _ _ _ => hs)
    (fun _ _ => preserves_modify fun _ hs => hs) hregister (fun cb => .zoom fun t _ handler dtv hrun => ?_)
    hunregister (.zoom fun t ht result dtv hrun => ?_) (fun wbuf => ?_) cmd s hknown
  · obtain ⟨r, hhal, -⟩ := registerDtv_hal hrun
    exact (tvInputHalInit_known hhal).1
  · obtain ⟨r, hhal⟩ := unregisterDtv_hal hrun
    exact known_uninit _ ht _ _ hhal
  · refine ((avoids_get _).bind fun t => ?_).from _
    cases t.gSendPdu with
    | none => exact avoids_throw (by decide)
    | some cb => exact avoids_call wbuf cb

end

/-! ### A command of a client -/

/-- The command is handled without a store through NULL. Where an allocation fails, its
service returns an error, and the client gets an error reply. -/
structure Survives (w : World) (s : Daemon) (cmd : Pdu) : Prop where
  safe : Io.handlePdu w (.inTree w) cmd s ≠ .error .nullPointer
  reported : Ensures (Io.serve w (.inTree w) (s.logged cmd) cmd) (s.logged cmd) fun status t =>
    AllocationFailed s t → status ≠ errorNone
  answered : ∀ status t, Io.serve w (.inTree w) (s.logged cmd) cmd (s.logged cmd) = .ok (status, t) →
    AllocationFailed s t → Ensures (Io.handlePdu w (.inTree w) cmd) s fun _ u => Rejected s cmd u

/-- An error of its service is answered by an error reply. -/
theorem rejected_of_serve {w : World} {services : Services} {s t : Daemon} {cmd : Pdu} {status : Int32}
    (hserve : Io.serve w services (s.logged cmd) cmd (s.logged cmd) = .ok (status, t)) (hstatus : status ≠ 0) :
    Ensures (Io.handlePdu w services cmd) s fun _ u => Rejected s cmd u := by
  refine (handlePdu_replies cmd s).mono ?_
  rintro _ u ⟨wbuf, status', t', hpass, hserve', -, -, hservice, hreply⟩
  cases hserve.symm.trans hserve'
  refine ⟨wbuf, (Daemon.logged_passes hpass).1, hservice, ?_⟩
  rcases hreply with ⟨hzero, -⟩ | ⟨_, -, -, hopcode, -⟩
  · exact absurd hzero hstatus
  · exact hopcode

section

variable {lib : Lib} {fdio : Fdio} {driver : Driver} {p : Platform} {runTask : List PduOp → Wbuf → Int32}
  {s : Daemon} {cmd : Pdu}

/-- In every reachable state of the in-tree daemon, whichever allocations fail, a command
survives that if and only if there is memory for what the DTV service, where it is
registered, stores to untested. -/
theorem survives_iff (hreach : Daemon.Reachable (.inTree lib fdio driver p runTask) s) :
    Survives (.inTree lib fdio driver p runTask) s cmd ↔
      (cmd.service = serviceDtv → s.gServiceHandler serviceDtv ≠ none →
        Suffices (.inTree lib fdio driver p runTask) s cmd) := by
  let w := World.inTree lib fdio driver p runTask
  have hw : w.IsInTree := rfl
  have hfit : (s.logged cmd).dtv.env.hal.Fits := hreach.halReady.fits
  have hreports : Ensures (Io.serve w (.inTree w) (s.logged cmd) cmd) (s.logged cmd) fun status t =>
      AllocationFailed s t → status ≠ errorNone := serve_reports hw hreach hfit cmd
  have hnull : Survives w s cmd ↔
      Io.serve w (.inTree w) (s.logged cmd) cmd (s.logged cmd) ≠ .error .nullPointer := by
    have hfails : Io.handlePdu w (.inTree w) cmd s = .error .nullPointer ↔
        Io.serve w (.inTree w) (s.logged cmd) cmd (s.logged cmd) = .error .nullPointer :=
      handlePdu_fails_iff (by decide) (by decide)
    refine ⟨fun h hserve => h.safe (hfails.mpr hserve), fun h => ⟨fun herror => h (hfails.mp herror), hreports, ?_⟩⟩
    exact fun status t hserve hfailed => rejected_of_serve hserve (hreports status t hserve hfailed)
  refine hnull.trans ?_
  rcases serve_cases hreach cmd with ⟨hservice, heq⟩ | ⟨hservice, hregistered, heq⟩ | ⟨-, hnone, heq⟩
  · have hknown : (s.logged cmd).dtv.env.hal.Known := hreach.known
    rw [heq]
    refine iff_of_true (registryHandler_safe hknown cmd) fun hdtv => ?_
    exact absurd (hservice.symm.trans hdtv) (by decide)
  · have hdev : (s.logged cmd).dtv.env.hal.device = true := hreach.halReady.device hregistered
    rw [heq, ne_eq, dtvHandler_null_iff hw hfit hdev, not_not]
    exact ⟨fun h _ _ => ⟨h.getTuners, h.setSource⟩, fun h => ⟨(h hservice hregistered).getTuners,
      (h hservice hregistered).setSource⟩⟩
  · rw [heq]
    exact iff_of_true (fun h => by cases h) fun hservice hregistered => absurd (hnone hservice) hregistered

end

/-! ### A reply and a string that cannot be allocated -/

/-- With tuner 1 listed, there is no buffer for the reply. -/
theorem survives_shortBuffers : Survives .shortBuffers (tunerListedIn .shortBuffers) getTunersPdu ∧
    AllocationFailed (tunerListedIn .shortBuffers)
      ((tunerListedIn .shortBuffers).served .shortBuffers getTunersPdu) := by
  constructor
  · refine (survives_iff shortBuffers_reachable).mpr fun _ _ => ⟨fun _ _ => ?_, fun hopcode => ?_⟩
    · decide +kernel
    · exact absurd hopcode (by decide)
  · exact .inr ⟨[.create 10 0 false], by decide +kernel, _, List.mem_singleton_self _, rfl⟩

/-- There is memory for the array of the tuners and for their ids, and no more. -/
def World.twoBlocks : World :=
  .inTree { Lib.reference with malloc := fun log _ => decide (log.length < 2) } .ready steadyDriver .lp64 fun _ _ => 0

/-- With tuner 1 listed, its id is printed to NULL. -/
theorem getTuners_dies : ¬∀ (lib : Lib) (fdio : Fdio) (driver : Driver) (p : Platform)
    (runTask : List PduOp → Wbuf → Int32) (s : Daemon) (cmd : Pdu),
    Daemon.Reachable (.inTree lib fdio driver p runTask) s →
    Survives (.inTree lib fdio driver p runTask) s cmd := by
  intro h
  have hreach : Daemon.Reachable .twoBlocks (tunerListedIn .twoBlocks) :=
    .ofInputs rfl tunerListed (by decide +kernel)
  exact (h _ _ _ _ _ _ getTunersPdu hreach).safe rfl

end Tvd

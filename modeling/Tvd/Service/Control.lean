import Tvd.Io.Queue
import Tvd.Service.Handlers

/-! The control part of the daemon: the TV HAL, the registration of the DTV
service and the table of handlers. Sending, notifying and replying leave it alone,
so an invariant of it only has to survive the DTV interface, the driver's events
and the two Registry commands. -/

namespace Tvd

open Exec

/-- What registration, the HAL and the interface behind it keep in memory. -/
structure Control where
  hal : TvHal
  vendor : List UInt8
  sendPdu : Option SendPdu
  dtvCallbacks : Bool
  gSendPdu : Option SendPdu
  gServiceHandler : UInt8 → Option Handler

def Daemon.control (s : Daemon) : Control :=
  ⟨s.dtv.env.hal, s.dtv.env.vendor, s.dtv.sendPdu, s.dtv.dtvCallbacks, s.gSendPdu,
    s.gServiceHandler⟩

variable {w : World} {α : Type}

theorem Daemon.gServiceHandler_of_control {s t : Daemon} (h : t.control = s.control) :
    t.gServiceHandler = s.gServiceHandler := congrArg Control.gServiceHandler h

/-! ### Code that leaves the control part alone -/

theorem keeps_onIo (m : IoM α) : Keeps Daemon.control (onIo m) := keeps_zoom (fun _ _ => rfl) m

theorem keeps_onPdus (m : PduM α) : Keeps Daemon.control (onPdus m) :=
  keeps_zoom (fun _ _ => rfl) m

theorem keeps_onHeap (m : HeapM α) : Keeps Daemon.control (onEnv (onHeap m)) := by
  intro s
  rw [ensures_zoom, ensures_zoom]
  intro a heap _
  rfl

theorem keeps_ioSendPdu (wbuf : Wbuf) : Keeps Daemon.control (Io.sendPdu w wbuf) :=
  (keeps_onIo _).bind fun _ => keeps_pure _ _

theorem keeps_call (wbuf : Wbuf) (cb : Option SendPdu) :
    Keeps Daemon.control (SendPdu.call w wbuf cb) := by
  cases cb with
  | none => exact keeps_throw _ _
  | some cb =>
    cases cb
    exact (keeps_onPdus _).bind fun _ => keeps_ioSendPdu wbuf

namespace DtvIo

theorem keeps_sendPdu (wbuf : Wbuf) : Keeps Daemon.control (sendPdu w wbuf) :=
  (keeps_get _).bind fun s => keeps_call wbuf s.dtv.sendPdu

theorem keeps_sendNtfPdu (wbuf : Wbuf) : Keeps Daemon.control (sendNtfPdu w wbuf) := by
  unfold sendNtfPdu
  refine (keeps_get _).bind fun s => .ite (keeps_pure _ _) ?_
  exact (keeps_sendPdu wbuf).bind fun _ => keeps_pure _ _

theorem keeps_notify (opcode : UInt8) (capacity : ℤ) (fill : Fill) :
    Keeps Daemon.control (notify w opcode capacity fill) := by
  unfold notify
  refine (keeps_onPdus _).bind fun wbuf => ?_
  cases wbuf with
  | none => exact keeps_pure _ _
  | some wbuf =>
    refine (keeps_onPdus _).bind fun filled => ?_
    cases filled with
    | none => exact keeps_onPdus _
    | some wbuf =>
      refine (keeps_get _).bind fun s => (keeps_onPdus _).bind fun _ => ?_
      exact .ite (keeps_onPdus _) (keeps_modify fun _ => rfl)

theorem keeps_channelUpdateNfyCb (chStatus : UInt8) (tunerId : Option CString) (sourceType : UInt8)
    (ch : Option TvChannel) :
    Keeps Daemon.control (channelUpdateNfyCb w chStatus tunerId sourceType ch) := by
  refine .ite ?_ (keeps_pure _ _)
  cases tunerId with
  | none => exact keeps_pure _ _
  | some tunerId => exact (keeps_lift _ _).bind fun _ => keeps_notify _ _ _

theorem keeps_scanEnded (opcode : UInt8) (tunerId : Option CString) (sourceType : UInt8) :
    Keeps Daemon.control (scanEnded w opcode tunerId sourceType) := by
  cases tunerId with
  | none => exact keeps_pure _ _
  | some tunerId => exact keeps_notify _ _ _

theorem keeps_scanStatusNfyCb (scanStatus : UInt8) (tunerId : Option CString) (sourceType : UInt8) :
    Keeps Daemon.control (scanStatusNfyCb w scanStatus tunerId sourceType) :=
  .ite (keeps_scanEnded _ _ _) (.ite (keeps_scanEnded _ _ _) (keeps_pure _ _))

theorem keeps_eventNfyCb (tunerId : Option CString) (sourceType : UInt8) (ch : Option TvChannel)
    (progNum : UInt32) (progs : Option (Records TvProgram)) :
    Keeps Daemon.control (eventNfyCb w tunerId sourceType ch progNum progs) := by
  cases tunerId with
  | none => exact keeps_pure _ _
  | some tunerId =>
    exact (keeps_lift _ _).bind fun _ => (keeps_lift _ _).bind fun _ => keeps_notify _ _ _

theorem keeps_reply (cmd : Pdu) (wbuf : Option Wbuf) (fill : Fill) (release : List HeapOp) :
    Keeps Daemon.control (reply w cmd wbuf fill release) := by
  cases wbuf with
  | none => exact keeps_pure _ _
  | some wbuf =>
    refine (keeps_onPdus _).bind fun filled => ?_
    cases filled with
    | none =>
      exact (keeps_onHeap _).bind fun _ => (keeps_onPdus _).bind fun _ => keeps_pure _ _
    | some wbuf =>
      exact (keeps_sendPdu wbuf).bind fun _ => (keeps_onHeap _).bind fun _ => keeps_pure _ _

theorem keeps_createReply (cmd : Pdu) (capacity : ℕ) (fill : Fill) (release : List HeapOp) :
    Keeps Daemon.control (createReply w cmd capacity fill release) :=
  (keeps_onPdus _).bind fun wbuf => keeps_reply cmd wbuf fill release

end DtvIo

theorem keeps_sendErrorReply (service error : UInt8) :
    Keeps Daemon.control (Io.sendErrorReply w service error) := by
  unfold Io.sendErrorReply
  refine (keeps_onPdus _).bind fun wbuf => ?_
  cases wbuf with
  | none => exact keeps_throw _ _
  | some wbuf =>
    refine (keeps_onPdus _).bind fun appended => (keeps_onIo _).bind fun res => ?_
    exact .ite (keeps_throw _ _) (keeps_pure _ _)

/-! ### Handlers -/

/-- The functions of the DTV interface that handlers call keep an invariant. -/
structure DtvApi.Preserves (api : DtvApi) (P : Daemon → Prop) : Prop where
  getTunerNum : Exec.Preserves P (onEnv api.dtvGetTunerNum)
  getTuners : ∀ n block, Exec.Preserves P (onEnv (api.dtvGetTuners n block))
  setSource : ∀ id type tvStream, Exec.Preserves P (onEnv (api.dtvSetSource id type tvStream))
  startScanning : ∀ id type, Exec.Preserves P (onEnv (api.dtvStartScanning id type))
  stopScanning : ∀ id type, Exec.Preserves P (onEnv (api.dtvStopScanning id type))
  clnScannedChannelCache : Exec.Preserves P (onEnv api.dtvClnScannedChannelCache)
  setChannel : ∀ id type num block, Exec.Preserves P (onEnv (api.dtvSetChannel id type num block))
  getChannelNum : ∀ id type, Exec.Preserves P (onEnv (api.dtvGetChannelNum id type))
  getChannels : ∀ id type n block, Exec.Preserves P (onEnv (api.dtvGetChannels id type n block))
  getProgNum : ∀ id type num start stop,
    Exec.Preserves P (onEnv (api.dtvGetProgNum id type num start stop))
  getPrograms : ∀ id type num start stop n block,
    Exec.Preserves P (onEnv (api.dtvGetPrograms id type num start stop n block))

/-- What all code behind the interface keeps. -/
theorem DtvApi.Preserves.of_onEnv {api : DtvApi} {P : Daemon → Prop}
    (h : ∀ {α : Type} (m : EnvM α), Exec.Preserves P (onEnv m)) : api.Preserves P :=
  ⟨h _, fun _ _ => h _, fun _ _ _ => h _, fun _ _ => h _, fun _ _ => h _, h _, fun _ _ _ _ => h _,
    fun _ _ => h _, fun _ _ _ _ => h _, fun _ _ _ _ _ => h _, fun _ _ _ _ _ _ _ => h _⟩

/-- The property depends on the control part only. -/
def OfControl (P : Daemon → Prop) : Prop := ∀ s t : Daemon, t.control = s.control → P s → P t

theorem DtvApi.Preserves.calls {api : DtvApi} {P : Daemon → Prop} (h : api.Preserves P) {m : EnvM α}
    (hm : api.Calls α m) : Exec.Preserves P (onEnv m) := by
  cases hm with
  | getTunerNum => exact h.getTunerNum
  | getTuners => exact h.getTuners _ _
  | setSource => exact h.setSource _ _ _
  | startScanning => exact h.startScanning _ _
  | stopScanning => exact h.stopScanning _ _
  | clnScannedChannelCache => exact h.clnScannedChannelCache
  | setChannel => exact h.setChannel _ _ _ _
  | getChannelNum => exact h.getChannelNum _ _
  | getChannels => exact h.getChannels _ _ _ _
  | getProgNum => exact h.getProgNum _ _ _ _ _
  | getPrograms => exact h.getPrograms _ _ _ _ _ _ _

/-- An invariant of the control part that the DTV interface keeps is one of every
DTV command. -/
theorem DtvIo.dtvHandler_preserves {P : Daemon → Prop} (hP : OfControl P) (hapi : w.dtv.Preserves P)
    (cmd : Pdu) : Preserves P (dtvHandler w cmd) := by
  have hrules : HandlerRules w cmd (Preserves P) :=
    { api := fun hm hf => (hapi.calls hm).bind hf
      heap := fun _ hf => ((keeps_onHeap _).preserves hP).bind hf
      size := fun _ hf => (preserves_lift _ _).bind hf
      code := fun _ => preserves_pure _ _
      indeterminate := preserves_throw _ _
      reply := fun _ _ _ => (keeps_createReply _ _ _ _).preserves hP
      sourceReply := fun _ =>
        ((keeps_onPdus _).preserves hP).bind fun _ => (keeps_reply _ _ _ _).preserves hP }
  exact hrules.dtvHandler

/-! ### Registry commands -/

/-- The daemon after a register callback: on success the handler is installed. -/
def Daemon.afterRegister (s : Daemon) (service : UInt8) (handler : Option Handler)
    (dtv : DtvService) : Daemon :=
  { s with
    dtv
    gServiceHandler := match handler with
      | none => s.gServiceHandler
      | some handler => Function.update s.gServiceHandler service (some handler) }

/-- The daemon after an unregister callback: unless the result is negative, the
handler is removed. -/
def Daemon.afterUnregister (s : Daemon) (service : UInt8) (result : Int32) (dtv : DtvService) :
    Daemon :=
  { s with
    dtv
    gServiceHandler := if result.toInt < 0 then s.gServiceHandler
      else Function.update s.gServiceHandler service none }

namespace Registry

variable {services : Services}

theorem keeps_sendPdu (wbuf : Wbuf) : Keeps Daemon.control (sendPdu w wbuf) :=
  (keeps_get _).bind fun s => keeps_call wbuf s.gSendPdu

/-- The reply of a Register command can be created, and the register callback of the
service returns. -/
def Registers (w : World) (services : Services) (s : Daemon) (service : UInt8)
    (handler : Option Handler) (dtv : DtvService) : Prop :=
  w.lib.createPduWbuf s.pdus 4 0 = true ∧
    ∃ register, services.register service = some register ∧
      register s.gSendPdu s.dtv = .ok (handler, dtv)

/-- The version can be appended to the reply of a Register command. -/
def Fills (w : World) (s : Daemon) (cmd : Pdu) : Prop :=
  ∃ payload, w.lib.appendToPdu (.create 4 0 true :: s.pdus) ⟨cmd.service, cmd.opcode, []⟩ [.I]
    [.int protocolVersion] = .ok payload

/-- The reply of an Unregister command can be created, and the unregister callback of
the service returns. -/
def Reports (w : World) (services : Services) (s : Daemon) (service : UInt8) (result : Int32)
    (dtv : DtvService) : Prop :=
  service ≠ serviceRegistry ∧ w.lib.createPduWbuf s.pdus 0 0 = true ∧
    ∃ unregister, services.unregister service = some unregister ∧
      unregister s.dtv = .ok (result, dtv)

/-- A Register command runs the register callback of a service that is free and
installs the handler that it gives, or leaves the control part alone. -/
theorem registerModule_spec {cmd : Pdu} {service : UInt8} {rest : Fmt.Values []}
    (hread : w.lib.readPduAt cmd [.C] = some (service, rest)) (s : Daemon) :
    Ensures (registerModule w services cmd) s fun status t =>
      (s.gServiceHandler service = none ∧ ∃ handler dtv,
        Registers w services s service handler dtv ∧
        t.control = (s.afterRegister service handler dtv).control ∧
        (status = 0 ↔ handler ≠ none ∧ Fills w s cmd)) ∨
      ((s.gServiceHandler service = none → ∀ handler dtv,
        ¬Registers w services s service handler dtv) ∧ status ≠ 0 ∧ t.control = s.control) := by
  unfold registerModule
  rw [hread]
  dsimp only
  rw [ensures_bind, ensures_get, ensures_ite]
  refine ⟨fun hbusy => ensures_pure.mpr (.inr ⟨?_, by decide, rfl⟩), fun hfree => ?_⟩
  · intro hfree
    rw [hfree] at hbusy
    cases hbusy
  have hfree : s.gServiceHandler service = none := by simpa using hfree
  cases hregister : services.register service with
  | none =>
    refine ensures_pure.mpr (.inr ⟨?_, by decide, rfl⟩)
    rintro - handler dtv ⟨-, register, hregister', -⟩
    rw [hregister] at hregister'
    cases hregister'
  | some register =>
  rw [ensures_bind, ensures_zoom]
  refine (createPduWbuf_ensures _ _ _ _).mono ?_
  rintro _ _ (⟨halloc, rfl, rfl⟩ | ⟨halloc, rfl, rfl⟩)
  · refine ensures_pure.mpr (.inr ⟨?_, by decide, rfl⟩)
    rintro - handler dtv ⟨halloc', -⟩
    exact absurd (halloc.symm.trans halloc') (by decide)
  dsimp only
  rw [ensures_bind, ensures_zoom]
  intro handler dtv hrun
  have hregisters : Registers w services s service handler dtv := ⟨halloc, register, hregister, hrun⟩
  cases handler with
  | none =>
    refine ensures_bind.mpr (ensures_modify.mpr (ensures_pure.mpr (.inl ⟨hfree, none, dtv, ?_⟩)))
    exact ⟨hregisters, rfl, iff_of_false (by decide) fun h => h.1 rfl⟩
  | some handler =>
    rw [ensures_bind]
    refine ensures_modify.mpr ?_
    rw [ensures_bind, ensures_zoom]
    refine (appendToPdu_ensures _ _ _ _).mono ?_
    rintro _ _ (⟨happend, rfl, rfl⟩ | ⟨payload, happend, rfl, rfl⟩)
    · refine ensures_bind.mpr (ensures_modify.mpr (ensures_pure.mpr (.inl ⟨hfree, some handler, dtv, ?_⟩)))
      refine ⟨hregisters, rfl, iff_of_false (by decide) ?_⟩
      rintro ⟨-, payload, hok⟩
      exact absurd (happend.symm.trans hok) (by simp)
    · rw [ensures_bind]
      refine (keeps_sendPdu _ _).mono fun _ t ht => ensures_pure.mpr (.inl ⟨hfree, some handler, dtv, ?_⟩)
      exact ⟨hregisters, ht, iff_of_true rfl ⟨Option.some_ne_none _, payload, happend⟩⟩

/-- An Unregister command runs the unregister callback of a service other than the
Registry and removes its handler unless the result is negative, or leaves the control
part alone. -/
theorem unregisterModule_spec {cmd : Pdu} {service : UInt8} {rest : Fmt.Values []}
    (hread : w.lib.readPduAt cmd [.C] = some (service, rest)) (s : Daemon) :
    Ensures (unregisterModule w services cmd) s fun status t =>
      (∃ result dtv, Reports w services s service result dtv ∧
        t.control = (s.afterUnregister service result dtv).control ∧
        (status = 0 ↔ 0 ≤ result.toInt)) ∨
      ((∀ result dtv, ¬Reports w services s service result dtv) ∧ status ≠ 0 ∧
        t.control = s.control) := by
  unfold unregisterModule
  rw [hread]
  dsimp only
  rw [ensures_bind, ensures_zoom]
  refine (createPduWbuf_ensures _ _ _ _).mono ?_
  rintro _ _ (⟨halloc, rfl, rfl⟩ | ⟨halloc, rfl, rfl⟩)
  · refine ensures_pure.mpr (.inr ⟨?_, by decide, rfl⟩)
    rintro result dtv ⟨-, halloc', -⟩
    exact absurd (halloc.symm.trans halloc') (by decide)
  dsimp only
  refine ensures_ite.mpr ⟨fun hservice => ?_, fun hservice => ?_⟩
  · refine ensures_bind.mpr (ensures_modify.mpr (ensures_pure.mpr (.inr ⟨?_, by decide, rfl⟩)))
    rintro result dtv ⟨hne, -⟩
    exact hne hservice
  cases hunregister : services.unregister service with
  | none =>
    refine ensures_bind.mpr (ensures_modify.mpr (ensures_pure.mpr (.inr ⟨?_, by decide, rfl⟩)))
    rintro result dtv ⟨-, -, unregister, hunregister', -⟩
    rw [hunregister] at hunregister'
    cases hunregister'
  | some unregister =>
  dsimp only
  rw [ensures_bind, ensures_zoom]
  intro result dtv hrun
  have hreports : Reports w services s service result dtv :=
    ⟨hservice, halloc, unregister, hunregister, hrun⟩
  refine ensures_ite.mpr ⟨fun hneg => ?_, fun hneg => ?_⟩
  · refine ensures_bind.mpr (ensures_modify.mpr (ensures_pure.mpr (.inl ⟨result, dtv, hreports, ?_⟩)))
    refine ⟨?_, iff_of_false (by decide) (by omega)⟩
    unfold Daemon.afterUnregister
    rw [if_pos hneg]
    rfl
  · rw [ensures_bind]
    refine ensures_modify.mpr ?_
    rw [ensures_bind]
    refine (keeps_sendPdu _ _).mono fun _ t ht => ensures_pure.mpr (.inl ⟨result, dtv, hreports, ?_⟩)
    refine ⟨ht.trans ?_, iff_of_true rfl (by omega)⟩
    unfold Daemon.afterUnregister
    rw [if_neg hneg]
    rfl

/-- A command that cannot be read changes nothing. -/
theorem registryHandler_unread {cmd : Pdu} (hread : w.lib.readPduAt cmd [.C] = none) (s : Daemon) :
    Ensures (registryHandler w services cmd) s fun status t => status ≠ 0 ∧ t = s := by
  refine registryHandler_rule (Q := fun p => Ensures p s fun status t => status ≠ 0 ∧ t = s) ?_ ?_ ?_
  · exact ensures_pure.mpr ⟨by decide, rfl⟩
  · unfold registerModule
    rw [hread]
    exact ensures_pure.mpr ⟨by decide, rfl⟩
  · unfold unregisterModule
    rw [hread]
    exact ensures_pure.mpr ⟨by decide, rfl⟩

end Registry

/-! ### Steps of the daemon -/

/-- An invariant of the control part that commands keep: the functions of the DTV
interface do, and the callbacks of the two Registry commands. -/
structure CommandInvariant (w : World) (P : Daemon → Prop) : Prop where
  ofControl : OfControl P
  api : w.dtv.Preserves P
  register : ∀ s handler dtv, P s → s.gServiceHandler serviceDtv = none →
    DtvIo.registerDtv w s.gSendPdu s.dtv = .ok (handler, dtv) →
    P (s.afterRegister serviceDtv handler dtv)
  unregister : ∀ s result dtv, P s → DtvIo.unregisterDtv w s.dtv = .ok (result, dtv) →
    P (s.afterUnregister serviceDtv result dtv)

namespace CommandInvariant

variable {P : Daemon → Prop} (h : CommandInvariant w P)

include h

theorem registryHandler (cmd : Pdu) : Preserves P (Registry.registryHandler w (.inTree w) cmd) := by
  intro s hs
  cases hread : w.lib.readPduAt cmd [.C] with
  | none =>
    refine (Registry.registryHandler_unread hread s).mono ?_
    rintro _ _ ⟨-, rfl⟩
    exact hs
  | some values =>
  by_cases hregister : cmd.opcode = Registry.opcodeRegisterModule
  · rw [Registry.registryHandler_register hregister]
    refine (Registry.registerModule_spec hread s).mono fun _ t ht => ?_
    rcases ht with ⟨hfree, handler, dtv, ⟨-, register, hservice, hrun⟩, ht, -⟩ | ⟨-, -, ht⟩
    · obtain ⟨heq, rfl⟩ := Services.dtvOnly_register hservice
      rw [heq] at hfree ht
      exact h.ofControl _ t ht (h.register s handler dtv hs hfree hrun)
    · exact h.ofControl s t ht hs
  by_cases hunregister : cmd.opcode = Registry.opcodeUnregisterModule
  · rw [Registry.registryHandler_unregister hunregister]
    refine (Registry.unregisterModule_spec hread s).mono fun _ t ht => ?_
    rcases ht with ⟨result, dtv, ⟨-, -, unregister, hservice, hrun⟩, ht, -⟩ | ⟨-, -, ht⟩
    · obtain ⟨heq, rfl⟩ := Services.dtvOnly_unregister hservice
      rw [heq] at ht
      exact h.ofControl _ t ht (h.unregister s result dtv hs hrun)
    · exact h.ofControl s t ht hs
  · rw [Registry.registryHandler_unsupported hregister hunregister]
    exact ensures_pure.mpr hs

theorem handlePdu (cmd : Pdu) : Preserves P (Io.handlePdu w (.inTree w) cmd) := by
  refine ((keeps_onIo _).preserves h.ofControl).bind fun _ => ?_
  refine (preserves_get _).bind fun s => .bind ?_ fun status => .ite ?_ (preserves_pure _ _)
  · exact Io.serve_rule (preserves_pure _ _) (h.registryHandler cmd)
      (DtvIo.dtvHandler_preserves h.ofControl h.api cmd) s
  · exact ((keeps_sendErrorReply _ _).preserves h.ofControl).bind fun _ => preserves_pure _ _

theorem fdIoIn (packet : Option (List UInt8)) : Preserves P (Io.fdIoIn w packet) := by
  have hio {β : Type} (m : IoM β) : Preserves P (onIo m) := (keeps_onIo m).preserves h.ofControl
  refine (ioStateIn_preserves (fun _ => hio _ _) (hio _) (fun _ _ => hio _) h.handlePdu packet).bind
    fun _ => ?_
  exact .ite (preserves_pure _ _) (preserves_pure _ _)

/-- Only events of the driver can break such an invariant. -/
theorem callback {input : Input} (hinput : ∀ event, input ≠ .halEvent event) :
    Preserves P (Daemon.callback w input) := by
  have hP := h.ofControl
  cases input with
  | halEvent event => exact absurd rfl (hinput event)
  | channelUpdate chStatus tunerId sourceType ch =>
    exact ((DtvIo.keeps_channelUpdateNfyCb _ _ _ _).preserves hP).bind fun _ => preserves_pure _ _
  | scanStatus scanStatus tunerId sourceType =>
    exact ((DtvIo.keeps_scanStatusNfyCb _ _ _).preserves hP).bind fun _ => preserves_pure _ _
  | eventNfy tunerId sourceType ch progNum progs =>
    exact ((DtvIo.keeps_eventNfyCb _ _ _ _ _).preserves hP).bind fun _ => preserves_pure _ _
  | task idx =>
    refine (preserves_get _).bind fun s => ?_
    cases s.tasks[idx]? with
    | none => exact preserves_pure _ _
    | some wbuf =>
      refine Preserves.bind (preserves_modify fun t ht => hP t _ ?_ ht) fun _ => ?_
      · rfl
      · exact (DtvIo.keeps_sendNtfPdu _).preserves hP
  | readable packet => exact h.fdIoIn packet
  | writable =>
    refine ((keeps_onIo _).preserves hP).bind fun _ => ?_
    exact .ite (preserves_pure _ _) (preserves_pure _ _)
  | err => exact ((keeps_onIo _).preserves hP).bind fun _ => preserves_pure _ _
  | hup => exact ((keeps_onIo _).preserves hP).bind fun _ => preserves_pure _ _

omit h in
theorem step_of_callback (hP : OfControl P) {input : Input} (h : Preserves P (Daemon.callback w input)) :
    Preserves P (Daemon.step w input) := by
  refine h.bind fun result => .ite ?_ (preserves_pure _ _)
  exact preserves_modify fun s hs => hP s _ rfl hs

theorem step {input : Input} (hinput : ∀ event, input ≠ .halEvent event) :
    Preserves P (Daemon.step w input) := step_of_callback h.ofControl (h.callback hinput)

end CommandInvariant

/-- An invariant of the control part: kept by the functions of the DTV interface,
by events of the driver, and by the callbacks of the two Registry commands. -/
structure ControlInvariant (w : World) (P : Daemon → Prop) : Prop where
  ofControl : OfControl P
  api : w.dtv.Preserves P
  event : ∀ event, Preserves P (onEnv (onHal (deviceInitNotify w.driver event)))
  register : ∀ s handler dtv, P s → s.gServiceHandler serviceDtv = none →
    DtvIo.registerDtv w s.gSendPdu s.dtv = .ok (handler, dtv) →
    P (s.afterRegister serviceDtv handler dtv)
  unregister : ∀ s result dtv, P s → DtvIo.unregisterDtv w s.dtv = .ok (result, dtv) →
    P (s.afterUnregister serviceDtv result dtv)

namespace ControlInvariant

variable {P : Daemon → Prop} (h : ControlInvariant w P)

include h

theorem command : CommandInvariant w P := ⟨h.ofControl, h.api, h.register, h.unregister⟩

theorem step (input : Input) : Preserves P (Daemon.step w input) := by
  cases input with
  | halEvent event =>
    exact CommandInvariant.step_of_callback h.ofControl ((h.event event).bind fun _ => preserves_pure _ _)
  | channelUpdate | scanStatus | eventNfy | task | readable | writable | err | hup =>
    exact h.command.step fun _ heq => by cases heq

/-- Such an invariant holds in every reachable state if it holds on connection. -/
theorem reachable {s : Daemon} (hconnected : ∀ s, Daemon.Connected w s → P s)
    (hs : Daemon.Reachable w s) : P s := by
  obtain ⟨s₀, hs₀, hreach⟩ := hs
  refine hreach.invariant ?_ (hconnected s₀ hs₀)
  rintro a input b ⟨-, -, hstep⟩ ha
  exact h.step input a ha _ _ hstep

end ControlInvariant

/-- What connecting leaves: a descriptor that is watched, and the Registry. -/
theorem Daemon.Connected.eq {s : Daemon} (h : Daemon.Connected w s) : ∃ fd rbuf result, 0 ≤ fd.toInt ∧
    w.lib.createPduRbuf pduMaxDataLength = some rbuf ∧ s = { Daemon.zero with
      io := ⟨fd, epollErr ||| epollIn, some rbuf, [],
        [.addFdEvents fd (epollErr ||| epollIn) result, .removeFd fd]⟩
      gSendPdu := some .sendPdu
      gServiceHandler :=
        Function.update Daemon.zero.gServiceHandler serviceRegistry (some .registryHandler) } := by
  obtain ⟨fd, hfd, hrun⟩ := h
  obtain ⟨connected, s₁, hsocket, hrest⟩ := bind_eq_ok.mp hrun
  split at hrest
  · cases hrest
  next hconnected =>
  obtain ⟨started, s₂, hmain, hrest⟩ := bind_eq_ok.mp hrest
  split at hrest
  · cases hrest
  next hstarted =>
  cases hrest
  obtain ⟨_, io, hopen, heq⟩ := zoom_eq_ok.mp hsocket
  cases heq
  obtain ⟨rbuf, hrbuf, rfl⟩ : ∃ rbuf, w.lib.createPduRbuf pduMaxDataLength = some rbuf ∧
      io = ⟨fd, epollErr ||| epollIn, some rbuf, [], [.removeFd fd]⟩ := by
    rcases connectedSocket_result hopen with rfl | rfl
    · exact absurd (by decide) hconnected
    · exact connectedSocket_ok hopen
  obtain ⟨ready, s₃, hinit, hmain⟩ := bind_eq_ok.mp hmain
  cases hinit
  rw [if_neg (by decide), get_bind_apply] at hmain
  obtain ⟨res, s₄, hadd, hmain⟩ := bind_eq_ok.mp hmain
  obtain ⟨_, io, hadd, heq⟩ := zoom_eq_ok.mp hadd
  cases hadd
  cases heq
  split at hmain
  · obtain ⟨_, s₅, -, hpure⟩ := bind_eq_ok.mp hmain
    cases hpure
    exact absurd (by decide) hstarted
  · cases hmain
    exact ⟨fd, rbuf, _, hfd, hrbuf, rfl⟩

/-- In the control part only the Registry is there. -/
theorem Daemon.Connected.control {s : Daemon} (h : Daemon.Connected w s) :
    s.control = { Daemon.zero.control with
      gSendPdu := some .sendPdu
      gServiceHandler :=
        Function.update Daemon.zero.control.gServiceHandler serviceRegistry (some .registryHandler) } := by
  obtain ⟨fd, rbuf, result, -, -, rfl⟩ := h.eq
  rfl

end Tvd

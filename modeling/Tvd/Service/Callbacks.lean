import Tvd.Service.Handles

/-! The callbacks that are installed while a connection is up: the handler of the
Registry and its send callback are there from the start and no command removes them,
and the DTV service has its send callback while its handler is there. So no command
calls a callback that is NULL. -/

namespace Tvd

open Exec

/-! ### The send callback -/

/-- The Registry can send, and so can the DTV service while it is registered. -/
structure Daemon.Wired (s : Daemon) : Prop where
  registry : s.gSendPdu = some .sendPdu
  dtv : s.gServiceHandler serviceDtv ≠ none → s.dtv.sendPdu = some .sendPdu

section

variable {w : World}

/-- A registration that succeeds stores the send callback. -/
theorem registerDtv_sendPdu {cb : Option SendPdu} {handler : Option Handler} {dtv dtv' : DtvService}
    (hrun : DtvIo.registerDtv w cb dtv = .ok (handler, dtv')) (hhandler : handler ≠ none) :
    dtv'.sendPdu = cb := by
  obtain ⟨_, t, hinit, hrest⟩ := bind_eq_ok.mp hrun
  split at hrest
  · obtain ⟨_, _, -, hpure⟩ := bind_eq_ok.mp hrest
    cases hpure
    exact absurd rfl hhandler
  rw [modify_bind_apply] at hrest
  obtain ⟨_, t', hdtv, hrest⟩ := bind_eq_ok.mp hrest
  split at hrest
  · obtain ⟨_, _, -, hpure⟩ := bind_eq_ok.mp hrest
    cases hpure
    exact absurd rfl hhandler
  · cases hrest
    rfl

/-- No failure of the unregistration is a negative result. -/
theorem unregisterDtv_nonneg {result : Int32} {dtv dtv' : DtvService}
    (hrun : DtvIo.unregisterDtv w dtv = .ok (result, dtv')) : ¬result.toInt < 0 := by
  obtain ⟨_, t, -, hrest⟩ := bind_eq_ok.mp hrun
  split at hrest
  · cases hrest
    decide
  obtain ⟨_, t', -, hrest⟩ := bind_eq_ok.mp hrest
  split at hrest
  · cases hrest
    decide
  · cases hrest
    decide

theorem wired_ofControl : OfControl Daemon.Wired := by
  intro s t hcontrol hs
  have hregistry : t.gSendPdu = s.gSendPdu := congrArg Control.gSendPdu hcontrol
  have htable : t.gServiceHandler = s.gServiceHandler := congrArg Control.gServiceHandler hcontrol
  have hsend : t.dtv.sendPdu = s.dtv.sendPdu := congrArg Control.sendPdu hcontrol
  exact ⟨hregistry.trans hs.registry, fun hne => hsend.trans (hs.dtv (htable ▸ hne))⟩

/-- Nothing behind the DTV interface touches the callbacks. -/
theorem wired_onEnv {α : Type} (m : EnvM α) : Preserves Daemon.Wired (onEnv m) :=
  .zoom fun _ hs _ _ _ => ⟨hs.registry, hs.dtv⟩

theorem wired_invariant : ControlInvariant w Daemon.Wired where
  ofControl := wired_ofControl
  api := .of_onEnv wired_onEnv
  event _ := wired_onEnv _
  register s handler dtv hs hfree hrun := by
    refine ⟨hs.registry, fun hregistered => ?_⟩
    cases handler with
    | none => exact absurd hfree hregistered
    | some handler => exact (registerDtv_sendPdu hrun (Option.some_ne_none _)).trans hs.registry
  unregister s result dtv hs hrun := by
    refine ⟨hs.registry, fun hregistered => ?_⟩
    unfold Daemon.afterUnregister at hregistered
    dsimp only at hregistered
    rw [if_neg (unregisterDtv_nonneg hrun), Function.update_self] at hregistered
    exact absurd rfl hregistered

theorem Daemon.Reachable.wired {s : Daemon} (h : Daemon.Reachable w s) : s.Wired := by
  refine wired_invariant.reachable (fun s hs => ?_) h
  have hcontrol := hs.control
  have hregistry : s.gSendPdu = some .sendPdu := congrArg Control.gSendPdu hcontrol
  have htable : s.gServiceHandler serviceDtv = none :=
    congrFun (congrArg Control.gServiceHandler hcontrol) serviceDtv
  exact ⟨hregistry, fun hregistered => absurd htable hregistered⟩

/-- A registration stores the handler of the DTV service. -/
theorem registerDtv_handler {cb : Option SendPdu} {handler : Handler} {dtv dtv' : DtvService}
    (hrun : DtvIo.registerDtv w cb dtv = .ok (some handler, dtv')) : handler = .dtvHandler := by
  obtain ⟨_, t, -, hrest⟩ := bind_eq_ok.mp hrun
  split at hrest
  · obtain ⟨_, _, -, hpure⟩ := bind_eq_ok.mp hrest
    cases hpure
  rw [modify_bind_apply] at hrest
  obtain ⟨_, t', -, hrest⟩ := bind_eq_ok.mp hrest
  split at hrest
  · obtain ⟨_, _, -, hpure⟩ := bind_eq_ok.mp hrest
    cases hpure
  · cases hrest
    rfl

theorem entry_invariant : ControlInvariant w fun s =>
    s.gServiceHandler serviceDtv ≠ some .registryHandler where
  ofControl s t hcontrol hs := by
    dsimp only at hs ⊢
    rwa [Daemon.gServiceHandler_of_control hcontrol]
  api := .of_onEnv fun _ => .zoom fun _ hs _ _ _ => hs
  event _ := .zoom fun _ hs _ _ _ => hs
  register s handler dtv hs _ hrun := by
    cases handler with
    | none => exact hs
    | some handler =>
      cases registerDtv_handler hrun
      unfold Daemon.afterRegister
      dsimp only
      rw [Function.update_self]
      decide
  unregister s result dtv hs _ := by
    unfold Daemon.afterUnregister
    dsimp only
    split
    · exact hs
    · rw [Function.update_self]
      exact fun h => by cases h

/-- While the DTV service is registered, the handler is its own. -/
theorem Daemon.Reachable.dtvHandler {s : Daemon} (h : Daemon.Reachable w s)
    (hregistered : s.gServiceHandler serviceDtv ≠ none) :
    s.gServiceHandler serviceDtv = some .dtvHandler := by
  have hentry : s.gServiceHandler serviceDtv ≠ some .registryHandler := by
    refine entry_invariant.reachable (fun s hs hregistry => ?_) h
    have htable : s.gServiceHandler serviceDtv = none :=
      congrFun (congrArg Control.gServiceHandler hs.control) serviceDtv
    cases htable.symm.trans hregistry
  obtain ⟨handler, hhandler⟩ := Option.ne_none_iff_exists'.mp hregistered
  cases handler with
  | registryHandler => exact absurd hhandler hentry
  | dtvHandler => exact hhandler

/-- The Registry has its handler, and besides it only the DTV service can have one. -/
structure Daemon.Installed (s : Daemon) : Prop where
  registry : s.gServiceHandler serviceRegistry = some .registryHandler
  others : ∀ service, service ≠ serviceRegistry → service ≠ serviceDtv →
    s.gServiceHandler service = none

theorem installed_ofControl : OfControl Daemon.Installed := by
  intro s t hcontrol hs
  have htable : t.gServiceHandler = s.gServiceHandler := congrArg Control.gServiceHandler hcontrol
  exact ⟨htable ▸ hs.registry, htable ▸ hs.others⟩

/-- The entry of the DTV service may change. -/
theorem Daemon.Installed.update {s : Daemon} (hs : s.Installed) (handler : Option Handler)
    (dtv : DtvService) : Daemon.Installed { s with
      dtv, gServiceHandler := Function.update s.gServiceHandler serviceDtv handler } := by
  refine ⟨?_, fun service hregistry hdtv => ?_⟩
  · dsimp only
    rw [Function.update_of_ne (by decide), hs.registry]
  · dsimp only
    rw [Function.update_of_ne hdtv, hs.others service hregistry hdtv]

/-- No command replaces or removes the handler of the Registry. -/
theorem installed_invariant : ControlInvariant w Daemon.Installed where
  ofControl := installed_ofControl
  api := .of_onEnv fun _ => .zoom fun _ hs _ _ _ => ⟨hs.registry, hs.others⟩
  event _ := .zoom fun _ hs _ _ _ => ⟨hs.registry, hs.others⟩
  register s handler dtv hs _ _ := by
    cases handler with
    | none => exact ⟨hs.registry, hs.others⟩
    | some handler => exact hs.update _ _
  unregister s result dtv hs _ := by
    unfold Daemon.afterUnregister
    split
    · exact ⟨hs.registry, hs.others⟩
    · exact hs.update _ _

theorem Daemon.Reachable.installed {s : Daemon} (h : Daemon.Reachable w s) : s.Installed := by
  refine installed_invariant.reachable (fun s hs => ?_) h
  have htable := congrArg Control.gServiceHandler hs.control
  refine ⟨congrFun htable serviceRegistry, fun service hregistry _ => ?_⟩
  have hentry : s.gServiceHandler service = _ := congrFun htable service
  rw [hentry]
  exact Function.update_of_ne hregistry _ _

end

/-! ### Calls through a NULL callback -/

theorem nullCallback_rules : HalRules fun _ (m : HalM _) => Avoids .nullCallback m where
  toClosed := avoids_closed _
  get := avoids_get _
  callDevice call := by
    refine (avoids_get _).bind fun s => .ite ?_ (avoids_throw (by decide))
    exact Avoids.bind (avoids_modify _ _) fun _ => avoids_pure _ _
  getDevice idx := by
    refine (avoids_get _).bind fun s => ?_
    split
    · exact avoids_pure _ _
    · exact avoids_throw (by decide)
  setDevice idx info := by
    unfold setDevice
    split
    · exact avoids_modify _ _
    · exact avoids_throw (by decide)
  store devices idx v := by
    refine avoids_lift ?_
    unfold IntArray.store
    split
    · exact Plain.error (by decide)
    · split
      · exact Plain.ok _
      · exact Plain.error (by decide)

theorem avoids_tvInputHalInit {driver : Driver} : Avoids .nullCallback (tvInputHalInit driver) := by
  refine Avoids.bind (avoids_modify _ _) fun _ => (avoids_get _).bind fun s => ?_
  refine Avoids.bind (avoids_modify _ _) fun _ => .ite (avoids_pure _ _) ?_
  refine (avoids_get _).bind fun s => Avoids.bind (avoids_modify _ _) fun _ => .ite (avoids_pure _ _) ?_
  refine (nullCallback_rules.callDevice _).bind fun _ => .ite (avoids_pure _ _) (avoids_pure _ _)

/-- The functions of the DTV interface call nothing through a NULL pointer. -/
structure DtvApi.CallsSafely (api : DtvApi) : Prop where
  calls : ∀ {α : Type} {m : EnvM α}, api.Calls α m → Avoids .nullCallback m
  init : Avoids .nullCallback api.dtvInit
  uninit : Avoids .nullCallback api.dtvUninit

theorem avoids_dtvGetTuners {lib : Lib} {p : Platform} (n : UInt32) (tuners : Option ℕ) :
    Avoids .nullCallback (dtvGetTuners lib p n tuners) := by
  have hload (ids : IntArray) (idx : ℕ) : Avoids .nullCallback (ids.load lib idx) := by
    refine (avoids_get _).bind fun log => ?_
    split
    · exact avoids_throw (by decide)
    · split
      · exact avoids_throw (by decide)
      · exact avoids_pure _ _
      · exact avoids_pure _ _
  have hfree (block : Option ℕ) : Avoids .nullCallback (onHeap (free block)) :=
    (avoids_heapOps _ _).zoom
  refine (avoids_malloc _ _ _).zoom.bind fun block => ?_
  refine (nullCallback_rules.getInputs _ _ _).zoom.bind fun found => ?_
  refine .ite ((hfree _).bind fun _ => avoids_pure _ _) ?_
  refine ((avoids_closed _).accumulate (fun idx items => ?_) _ _ _).bind fun _ =>
    (hfree _).bind fun _ => avoids_pure _ _
  refine (hload _ _).zoom.bind fun id => (avoids_malloc _ _ _).zoom.bind fun str => ?_
  exact .ite ((avoids_throw (by decide)).bind fun _ => avoids_pure _ _) (avoids_pure _ _)

theorem inTree_callsSafely {lib : Lib} {driver : Driver} {p : Platform} :
    (DtvApi.inTree lib driver p).CallsSafely where
  calls h := by
    cases h with
    | getTunerNum => exact (nullCallback_rules.getInputNum _).zoom
    | getTuners => exact avoids_dtvGetTuners _ _
    | setSource => exact (nullCallback_rules.getStream _ _).zoom
    | startScanning | stopScanning | clnScannedChannelCache | setChannel | getChannelNum | getChannels
    | getProgNum | getPrograms => exact avoids_pure _ _
  init := avoids_pure _ _
  uninit := avoids_pure _ _

section

variable {w : World}

namespace DtvIo

/-- The DTV service can send. -/
def Sends (s : Daemon) : Prop := s.dtv.sendPdu = some .sendPdu

theorem sends_onPdus {α : Type} (m : PduM α) : Preserves Sends (onPdus m) := .zoom fun _ hs _ _ _ => hs

theorem sends_onEnv {α : Type} (m : EnvM α) : Preserves Sends (onEnv m) := .zoom fun _ hs _ _ _ => hs

theorem avoids_sendPdu (wbuf : Wbuf) : AvoidsFrom Sends .nullCallback (sendPdu w wbuf) := by
  intro s hs
  have hs : s.dtv.sendPdu = some .sendPdu := hs
  rw [sendPdu, get_bind_apply, hs]
  exact avoids_call wbuf .sendPdu s

theorem avoids_reply (cmd : Pdu) {fill : Fill} (hfill : Proper fill) (wbuf : Option Wbuf)
    (release : List HeapOp) : AvoidsFrom Sends .nullCallback (reply w cmd wbuf fill release) := by
  have hrelease : Avoids Fault.nullCallback (onEnv (onHeap (heapOps release))) :=
    (avoids_heapOps _ _).zoom.zoom
  cases wbuf with
  | none => exact (avoids_pure _ _).from _
  | some wbuf =>
    refine ((hfill.callback _).zoom.from _).bind (sends_onPdus _) fun filled => ?_
    cases filled with
    | none =>
      exact (hrelease.bind fun _ => Avoids.bind (avoids_modify _ _).zoom fun _ => avoids_pure _ _).from _
    | some wbuf =>
      exact (avoids_sendPdu wbuf).bind (fun _ _ _ _ _ => trivial) fun _ =>
        (hrelease.bind fun _ => avoids_pure _ _).from _

theorem avoids_dtvHandler (hapi : w.dtv.CallsSafely) (cmd : Pdu) :
    AvoidsFrom Sends .nullCallback (dtvHandler w cmd) := by
  have hrules : HandlerRules w cmd (AvoidsFrom Sends .nullCallback) :=
    { api := fun hm hf => ((hapi.calls hm).zoom.from _).bind (sends_onEnv _) hf
      heap := fun hm hf => (hm.zoom.zoom.from _).bind (sends_onEnv _) hf
      size := fun hr hf => ((avoids_lift hr).from _).bind (preserves_lift _ _) hf
      code := fun _ => (avoids_pure _ _).from _
      indeterminate := (avoids_throw (by decide)).from _
      reply := fun _ _ hfill => ((avoids_createPduWbuf _ _ _ _ _).zoom.from _).bind (sends_onPdus _)
        fun wbuf => avoids_reply cmd hfill wbuf _
      sourceReply := fun handle =>
        ((avoids_createSourceWbuf (by decide) (by decide) handle).zoom.from _).bind (sends_onPdus _)
          fun wbuf => avoids_reply cmd (proper_fillSource _) wbuf _ }
  exact hrules.dtvHandler

theorem avoids_registerDtv (hapi : w.dtv.CallsSafely) (cb : Option SendPdu) :
    Avoids .nullCallback (registerDtv w cb) := by
  refine (avoids_tvInputHalInit.zoom).zoom.bind fun ret => .ite ?_ ?_
  · exact (nullCallback_rules.uninit.zoom).zoom.bind fun _ => avoids_pure _ _
  · refine Avoids.bind (avoids_modify _ _) fun _ => hapi.init.zoom.bind fun ret => .ite ?_ ?_
    · exact hapi.uninit.zoom.bind fun _ => avoids_pure _ _
    · exact Avoids.bind (avoids_modify _ _) fun _ => avoids_pure _ _

theorem avoids_unregisterDtv (hapi : w.dtv.CallsSafely) : Avoids .nullCallback (unregisterDtv w) := by
  refine (nullCallback_rules.uninit.zoom).zoom.bind fun ret => .ite (avoids_pure _ _) ?_
  refine hapi.uninit.zoom.bind fun ret => .ite (avoids_pure _ _) ?_
  exact Avoids.bind (avoids_modify _ _) fun _ => avoids_pure _ _

end DtvIo

namespace Registry

/-- The Registry can send. -/
def Sends (s : Daemon) : Prop := s.gSendPdu = some .sendPdu

theorem avoids_sendPdu (wbuf : Wbuf) : AvoidsFrom Sends .nullCallback (sendPdu w wbuf) := by
  intro s hs
  have hs : s.gSendPdu = some .sendPdu := hs
  rw [sendPdu, get_bind_apply, hs]
  exact avoids_call wbuf .sendPdu s

theorem sends_onPdus {α : Type} (m : PduM α) : Preserves Sends (onPdus m) := .zoom fun _ hs _ _ _ => hs

theorem sends_onDtv {α : Type} (m : DtvM α) : Preserves Sends (onDtv m) := .zoom fun _ hs _ _ _ => hs

theorem sends_setServiceHandler (service : UInt8) (handler : Option Handler) :
    Preserves Sends (setServiceHandler service handler) := preserves_modify fun _ hs => hs

/-- The Registry avoids a fault that the callbacks and the send callback avoid, from
states that all its parts keep. -/
theorem avoidsFrom_registryHandler {P : Daemon → Prop} {e : Fault} (hargs : .badArguments ≠ e)
    (hpdus : ∀ {α : Type} (m : PduM α), Preserves P (onPdus m))
    (htable : ∀ service handler, Preserves P (setServiceHandler service handler))
    (hregister : ∀ cb, AvoidsFrom P e (onDtv (DtvIo.registerDtv w cb)))
    (hregistered : ∀ cb, Preserves P (onDtv (DtvIo.registerDtv w cb)))
    (hunregister : AvoidsFrom P e (onDtv (DtvIo.unregisterDtv w)))
    (hunregistered : Preserves P (onDtv (DtvIo.unregisterDtv w)))
    (hsend : ∀ wbuf, AvoidsFrom P e (sendPdu w wbuf)) (cmd : Pdu) :
    AvoidsFrom P e (registryHandler w (.inTree w) cmd) := by
  have hrules : RegistryRules w (.inTree w) (AvoidsFrom P e) :=
    { code := fun _ => (avoids_pure _ _).from _
      get := fun hf => ((avoids_get _).from _).bind (preserves_get _) hf
      create := fun capacity hnone hf => ((avoids_createPduWbuf _ _ _ _ _).zoom.from _).bind (hpdus _)
        (forall_created hnone ((avoids_pure _ _).from _) hf)
      destroyed := fun wbuf _ => (Avoids.bind (avoids_modify _ _).zoom fun _ => avoids_pure _ _).from _
      register := fun cb hservice hf => by
        obtain ⟨-, rfl⟩ := Services.dtvOnly_register hservice
        exact (hregister cb).bind (hregistered cb) hf
      unregister := fun hservice hf => by
        obtain ⟨-, rfl⟩ := Services.dtvOnly_unregister hservice
        exact hunregister.bind hunregistered hf
      setHandler := fun _ _ hf => ((avoids_modify _ _).from _).bind (htable _ _) fun _ => hf
      append := fun wbuf fmt args hf =>
        ((avoids_appendToPdu hargs _ wbuf fmt args).zoom.from _).bind (hpdus _) hf
      send := fun wbuf => (hsend wbuf).bind (fun _ _ _ _ _ => trivial) fun _ => (avoids_pure _ _).from _ }
  exact hrules.registryHandler cmd

theorem avoids_registryHandler (hapi : w.dtv.CallsSafely) (cmd : Pdu) :
    AvoidsFrom Sends .nullCallback (registryHandler w (.inTree w) cmd) :=
  avoidsFrom_registryHandler (by decide) sends_onPdus sends_setServiceHandler
    (fun cb => (DtvIo.avoids_registerDtv hapi cb).zoom.from _) (fun _ => sends_onDtv _)
    ((DtvIo.avoids_unregisterDtv hapi).zoom.from _) (sends_onDtv _) avoids_sendPdu cmd

end Registry

theorem avoids_sendErrorReply {e : Fault} (habort : .abort ≠ e) (hargs : .badArguments ≠ e)
    (service error : UInt8) : Avoids e (Io.sendErrorReply w service error) := by
  unfold Io.sendErrorReply
  refine (avoids_createPduWbuf _ _ _ _ _).zoom.bind fun wbuf => ?_
  cases wbuf with
  | none => exact avoids_throw habort
  | some wbuf =>
    refine (avoids_appendToPdu hargs _ _ _ _).zoom.bind fun appended => ?_
    refine (avoids_ioStateSend _ _).zoom.bind fun res => ?_
    exact .ite (avoids_throw habort) (avoids_pure _ _)

/-- A command fails where serving it does: an error reply adds no other fault. -/
theorem handlePdu_fails_iff {e : Fault} (habort : .abort ≠ e) (hargs : .badArguments ≠ e) {services : Services}
    {cmd : Pdu} {s : Daemon} : Io.handlePdu w services cmd s = .error e ↔
      Io.serve w services (s.logged cmd) cmd (s.logged cmd) = .error e := by
  rw [Io.handlePdu_eq]
  cases hserve : Io.serve w services (s.logged cmd) cmd (s.logged cmd) with
  | error e => rw [bind_error hserve]
  | ok r =>
    have hreply : Avoids e (do
        if r.1 ≠ 0 then Io.sendErrorReply w cmd.service r.1.toUInt32.toUInt8
        return (0 : Int32)) :=
      .ite ((avoids_sendErrorReply habort hargs _ _).bind fun _ => avoids_pure _ _) (avoids_pure _ _)
    rw [bind_ok hserve]
    exact iff_of_false (hreply r.2) fun h => by cases h

/-- Where the callbacks are wired, no command calls a NULL one. -/
theorem handlePdu_ne_nullCallback (hapi : w.dtv.CallsSafely) {s : Daemon} (hs : s.Wired)
    (hinstalled : s.Installed) (cmd : Pdu) :
    Io.handlePdu w (.inTree w) cmd s ≠ .error .nullCallback := by
  rw [ne_eq, handlePdu_fails_iff (by decide) (by decide)]
  cases htable : (s.logged cmd).gServiceHandler cmd.service with
  | none =>
    rw [Io.serve_none htable]
    exact avoids_pure _ _ _
  | some handler =>
    cases handler with
    | registryHandler =>
      have hsends : Registry.Sends (s.logged cmd) := hs.registry
      rw [Io.serve_registry htable]
      exact Registry.avoids_registryHandler hapi cmd _ hsends
    | dtvHandler =>
      have htable' : s.gServiceHandler cmd.service = some .dtvHandler := htable
      have hservice : cmd.service = serviceDtv := by
        by_contra hne
        by_cases hreg : cmd.service = serviceRegistry
        · rw [hreg, hinstalled.registry] at htable'
          cases htable'
        · rw [hinstalled.others _ hreg hne] at htable'
          cases htable'
      have hregistered : s.gServiceHandler serviceDtv ≠ none := by
        rw [← hservice, htable']
        exact Option.some_ne_none _
      have hsends : DtvIo.Sends (s.logged cmd) := hs.dtv hregistered
      rw [Io.serve_dtv htable]
      exact DtvIo.avoids_dtvHandler hapi cmd _ hsends

/-- In every reachable state the Registry has its handler and its send callback, the
DTV service has its send callback while it has a handler, and no command calls a
send callback that is NULL. -/
theorem callbacks_installed (hapi : w.dtv.CallsSafely) {s : Daemon} (hreach : Daemon.Reachable w s) :
    s.gServiceHandler serviceRegistry = some .registryHandler ∧ s.gSendPdu ≠ none ∧
      (s.gServiceHandler serviceDtv ≠ none → s.dtv.sendPdu ≠ none) ∧
      ∀ cmd, Io.handlePdu w (.inTree w) cmd s ≠ .error .nullCallback := by
  have hwired := hreach.wired
  refine ⟨hreach.installed.registry, ?_, fun hregistered => ?_,
    handlePdu_ne_nullCallback hapi hwired hreach.installed⟩
  · rw [hwired.registry]
    exact Option.some_ne_none _
  · rw [hwired.dtv hregistered]
    exact Option.some_ne_none _

theorem callbacks_installed_tunerAvailable : (tunerAvailable steadyDriver).gSendPdu ≠ none ∧
    (tunerAvailable steadyDriver).dtv.sendPdu ≠ none := by
  obtain ⟨-, hregistry, hdtv, -⟩ := callbacks_installed inTree_callsSafely tunerAvailable_reachable
  exact ⟨hregistry, hdtv tunerAvailable_registered⟩

end

end Tvd

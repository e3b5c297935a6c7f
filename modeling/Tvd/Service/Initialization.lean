import Tvd.Service.Callbacks
import Tvd.Service.Registrations

/-! Registering the DTV service. The HAL takes four steps to come up: `hw_get_module`,
the module's `open`, the device's `initialize`, and the vendor's `dtv_init`. A failure of
any of them but `initialize` undoes the registration: `tv_input_hal_init` tests the result
of `open` a second time instead. -/

namespace Tvd

open Exec

/-! ### The steps -/

/-- `hw_get_module` and `open` give a device. -/
def Driver.Opens (driver : Driver) (calls : List HalCall) : Prop :=
  driver.hwGetModule calls = 0 ∧ driver.openModule (.hwGetModule 0 :: calls) = 0

/-- The calls once they did. -/
def openedCalls (calls : List HalCall) : List HalCall := .openModule 0 :: .hwGetModule 0 :: calls

/-- `initialize` returns zero. -/
def Driver.Initializes (driver : Driver) (calls : List HalCall) : Prop :=
  driver.initializeDevice (openedCalls calls) = 0

/-- The HAL with an open device, whatever `initialize` returned. -/
def TvHal.loaded (s : TvHal) (driver : Driver) : TvHal :=
  { s with
    module := true
    device := true
    deviceNum := 0
    calls := .initializeDevice (driver.initializeDevice (openedCalls s.calls)) :: openedCalls s.calls }

/-- `dtv_init`, called with an open device, succeeds. -/
def World.StartsVendor (w : World) (env : DtvEnv) : Prop :=
  ∃ env', w.dtv.dtvInit { env with hal := env.hal.loaded w.driver } = .ok (tvStatusSuccess, env')

/-- All four steps of a registration succeed. -/
structure World.Initializes (w : World) (env : DtvEnv) : Prop where
  opens : w.driver.Opens env.hal.calls
  initializes : w.driver.Initializes env.hal.calls
  startsVendor : w.StartsVendor env

theorem tvInputHalInit_opens {driver : Driver} {s : TvHal} (h : driver.Opens s.calls) :
    tvInputHalInit driver s = .ok (tvStatusSuccess, s.loaded driver) := by
  obtain ⟨hmodule, hopen⟩ := h
  unfold tvInputHalInit
  simp only [modify_bind_apply, get_bind_apply, hmodule, hopen, ne_eq, not_true_eq_false, if_false]
  rfl

theorem tvInputHalInit_fails {driver : Driver} {s : TvHal} (h : ¬driver.Opens s.calls) :
    ∃ t, tvInputHalInit driver s = .ok (tvStatusFail, t) := by
  unfold tvInputHalInit
  simp only [modify_bind_apply, get_bind_apply]
  by_cases hmodule : driver.hwGetModule s.calls = 0
  · have hopen : driver.openModule (.hwGetModule 0 :: s.calls) ≠ 0 := fun hopen => h ⟨hmodule, hopen⟩
    simp only [hmodule, ne_eq, not_true_eq_false, if_false, modify_bind_apply, get_bind_apply,
      if_pos hopen]
    exact ⟨_, rfl⟩
  · rw [if_pos hmodule]
    exact ⟨_, rfl⟩

/-! ### The registration -/

section

variable {w : World} {dtv dtv' : DtvService} {cb : Option SendPdu} {handler : Option Handler}

theorem inEnv_tvInputHalInit {r : UInt8} {hal : TvHal}
    (h : tvInputHalInit w.driver dtv.env.hal = .ok (r, hal)) :
    DtvIo.inEnv (onHal (tvInputHalInit w.driver)) dtv =
      .ok (r, { dtv with env := { dtv.env with hal } }) := zoom_ok (zoom_ok h)

/-- With an open device and a vendor that starts, the service is registered. -/
theorem registerDtv_opens (hopens : w.driver.Opens dtv.env.hal.calls) (hvendor : w.StartsVendor dtv.env) :
    ∃ dtv', DtvIo.registerDtv w cb dtv = .ok (some .dtvHandler, dtv') := by
  obtain ⟨env', hinit⟩ := hvendor
  have hhal := inEnv_tvInputHalInit (tvInputHalInit_opens hopens)
  have hdtv : DtvIo.inEnv w.dtv.dtvInit
      { dtv with env := { dtv.env with hal := dtv.env.hal.loaded w.driver }, dtvCallbacks := true } =
      .ok (tvStatusSuccess, { dtv with env := env', dtvCallbacks := true }) := zoom_ok hinit
  rw [DtvIo.registerDtv, bind_ok hhal, if_neg (by decide), modify_bind_apply, bind_ok hdtv,
    if_neg (by decide)]
  exact ⟨_, rfl⟩

/-- Otherwise it is not, and its send callback is as it was. -/
theorem registerDtv_fails (h : ¬(w.driver.Opens dtv.env.hal.calls ∧ w.StartsVendor dtv.env))
    (hrun : DtvIo.registerDtv w cb dtv = .ok (handler, dtv')) :
    handler = none ∧ dtv'.sendPdu = dtv.sendPdu := by
  have hkeep {α : Type} (m : EnvM α) : Keeps DtvService.sendPdu (DtvIo.inEnv m) :=
    keeps_zoom (fun _ _ => rfl) m
  rw [DtvIo.registerDtv] at hrun
  by_cases hopens : w.driver.Opens dtv.env.hal.calls
  · rw [bind_ok (inEnv_tvInputHalInit (tvInputHalInit_opens hopens)), if_neg (by decide),
      modify_bind_apply] at hrun
    obtain ⟨ret, u, hvendor, hrest⟩ := bind_eq_ok.mp hrun
    have hu := hkeep _ _ _ _ hvendor
    split at hrest
    · obtain ⟨_, v, huninit, hpure⟩ := bind_eq_ok.mp hrest
      cases hpure
      exact ⟨rfl, (hkeep _ _ _ _ huninit).trans hu⟩
    · next hret =>
      obtain ⟨_, env', hinit, heq⟩ := zoom_eq_ok.mp hvendor
      cases heq
      rw [not_not.mp hret] at hinit
      exact absurd ⟨hopens, env', hinit⟩ h
  · obtain ⟨hal, hfail⟩ := tvInputHalInit_fails hopens
    rw [bind_ok (inEnv_tvInputHalInit hfail), if_pos (by decide)] at hrun
    obtain ⟨_, v, huninit, hpure⟩ := bind_eq_ok.mp hrun
    cases hpure
    have hv := hkeep _ _ _ _ huninit
    exact ⟨rfl, hv⟩

end

/-! ### A Register command for the DTV service -/

/-- A Register command for the DTV service that is handled. -/
structure RegistersDtv (w : World) (s : Daemon) (cmd : Pdu) (t : Daemon) : Prop where
  service : cmd.service = serviceRegistry
  opcode : cmd.opcode = Registry.opcodeRegisterModule
  reads : ∃ rest, w.lib.readPduAt cmd [.C] = some (serviceDtv, rest)
  handled : ∃ res, Io.handlePdu w (.inTree w) cmd s = .ok (res, t)

/-- The service is registered only when it is initialized, and where it cannot be, the
client is told and nothing is left behind. -/
structure RegistersInitialized (w : World) (s : Daemon) (cmd : Pdu) (t : Daemon) : Prop where
  accepted : Accepted s cmd t → w.Initializes s.dtv.env
  installed : s.gServiceHandler serviceDtv = none → t.gServiceHandler serviceDtv ≠ none →
    w.Initializes s.dtv.env
  rejected : s.gServiceHandler serviceDtv = none → ¬w.Initializes s.dtv.env →
    Rejected s cmd t ∧ t.gServiceHandler serviceDtv = none ∧ t.dtv.sendPdu = s.dtv.sendPdu

/-- If the other three steps succeed, `initialize` does. -/
def InitializeSucceeds (w : World) (s : Daemon) : Prop :=
  s.gServiceHandler serviceDtv = none → w.lib.createPduWbuf s.pdus 4 0 = true →
    w.driver.Opens s.dtv.env.hal.calls → w.StartsVendor s.dtv.env →
    w.driver.Initializes s.dtv.env.hal.calls

/-- In every reachable state, a Register command for the DTV service registers an
initialized service or none, if and only if `initialize` does not fail alone. -/
theorem register_initialized_iff {w : World} {s t : Daemon} {cmd : Pdu} (hreach : Daemon.Reachable w s)
    (h : RegistersDtv w s cmd t) : RegistersInitialized w s cmd t ↔ InitializeSucceeds w s := by
  obtain ⟨rest, hread⟩ := h.reads
  have hstep : RegistryStep w (.inTree w) s cmd t := ⟨h.service, .inl h.opcode, h.handled⟩
  obtain ⟨status, u, hserve, haccepted, hrejected, hcontrol⟩ := hstep.serve hreach.installed.registry
  rw [Registry.registryHandler_register h.opcode] at hserve
  -- an error that leaves the table and the send callback as they were
  have hundone (hstatus : status ≠ 0) (htable : u.gServiceHandler = s.gServiceHandler)
      (hsend : u.dtv.sendPdu = s.dtv.sendPdu) : RegistersInitialized w s cmd t := by
    have htable' : t.gServiceHandler = s.gServiceHandler :=
      (Daemon.gServiceHandler_of_control hcontrol).trans htable
    have hsend' : t.dtv.sendPdu = s.dtv.sendPdu := (congrArg Control.sendPdu hcontrol).trans hsend
    refine ⟨fun haccept => absurd (haccepted.mp haccept) hstatus, fun hfree hregistered => ?_,
      fun hfree _ => ⟨hrejected hstatus, ?_, hsend'⟩⟩
    · rw [htable'] at hregistered
      exact absurd hfree hregistered
    · rw [htable']
      exact hfree
  rcases Registry.registerModule_spec hread _ _ _ hserve with
    ⟨hfree, handler, dtv, ⟨hcreate, register, hservice, hrun⟩, hupdate, hstatus⟩ |
      ⟨hnone, hstatus, hsame⟩
  · obtain ⟨-, rfl⟩ := Services.dtvOnly_register hservice
    have hrun : DtvIo.registerDtv w s.gSendPdu s.dtv = .ok (handler, dtv) := hrun
    by_cases hstarts : w.driver.Opens s.dtv.env.hal.calls ∧ w.StartsVendor s.dtv.env
    · obtain ⟨hopens, hvendor⟩ := hstarts
      obtain ⟨dtv', hok⟩ : ∃ dtv', DtvIo.registerDtv w s.gSendPdu s.dtv = .ok (some .dtvHandler, dtv') :=
        registerDtv_opens hopens hvendor
      cases hrun.symm.trans hok
      have htable : t.gServiceHandler serviceDtv = some .dtvHandler := by
        have hafter := Daemon.gServiceHandler_of_control (hcontrol.trans hupdate)
        rw [hafter]
        exact Function.update_self serviceDtv (some Handler.dtvHandler) s.gServiceHandler
      constructor
      · intro hregisters _ _ _ _
        refine (hregisters.installed hfree ?_).initializes
        rw [htable]
        exact Option.some_ne_none _
      · intro hsucceeds
        have hall : w.Initializes s.dtv.env := ⟨hopens, hsucceeds hfree hcreate hopens hvendor, hvendor⟩
        exact ⟨fun _ => hall, fun _ _ => hall, fun _ hnot => absurd hall hnot⟩
    · obtain ⟨rfl, hsend⟩ := registerDtv_fails hstarts hrun
      refine iff_of_true (hundone (fun hzero => (hstatus.mp hzero).1 rfl) ?_ ?_)
        fun _ _ hopens hvendor => absurd ⟨hopens, hvendor⟩ hstarts
      · have hafter := Daemon.gServiceHandler_of_control hupdate
        exact hafter
      · exact (congrArg Control.sendPdu hupdate).trans hsend
  · refine iff_of_true (hundone hstatus ?_ ?_) fun hfree hcreate hopens hvendor => ?_
    · exact Daemon.gServiceHandler_of_control hsame
    · exact congrArg Control.sendPdu hsame
    · obtain ⟨dtv', hok⟩ : ∃ dtv', DtvIo.registerDtv w s.gSendPdu s.dtv = .ok (some .dtvHandler, dtv') :=
        registerDtv_opens hopens hvendor
      exact absurd ⟨hcreate, _, rfl, hok⟩ (hnone hfree _ _)

theorem RegistersDtv.handle {w : World} {s : Daemon}
    (hread : w.lib.readPduAt registerDtvPdu [.C] = some (serviceDtv, ()))
    (hok : (Io.handlePdu w (.inTree w) registerDtvPdu s).isOk = true) :
    RegistersDtv w s registerDtvPdu (s.handle w registerDtvPdu) :=
  ⟨rfl, rfl, ⟨(), hread⟩, Daemon.handle_ok hok⟩

theorem register_initialized_steadyDriver :
    RegistersInitialized (.onDriver steadyDriver) steadyConnected registerDtvPdu steadyRegistered := by
  have hreach : Daemon.Reachable (.onDriver steadyDriver) steadyConnected := .connected rfl
  exact (register_initialized_iff hreach (.handle rfl (by decide +kernel))).mpr fun _ _ _ _ => rfl

/-- A driver whose device does not come up. -/
def deadDriver : Driver := { steadyDriver with initializeDevice := fun _ => -1 }

/-- It is registered all the same. -/
theorem register_not_initialized : ¬∀ (w : World) (s t : Daemon) (cmd : Pdu), Daemon.Reachable w s →
    RegistersDtv w s cmd t → RegistersInitialized w s cmd t := by
  intro h
  let w := World.onDriver deadDriver
  have hreach : Daemon.Reachable w (.connected w) := .connected rfl
  have hregisters := h w _ _ registerDtvPdu hreach (.handle rfl (by decide +kernel))
  have hinstalled : ((Daemon.connected w).handle w registerDtvPdu).gServiceHandler serviceDtv ≠ none := by
    decide +kernel
  have hresult : (-1 : Int32) = 0 := (hregisters.installed rfl hinstalled).initializes
  exact absurd hresult (by decide)

end Tvd

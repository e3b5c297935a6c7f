import Tvd.Service.Exchange

/-! The Registry as a set of services. A Register command that is accepted adds its
service to the set and an Unregister command that is accepted removes it, whatever
the callbacks of the services return; the two commands miss this where the table is
written before the reply is filled, and where the table is not looked at. -/

namespace Tvd

open Exec

/-! ### Runs -/

/-- The registered services, without the Registry. -/
def Daemon.registered (s : Daemon) : Set UInt8 :=
  {service | service ≠ serviceRegistry ∧ s.gServiceHandler service ≠ none}

/-- The command got a reply with its own opcode. -/
def Accepted (s : Daemon) (cmd : Pdu) (t : Daemon) : Prop :=
  ∃ wbuf, passedWbufs t.io.log = passedWbufs s.io.log ++ [wbuf] ∧
    wbuf.pdu.service = cmd.service ∧ wbuf.pdu.opcode = cmd.opcode

section

variable (w : World) (services : Services)

/-- What the two commands are to do to the set of registered services. -/
structure RefinesSet (s : Daemon) (cmd : Pdu) (t : Daemon) : Prop where
  register : ∀ service rest, cmd.opcode = Registry.opcodeRegisterModule →
    w.lib.readPduAt cmd [.C] = some (service, rest) →
    (Accepted s cmd t ↔ service ∉ s.registered ∧
      (∃ handler dtv, Registry.Registers w services s service (some handler) dtv) ∧
      Registry.Fills w s cmd) ∧
    (Accepted s cmd t → t.registered = insert service s.registered)
  unregister : ∀ service rest, cmd.opcode = Registry.opcodeUnregisterModule →
    w.lib.readPduAt cmd [.C] = some (service, rest) →
    (Accepted s cmd t ↔ service ∈ s.registered ∧
      ∃ dtv, Registry.Reports w services s service errorNone dtv) ∧
    (Accepted s cmd t → t.registered = s.registered \ {service})
  error : ¬Accepted s cmd t → t.gServiceHandler = s.gServiceHandler

/-- A Register or Unregister command that is handled. -/
def RegistryStep (s : Daemon) (cmd : Pdu) (t : Daemon) : Prop :=
  cmd.service = serviceRegistry ∧
    (cmd.opcode = Registry.opcodeRegisterModule ∨ cmd.opcode = Registry.opcodeUnregisterModule) ∧
    ∃ res, Io.handlePdu w services cmd s = .ok (res, t)

/-- A registration that succeeds can be replied to, and a service is unregistered
while it is registered and says so by a zero if it does not by a negative number. -/
structure RegistryClear (s : Daemon) (cmd : Pdu) : Prop where
  register : ∀ service rest handler dtv, cmd.opcode = Registry.opcodeRegisterModule →
    w.lib.readPduAt cmd [.C] = some (service, rest) → s.gServiceHandler service = none →
    Registry.Registers w services s service (some handler) dtv → Registry.Fills w s cmd
  unregister : ∀ service rest result dtv, cmd.opcode = Registry.opcodeUnregisterModule →
    w.lib.readPduAt cmd [.C] = some (service, rest) →
    Registry.Reports w services s service result dtv → 0 ≤ result.toInt →
    s.gServiceHandler service ≠ none ∧ result = errorNone

end

section

variable {w : World} {services : Services} {s t : Daemon} {cmd : Pdu}

theorem registered_register {service : UInt8} (hservice : service ≠ serviceRegistry) {handler : Handler}
    (ht : t.gServiceHandler = Function.update s.gServiceHandler service (some handler)) :
    t.registered = insert service s.registered := by
  ext other
  unfold Daemon.registered
  rw [ht, Set.mem_insert_iff, Set.mem_ofPred_eq, Set.mem_ofPred_eq]
  by_cases hother : other = service
  · subst hother
    rw [Function.update_self]
    simpa using hservice
  · rw [Function.update_of_ne hother]
    simp [hother]

theorem registered_unregister {service : UInt8}
    (ht : t.gServiceHandler = Function.update s.gServiceHandler service none) :
    t.registered = s.registered \ {service} := by
  ext other
  unfold Daemon.registered
  rw [ht, Set.mem_sdiff, Set.mem_singleton_iff, Set.mem_ofPred_eq, Set.mem_ofPred_eq]
  by_cases hother : other = service
  · subst hother
    rw [Function.update_self]
    simp
  · rw [Function.update_of_ne hother]
    simp [hother]

theorem Registry.Reports.unique {service : UInt8} {result result' : Int32} {dtv dtv' : DtvService}
    (h : Reports w services s service result dtv) (h' : Reports w services s service result' dtv') :
    result' = result := by
  obtain ⟨-, -, unregister, hunregister, hrun⟩ := h
  obtain ⟨-, -, unregister', hunregister', hrun'⟩ := h'
  rw [hunregister, Option.some_inj] at hunregister'
  subst hunregister'
  cases hrun.symm.trans hrun'
  rfl

theorem Registry.Registers.unique {service : UInt8} {handler handler' : Option Handler}
    {dtv dtv' : DtvService} (h : Registers w services s service handler dtv)
    (h' : Registers w services s service handler' dtv') : handler' = handler := by
  obtain ⟨-, register, hregister, hrun⟩ := h
  obtain ⟨-, register', hregister', hrun'⟩ := h'
  rw [hregister, Option.some_inj] at hregister'
  subst hregister'
  cases hrun.symm.trans hrun'
  rfl

/-- The command got an error reply. -/
def Rejected (s : Daemon) (cmd : Pdu) (t : Daemon) : Prop :=
  ∃ wbuf, passedWbufs t.io.log = passedWbufs s.io.log ++ [wbuf] ∧
    wbuf.pdu.service = cmd.service ∧ wbuf.pdu.opcode = DtvIo.opcodeError

/-- A handled command is accepted exactly when the Registry returned zero, and is
rejected otherwise; the control part is as the Registry left it. -/
theorem RegistryStep.serve (h : RegistryStep w services s cmd t)
    (hinstalled : s.gServiceHandler serviceRegistry = some .registryHandler) :
    ∃ status u, Registry.registryHandler w services cmd (s.logged cmd) = .ok (status, u) ∧
      (Accepted s cmd t ↔ status = 0) ∧ (status ≠ 0 → Rejected s cmd t) ∧ t.control = u.control := by
  obtain ⟨hservice, hopcode, res, hrun⟩ := h
  obtain ⟨wbuf, status, u, hpass, hserve, hcontrol, -, hsame, hreply⟩ := handlePdu_replies cmd s _ _ hrun
  have hpassed := (Daemon.logged_passes hpass).1
  refine ⟨status, u, ?_, ?_, fun hstatus => ?_, hcontrol⟩
  · have htable : (s.logged cmd).gServiceHandler cmd.service = some .registryHandler := by
      rw [hservice]
      exact hinstalled
    rw [← Io.serve_registry htable]
    exact hserve
  · have hone : Accepted s cmd t ↔ wbuf.pdu.opcode = cmd.opcode :=
      (exists_passed_iff hpassed).trans (and_iff_right hsame)
    rw [hone]
    rcases hreply with ⟨hzero, hopcode'⟩ | ⟨error, herror, rfl, hopcode', -⟩
    · exact iff_of_true hopcode' hzero
    · refine iff_of_false ?_ (statusCode_ne_zero herror)
      rw [hopcode']
      rcases hopcode with hopcode | hopcode
      · rw [hopcode]
        decide
      · rw [hopcode]
        decide
  · rcases hreply with ⟨hzero, -⟩ | ⟨_, -, -, hopcode', -⟩
    · exact absurd hzero hstatus
    · exact ⟨wbuf, hpassed, hsame, hopcode'⟩

/-- A command that cannot be read does what it is to do. -/
theorem refinesSet_unread (h : RegistryStep w services s cmd t)
    (hinstalled : s.gServiceHandler serviceRegistry = some .registryHandler)
    (hread : w.lib.readPduAt cmd [.C] = none) :
    RefinesSet w services s cmd t ↔ RegistryClear w services s cmd := by
  obtain ⟨status, u, hserve, haccepted, -, hcontrol⟩ := h.serve hinstalled
  have htable := Daemon.gServiceHandler_of_control hcontrol
  obtain ⟨-, rfl⟩ := Registry.registryHandler_unread hread _ _ _ hserve
  constructor
  · refine fun _ => ⟨fun _ _ _ _ _ hread' => ?_, fun _ _ _ _ _ hread' => ?_⟩
    · cases hread.symm.trans hread'
    · cases hread.symm.trans hread'
  · refine fun _ => ⟨fun _ _ _ hread' => ?_, fun _ _ _ hread' => ?_, fun _ => htable⟩
    · cases hread.symm.trans hread'
    · cases hread.symm.trans hread'

theorem refinesSet_register (h : RegistryStep w services s cmd t)
    (hinstalled : s.gServiceHandler serviceRegistry = some .registryHandler)
    (hunknown : services.register serviceRegistry = none) {service : UInt8} {rest : Fmt.Values []}
    (hopcode : cmd.opcode = Registry.opcodeRegisterModule)
    (hread : w.lib.readPduAt cmd [.C] = some (service, rest)) :
    RefinesSet w services s cmd t ↔ RegistryClear w services s cmd := by
  obtain ⟨status, u, hserve, haccepted, -, hcontrol⟩ := h.serve hinstalled
  have htable := Daemon.gServiceHandler_of_control hcontrol
  rw [Registry.registryHandler_register hopcode] at hserve
  have hother : cmd.opcode ≠ Registry.opcodeUnregisterModule := by
    rw [hopcode]
    decide
  -- an error with the table as it was, where no handler could be installed
  have herror (hnot : ¬Accepted s cmd t) (hsame : t.gServiceHandler = s.gServiceHandler)
      (hnone : s.gServiceHandler service = none → ∀ handler dtv,
        ¬Registry.Registers w services s service (some handler) dtv) :
      RefinesSet w services s cmd t ↔ RegistryClear w services s cmd := by
    refine iff_of_true ⟨fun service' rest' _ hread' => ?_, fun _ _ hopcode' => absurd hopcode' hother,
      fun _ => hsame⟩ ⟨fun service' rest' handler dtv _ hread' hfree hregisters => ?_,
        fun _ _ _ _ hopcode' => absurd hopcode' hother⟩
    · cases hread.symm.trans hread'
      refine ⟨iff_of_false hnot ?_, fun haccept => absurd haccept hnot⟩
      rintro ⟨hnotMem, ⟨handler, dtv, hregisters⟩, -⟩
      refine hnone ?_ handler dtv hregisters
      by_contra hbusy
      refine hnotMem ⟨?_, hbusy⟩
      rintro rfl
      obtain ⟨-, register, hregister, -⟩ := hregisters
      cases hunknown.symm.trans hregister
    · cases hread.symm.trans hread'
      exact absurd hregisters (hnone hfree handler dtv)
  rcases Registry.registerModule_spec hread _ _ _ hserve with
    ⟨hfree, handler, dtv, hregisters, hupdate, hstatus⟩ | ⟨hnone, hstatus, hsame⟩
  · have hfree : s.gServiceHandler service = none := hfree
    have hregisters : Registry.Registers w services s service handler dtv := hregisters
    have hupdate : t.gServiceHandler = (s.afterRegister service handler dtv).gServiceHandler :=
      htable.trans (Daemon.gServiceHandler_of_control hupdate)
    cases handler with
    | none =>
      refine herror (fun haccept => (hstatus.mp (haccepted.mp haccept)).1 rfl) hupdate ?_
      intro _ handler' dtv' hregisters'
      cases hregisters.unique hregisters'
    | some handler =>
    have hfills : Accepted s cmd t ↔ Registry.Fills w s cmd :=
      haccepted.trans (hstatus.trans (and_iff_right (Option.some_ne_none _)))
    have hservice : service ≠ serviceRegistry := by
      rintro rfl
      rw [hinstalled] at hfree
      cases hfree
    constructor
    · intro hrefines
      refine ⟨fun _ _ _ _ _ _ _ _ => ?_, fun _ _ _ _ hopcode' => absurd hopcode' hother⟩
      by_contra hnot
      have hentry := congrFun (hrefines.error (mt hfills.mp hnot)) service
      rw [hupdate, hfree] at hentry
      exact absurd ((Function.update_self _ _ _).symm.trans hentry) (Option.some_ne_none _)
    · intro hclear
      have hfill := hclear.register service rest handler dtv hopcode hread hfree hregisters
      refine ⟨fun service' rest' _ hread' => ?_, fun _ _ hopcode' => absurd hopcode' hother,
        fun hnot => absurd (hfills.mpr hfill) hnot⟩
      cases hread.symm.trans hread'
      exact ⟨iff_of_true (hfills.mpr hfill) ⟨fun hmem => hmem.2 hfree, ⟨handler, dtv, hregisters⟩, hfill⟩,
        fun _ => registered_register hservice hupdate⟩
  · exact herror (mt haccepted.mp hstatus) (htable.trans (Daemon.gServiceHandler_of_control hsame))
      fun hfree handler dtv => hnone hfree (some handler) dtv

theorem refinesSet_unregister (h : RegistryStep w services s cmd t)
    (hinstalled : s.gServiceHandler serviceRegistry = some .registryHandler) {service : UInt8}
    {rest : Fmt.Values []} (hopcode : cmd.opcode = Registry.opcodeUnregisterModule)
    (hread : w.lib.readPduAt cmd [.C] = some (service, rest)) :
    RefinesSet w services s cmd t ↔ RegistryClear w services s cmd := by
  obtain ⟨status, u, hserve, haccepted, -, hcontrol⟩ := h.serve hinstalled
  have htable := Daemon.gServiceHandler_of_control hcontrol
  rw [Registry.registryHandler_unregister hopcode] at hserve
  have hother : cmd.opcode ≠ Registry.opcodeRegisterModule := by
    rw [hopcode]
    decide
  -- an error with the table as it was, where the callback reported no success
  have herror (hnot : ¬Accepted s cmd t) (hsame : t.gServiceHandler = s.gServiceHandler)
      (hnone : ∀ result dtv, Registry.Reports w services s service result dtv → result.toInt < 0) :
      RefinesSet w services s cmd t ↔ RegistryClear w services s cmd := by
    refine iff_of_true ⟨fun _ _ hopcode' => absurd hopcode' hother, fun service' rest' _ hread' => ?_,
      fun _ => hsame⟩ ⟨fun _ _ _ _ hopcode' => absurd hopcode' hother,
        fun service' rest' result dtv _ hread' hreports hresult => ?_⟩
    · cases hread.symm.trans hread'
      refine ⟨iff_of_false hnot ?_, fun haccept => absurd haccept hnot⟩
      rintro ⟨-, dtv, hreports⟩
      exact absurd (hnone _ dtv hreports) (by decide)
    · cases hread.symm.trans hread'
      have hlt := hnone _ dtv hreports
      omega
  rcases Registry.unregisterModule_spec hread _ _ _ hserve with
    ⟨result, dtv, hreports, hupdate, hstatus⟩ | ⟨hnone, hstatus, hsame⟩
  · have hreports : Registry.Reports w services s service result dtv := hreports
    have hupdate : t.gServiceHandler = (s.afterUnregister service result dtv).gServiceHandler :=
      htable.trans (Daemon.gServiceHandler_of_control hupdate)
    unfold Daemon.afterUnregister at hupdate
    dsimp only at hupdate
    by_cases hneg : result.toInt < 0
    · rw [if_pos hneg] at hupdate
      refine herror (fun haccept => ?_) hupdate fun result' dtv' hreports' => ?_
      · have hresult := hstatus.mp (haccepted.mp haccept)
        omega
      · rwa [hreports.unique hreports']
    rw [if_neg hneg] at hupdate
    have haccept : Accepted s cmd t := haccepted.mpr (hstatus.mpr (by omega))
    constructor
    · intro hrefines
      refine ⟨fun _ _ _ _ hopcode' => absurd hopcode' hother,
        fun service' rest' result' dtv' _ hread' hreports' _ => ?_⟩
      cases hread.symm.trans hread'
      obtain ⟨hmem, dtv'', hzero⟩ := (hrefines.unregister service rest hopcode hread).1.mp haccept
      exact ⟨hmem.2, hzero.unique hreports'⟩
    · intro hclear
      obtain ⟨hbusy, hzero⟩ :=
        hclear.unregister service rest result dtv hopcode hread hreports (by omega)
      refine ⟨fun _ _ hopcode' => absurd hopcode' hother, fun service' rest' _ hread' => ?_,
        fun hnot => absurd haccept hnot⟩
      cases hread.symm.trans hread'
      exact ⟨iff_of_true haccept ⟨⟨hreports.1, hbusy⟩, dtv, hzero ▸ hreports⟩,
        fun _ => registered_unregister hupdate⟩
  · exact herror (mt haccepted.mp hstatus) (htable.trans (Daemon.gServiceHandler_of_control hsame))
      fun result dtv hreports => absurd hreports (hnone result dtv)

/-- No command writes the entry of the Registry. -/
theorem RegistryStep.installed (h : RegistryStep w services s cmd t)
    (hinstalled : s.gServiceHandler serviceRegistry = some .registryHandler) :
    t.gServiceHandler serviceRegistry = some .registryHandler := by
  obtain ⟨status, u, hserve, -, -, hcontrol⟩ := h.serve hinstalled
  have htable := Daemon.gServiceHandler_of_control hcontrol
  have hsame (hu : u.control = (s.logged cmd).control) :
      t.gServiceHandler serviceRegistry = some .registryHandler := by
    rw [htable, Daemon.gServiceHandler_of_control hu]
    exact hinstalled
  cases hread : w.lib.readPduAt cmd [.C] with
  | none =>
    obtain ⟨-, rfl⟩ := Registry.registryHandler_unread hread _ _ _ hserve
    exact hsame rfl
  | some values =>
    obtain ⟨service, rest⟩ := values
    rcases h.2.1 with hopcode | hopcode
    · rw [Registry.registryHandler_register hopcode] at hserve
      rcases Registry.registerModule_spec hread _ _ _ hserve with
        ⟨hfree, handler, dtv, -, hu, -⟩ | ⟨-, -, hu⟩
      · have hne : service ≠ serviceRegistry := by
          rintro rfl
          have hfree : s.gServiceHandler serviceRegistry = none := hfree
          rw [hinstalled] at hfree
          cases hfree
        rw [htable, Daemon.gServiceHandler_of_control hu]
        cases handler with
        | none => exact hinstalled
        | some handler => exact (Function.update_of_ne hne.symm _ _).trans hinstalled
      · exact hsame hu
    · rw [Registry.registryHandler_unregister hopcode] at hserve
      rcases Registry.unregisterModule_spec hread _ _ _ hserve with
        ⟨result, dtv, hreports, hu, -⟩ | ⟨-, -, hu⟩
      · rw [htable, Daemon.gServiceHandler_of_control hu]
        unfold Daemon.afterUnregister
        change (if _ then _ else _ : UInt8 → Option Handler) serviceRegistry = _
        split
        · exact hinstalled
        · exact (Function.update_of_ne hreports.1.symm _ _).trans hinstalled
      · exact hsame hu

/-- In a run of Register and Unregister commands, with any callbacks, every command
does to the set of registered services what it is to do if and only if every step is
clear. -/
theorem registry_refines_iff {register : Option SendPdu → DtvM (Option Handler)}
    {unregister : DtvM Int32} {l : List (Transition Daemon Pdu)}
    (hinstalled : s.gServiceHandler serviceRegistry = some .registryHandler)
    (hrun : Run (RegistryStep w (.dtvOnly register unregister)) s l t) :
    (∀ x ∈ l, RefinesSet w (.dtvOnly register unregister) x.before x.label x.after) ↔
      ∀ x ∈ l, RegistryClear w (.dtvOnly register unregister) x.before x.label := by
  refine forall₂_congr fun x hx => ?_
  have hstep := hrun.step_of_mem x hx
  have hbefore := (hrun.invariant_mem
    (P := fun s => s.gServiceHandler serviceRegistry = some .registryHandler)
    (fun _ _ h => h.installed) hinstalled x hx).1
  cases hread : w.lib.readPduAt x.label [.C] with
  | none => exact refinesSet_unread hstep hbefore hread
  | some values =>
    rcases hstep.2.1 with hopcode | hopcode
    · exact refinesSet_register hstep hbefore rfl hopcode hread
    · exact refinesSet_unregister hstep hbefore hopcode hread

end

/-! ### A service that was not registered -/

/-- The daemon once it handled a command. -/
def Daemon.handle (w : World) (s : Daemon) (cmd : Pdu) : Daemon :=
  match Io.handlePdu w (.inTree w) cmd s with
  | .ok (_, t) => t
  | .error _ => s

theorem Daemon.handle_ok {w : World} {s : Daemon} {cmd : Pdu}
    (hok : (Io.handlePdu w (.inTree w) cmd s).isOk = true) :
    ∃ res, Io.handlePdu w (.inTree w) cmd s = .ok (res, s.handle w cmd) := by
  unfold Daemon.handle
  cases hrun : Io.handlePdu w (.inTree w) cmd s with
  | ok r => exact ⟨r.1, rfl⟩
  | error e =>
    rw [hrun] at hok
    cases hok

/-- Register the DTV service, and unregister it. -/
def registerDtvPdu : Pdu := ⟨0, 1, [1]⟩

def unregisterDtvPdu : Pdu := ⟨0, 2, [1]⟩

theorem RegistryStep.handle {w : World} {s : Daemon} {cmd : Pdu} (hservice : cmd.service = serviceRegistry)
    (hopcode : cmd.opcode = Registry.opcodeRegisterModule ∨ cmd.opcode = Registry.opcodeUnregisterModule)
    (hok : (Io.handlePdu w (.inTree w) cmd s).isOk = true) :
    RegistryStep w (.inTree w) s cmd (s.handle w cmd) := ⟨hservice, hopcode, Daemon.handle_ok hok⟩

/-- The daemon when it is connected, and when the DTV service was registered. -/
def steadyConnected : Daemon := .connected (.onDriver steadyDriver)

def steadyRegistered : Daemon := steadyConnected.handle (.onDriver steadyDriver) registerDtvPdu

theorem registry_refines_steadyDriver :
    let w := World.onDriver steadyDriver
    let t := steadyRegistered.handle w unregisterDtvPdu
    RefinesSet w (.inTree w) steadyConnected registerDtvPdu steadyRegistered ∧
      RefinesSet w (.inTree w) steadyRegistered unregisterDtvPdu t := by
  intro w t
  have hregister : RegistryStep w (.inTree w) steadyConnected registerDtvPdu steadyRegistered :=
    .handle rfl (.inl rfl) (by decide +kernel)
  have hunregister : RegistryStep w (.inTree w) steadyRegistered unregisterDtvPdu t :=
    .handle rfl (.inr rfl) (by decide +kernel)
  have hbusy : steadyRegistered.gServiceHandler serviceDtv ≠ none := by decide +kernel
  have hall := (registry_refines_iff rfl (.cons hregister (.single hunregister))).mpr ?_
  · rw [List.forall_mem_cons, List.forall_mem_singleton] at hall
    exact hall
  · rw [List.forall_mem_cons, List.forall_mem_singleton]
    refine ⟨⟨fun _ _ _ _ _ _ _ _ => ⟨_, rfl⟩, fun _ _ _ _ hopcode => absurd hopcode (by decide)⟩,
      ⟨fun _ _ _ _ hopcode => absurd hopcode (by decide),
        fun service rest result dtv _ hread hreports _ => ?_⟩⟩
    cases hread
    obtain ⟨-, -, unregister, hunregister, hrun⟩ := hreports
    cases hunregister
    cases hrun
    exact ⟨hbusy, rfl⟩

/-- A service that is not registered is unregistered with success. -/
theorem registry_not_refines : ¬∀ (w : World) (register : Option SendPdu → DtvM (Option Handler))
    (unregister : DtvM Int32) (s t : Daemon) (l : List (Transition Daemon Pdu)),
    s.gServiceHandler serviceRegistry = some .registryHandler →
    Run (RegistryStep w (.dtvOnly register unregister)) s l t →
    ∀ x ∈ l, RefinesSet w (.dtvOnly register unregister) x.before x.label x.after := by
  intro h
  let w := World.onDriver steadyDriver
  let t := steadyConnected.handle w unregisterDtvPdu
  have hstep : RegistryStep w (.inTree w) steadyConnected unregisterDtvPdu t :=
    .handle rfl (.inr rfl) (by decide +kernel)
  have hrefines := h w (DtvIo.registerDtv w) (DtvIo.unregisterDtv w) steadyConnected _ _ rfl
    (.single hstep) _ List.mem_cons_self
  have haccept : Accepted steadyConnected unregisterDtvPdu t := ⟨_, rfl, rfl, rfl⟩
  obtain ⟨hmem, -⟩ := (hrefines.unregister serviceDtv () rfl rfl).1.mp haccept
  exact hmem.2 rfl

end Tvd

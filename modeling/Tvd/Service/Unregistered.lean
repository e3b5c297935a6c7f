import Tvd.Service.Callbacks
import Tvd.Service.Registrations
import Tvd.Service.Streams

/-! The time between a successful unregistration of the DTV service and its next
successful registration. While the handler and the send callback of the service are
both gone, nothing but responses is passed on and no DTV command is served; they are
both gone once the vendor's `dtv_uninit` has succeeded. -/

namespace Tvd

open Exec

variable {w : World}

/-! ### The two callbacks of the service -/

/-- Neither the handler nor the send callback of the DTV service is there. -/
structure Daemon.Closed (s : Daemon) : Prop where
  handler : s.gServiceHandler serviceDtv = none
  sendPdu : s.dtv.sendPdu = none

/-- `dtv_uninit`, called once the HAL was closed, succeeds. -/
def UninitSucceeds (w : World) (s : DtvService) : Prop :=
  ∀ r t ret u, DtvIo.inEnv (onHal (tvInputHalUninit w.driver)) s = .ok (r, t) →
    DtvIo.inEnv w.dtv.dtvUninit t = .ok (ret, u) → ret = tvStatusSuccess

/-- A registration that fails leaves the send callback alone. -/
theorem registerDtv_failed {cb : Option SendPdu} {s t : DtvService}
    (hrun : DtvIo.registerDtv w cb s = .ok (none, t)) : t.sendPdu = s.sendPdu := by
  have henv {α : Type} (m : EnvM α) : Keeps DtvService.sendPdu (DtvIo.inEnv m) :=
    keeps_zoom (fun _ _ => rfl) m
  obtain ⟨_, u, hinit, hrest⟩ := bind_eq_ok.mp hrun
  have hu : u.sendPdu = s.sendPdu := henv _ _ _ _ hinit
  split at hrest
  · obtain ⟨_, v, huninit, hpure⟩ := bind_eq_ok.mp hrest
    cases hpure
    exact (henv _ _ _ _ huninit).trans hu
  rw [modify_bind_apply] at hrest
  obtain ⟨_, v, hdtv, hrest⟩ := bind_eq_ok.mp hrest
  have hv : v.sendPdu = s.sendPdu := (henv _ _ _ _ hdtv).trans hu
  split at hrest
  · obtain ⟨_, v', huninit, hpure⟩ := bind_eq_ok.mp hrest
    cases hpure
    exact (henv _ _ _ _ huninit).trans hv
  · cases hrest

/-- An unregistration clears the send callback, or leaves it alone; the first if
`dtv_uninit` succeeds. -/
theorem unregisterDtv_sendPdu {result : Int32} {s t : DtvService}
    (hrun : DtvIo.unregisterDtv w s = .ok (result, t)) :
    t.sendPdu = none ∨ t.sendPdu = s.sendPdu ∧ ¬UninitSucceeds w s := by
  have henv {α : Type} (m : EnvM α) : Keeps DtvService.sendPdu (DtvIo.inEnv m) :=
    keeps_zoom (fun _ _ => rfl) m
  obtain ⟨r, u, huninit, hrest⟩ := bind_eq_ok.mp hrun
  have hu : u.sendPdu = s.sendPdu := henv _ _ _ _ huninit
  have hr : r = tvStatusSuccess := by
    obtain ⟨_, _, -, hloop⟩ := bind_eq_ok.mp (inEnv_onHal huninit)
    obtain ⟨_, _, -, hpure⟩ := bind_eq_ok.mp hloop
    cases hpure
    rfl
  rw [if_neg (not_not.mpr hr)] at hrest
  obtain ⟨ret, v, hdtv, hrest⟩ := bind_eq_ok.mp hrest
  have hv : v.sendPdu = s.sendPdu := (henv _ _ _ _ hdtv).trans hu
  split at hrest
  · next hret =>
    cases hrest
    exact .inr ⟨hv, fun hsucceeds => hret (hsucceeds _ _ _ _ huninit hdtv)⟩
  · cases hrest
    exact .inl rfl

/-! ### Steps -/

/-- The notifications passed to the send queue, oldest first. -/
def Daemon.notifications (s : Daemon) : List Wbuf :=
  (passedWbufs s.io.log).filter fun wbuf => wbuf.pdu.IsNotification

/-- The step handles the command. -/
def Handles (x : Transition Daemon Input) (cmd : Pdu) : Prop :=
  handledPdus x.after.io.log = handledPdus x.before.io.log ++ [cmd]

/-- The command is one for the Registry, about the DTV service. -/
def AboutDtv (w : World) (opcode : UInt8) (cmd : Pdu) : Prop :=
  cmd.service = serviceRegistry ∧ cmd.opcode = opcode ∧
    ∃ rest, w.lib.readPduAt cmd [.C] = some (serviceDtv, rest)

/-- The step handles such a command, with success. -/
def Succeeds (w : World) (opcode : UInt8) (x : Transition Daemon Input) : Prop :=
  ∃ cmd, Handles x cmd ∧ AboutDtv w opcode cmd ∧ Accepted x.before cmd x.after

/-- The step passes on no notification, and handles no DTV command but with an empty
entry for its handler. -/
structure Silent (x : Transition Daemon Input) : Prop where
  notifications : x.after.notifications = x.before.notifications
  handlers : ∀ cmd, Handles x cmd → cmd.service = serviceDtv →
    x.before.gServiceHandler serviceDtv = none

/-- An unregistration in the step finds the send callback cleared or `dtv_uninit`
willing, and a registration that gives a handler can be replied to. -/
structure UnregisterClear (w : World) (x : Transition Daemon Input) : Prop where
  unregister : ∀ cmd, Handles x cmd → AboutDtv w Registry.opcodeUnregisterModule cmd →
    x.before.dtv.sendPdu = none ∨ UninitSucceeds w x.before.dtv
  register : ∀ cmd handler dtv, Handles x cmd → AboutDtv w Registry.opcodeRegisterModule cmd →
    x.before.gServiceHandler serviceDtv = none →
    Registry.Registers w (.inTree w) x.before serviceDtv (some handler) dtv →
    Registry.Fills w x.before cmd

section

variable {s t : Daemon} {input : Input}

theorem Daemon.Closed.of_control (hs : s.Closed) (h : t.control = s.control) : t.Closed := by
  refine ⟨?_, ?_⟩
  · rw [Daemon.gServiceHandler_of_control h]
    exact hs.handler
  · have hsend : t.dtv.sendPdu = s.dtv.sendPdu := congrArg Control.sendPdu h
    rw [hsend]
    exact hs.sendPdu

theorem Daemon.notifications_of_passed (h : passedWbufs t.io.log = passedWbufs s.io.log) :
    t.notifications = s.notifications := by
  rw [Daemon.notifications, h, Daemon.notifications]

/-- An effect that is not a command leaves a closed daemon closed, and passes nothing
on. -/
theorem Effect.closed {v : Daemon} (hs : s.Closed) (h : Effect w s input v) :
    (v.Closed ∧ v.io.traffic = s.io.traffic) ∨
      ∃ cmd u res, s.Resumes u ∧ Io.handlePdu w (.inTree w) cmd u = .ok (res, v) := by
  cases h with
  | idle => exact .inl ⟨hs, rfl⟩
  | event event _ hrun =>
    obtain ⟨_, env, -, heq⟩ := zoom_eq_ok.mp hrun
    cases heq
    exact .inl ⟨⟨hs.handler, hs.sendPdu⟩, rfl⟩
  | notified _ hv =>
    cases hv with
    | ignored => exact .inl ⟨hs, rfl⟩
    | noMemory | unfilled | rejected | queued => exact .inl ⟨⟨hs.handler, hs.sendPdu⟩, rfl⟩
  | task idx _ hrun =>
    rw [Daemon.runTask, get_bind_apply] at hrun
    cases htask : s.tasks[idx]? with
    | none =>
      rw [htask] at hrun
      cases hrun
      exact .inl ⟨hs, rfl⟩
    | some wbuf =>
      rw [htask] at hrun
      dsimp only at hrun
      rw [modify_bind_apply, DtvIo.sendNtfPdu, get_bind_apply, hs.sendPdu] at hrun
      cases hrun
      exact .inl ⟨⟨hs.handler, hs.sendPdu⟩, rfl⟩
  | command cmd hu hrun => exact .inr ⟨cmd, _, _, hu, hrun⟩

theorem closed_serve (hs : s.Closed) (hinstalled : s.Installed) (cmd : Pdu) :
    Ensures (Io.serve w (.inTree w) s cmd) s fun status t => t.Closed ∨
      AboutDtv w Registry.opcodeRegisterModule cmd ∧ ∃ handler dtv,
        Registry.Registers w (.inTree w) s serviceDtv (some handler) dtv ∧
        (Registry.Fills w s cmd → status = 0) := by
  by_cases hservice : cmd.service = serviceRegistry
  case neg =>
    have hnone : s.gServiceHandler cmd.service = none := by
      by_cases hdtv : cmd.service = serviceDtv
      · rw [hdtv, hs.handler]
      · exact hinstalled.others _ hservice hdtv
    rw [Io.serve_none hnone]
    exact ensures_pure.mpr (.inl hs)
  have htable : s.gServiceHandler cmd.service = some .registryHandler := by
    rw [hservice]
    exact hinstalled.registry
  rw [Io.serve_registry htable]
  cases hread : w.lib.readPduAt cmd [.C] with
  | none =>
    refine (Registry.registryHandler_unread hread s).mono ?_
    rintro _ _ ⟨-, rfl⟩
    exact .inl hs
  | some values =>
  obtain ⟨service, rest⟩ := values
  by_cases hregister : cmd.opcode = Registry.opcodeRegisterModule
  · rw [Registry.registryHandler_register hregister]
    refine (Registry.registerModule_spec hread s).mono fun status t ht => ?_
    rcases ht with ⟨-, handler, dtv, hregisters, ht, hstatus⟩ | ⟨-, -, ht⟩
    · obtain ⟨-, register, hknown, hrun⟩ := id hregisters
      obtain ⟨rfl, rfl⟩ := Services.dtvOnly_register hknown
      cases handler with
      | none =>
        have hafter : Daemon.Closed (s.afterRegister serviceDtv none dtv) :=
          ⟨hs.handler, (registerDtv_failed hrun).trans hs.sendPdu⟩
        exact .inl (hafter.of_control ht)
      | some handler =>
        refine .inr ⟨⟨hservice, hregister, rest, hread⟩, handler, dtv, hregisters, fun hfills => ?_⟩
        exact hstatus.mpr ⟨Option.some_ne_none _, hfills⟩
    · exact .inl (hs.of_control ht)
  by_cases hunregister : cmd.opcode = Registry.opcodeUnregisterModule
  · rw [Registry.registryHandler_unregister hunregister]
    refine (Registry.unregisterModule_spec hread s).mono fun status t ht => .inl ?_
    rcases ht with ⟨result, dtv, ⟨-, -, unregister, hknown, hrun⟩, ht, -⟩ | ⟨-, -, ht⟩
    · obtain ⟨rfl, rfl⟩ := Services.dtvOnly_unregister hknown
      refine Daemon.Closed.of_control ⟨?_, ?_⟩ ht
      · unfold Daemon.afterUnregister
        dsimp only
        split
        · exact hs.handler
        · exact Function.update_self _ _ _
      · rcases unregisterDtv_sendPdu hrun with hnone | ⟨hsame, -⟩
        · exact hnone
        · exact hsame.trans hs.sendPdu
    · exact hs.of_control ht
  · rw [Registry.registryHandler_unsupported hregister hunregister]
    exact ensures_pure.mpr (.inl hs)

/-- While the daemon is closed, a step is silent, and leaves it closed unless it
registers the service. -/
theorem closed_step (hinstalled : s.Installed) (hs : s.Closed) (hstep : Daemon.Step w s input t)
    (hclear : UnregisterClear w ⟨s, input, t⟩)
    (hnot : ¬Succeeds w Registry.opcodeRegisterModule ⟨s, input, t⟩) :
    t.Closed ∧ Silent ⟨s, input, t⟩ := by
  obtain ⟨v, heffect, hsettles⟩ := hstep.effective
  rcases heffect.closed hs with ⟨hv, htraffic⟩ | ⟨cmd, u, res, hu, hrun⟩
  · have hcontrol : t.control = v.control := by
      rw [hsettles.2]
      rfl
    have hpassed : passedWbufs t.io.log = passedWbufs s.io.log :=
      congrArg Prod.fst (hsettles.1.trans htraffic)
    exact ⟨hv.of_control hcontrol, Daemon.notifications_of_passed hpassed, fun _ _ _ => hs.handler⟩
  · obtain ⟨io, wbuf, status, v', hserve, hcontrol, hpassed, hhandled, hresponse, hservice, hreply⟩ :=
      command_replies hu hrun hsettles
    have hsilent : Silent ⟨s, input, t⟩ := by
      refine ⟨?_, fun _ _ _ => hs.handler⟩
      change t.notifications = s.notifications
      rw [Daemon.notifications, hpassed, List.filter_append, List.filter_cons_of_neg (by simpa using hresponse),
        List.filter_nil, List.append_nil, Daemon.notifications]
    refine ⟨?_, hsilent⟩
    have hs' : Daemon.Closed { s with io } := ⟨hs.handler, hs.sendPdu⟩
    have hinstalled' : Daemon.Installed { s with io } := ⟨hinstalled.registry, hinstalled.others⟩
    rcases closed_serve hs' hinstalled' cmd _ _ hserve with hv | ⟨habout, handler, dtv, hregisters, hzero⟩
    · exact hv.of_control hcontrol
    · have hstatus := hzero (hclear.register cmd handler dtv hhandled habout hs.handler hregisters)
      refine absurd ⟨cmd, hhandled, habout, wbuf, hpassed, hservice, ?_⟩ hnot
      rcases hreply with ⟨-, hopcode⟩ | ⟨hne, -⟩
      · exact hopcode
      · exact absurd hstatus hne

/-- An effect that is not a command handles none. -/
theorem Effect.handled {v : Daemon} (h : Effect w s input v) :
    handledPdus v.io.log = handledPdus s.io.log ∨
      ∃ cmd u res, s.Resumes u ∧ Io.handlePdu w (.inTree w) cmd u = .ok (res, v) := by
  cases h with
  | idle => exact .inl rfl
  | event event _ hrun =>
    obtain ⟨-, hhandled, -⟩ := Daemon.traffic_eq_iff.mp (keeps_traffic_onEnv _ _ _ _ hrun)
    exact .inl hhandled
  | notified _ hv =>
    cases hv with
    | ignored | noMemory | unfilled | rejected | queued => exact .inl rfl
  | task idx _ hrun =>
    rw [Daemon.runTask, get_bind_apply] at hrun
    cases htask : s.tasks[idx]? with
    | none =>
      rw [htask] at hrun
      cases hrun
      exact .inl rfl
    | some wbuf =>
      rw [htask] at hrun
      dsimp only at hrun
      rw [modify_bind_apply] at hrun
      rcases sendNtfPdu_passes _ _ _ _ hrun with rfl | hpass
      · exact .inl rfl
      · obtain ⟨-, hhandled, -⟩ := Daemon.traffic_eq_iff.mp hpass
        exact .inl hhandled
  | command cmd hu hrun => exact .inr ⟨cmd, _, _, hu, hrun⟩

/-- A step that handles a command serves it and replies. -/
theorem Handles.replies {cmd : Pdu} (hstep : Daemon.Step w s input t)
    (h : Handles ⟨s, input, t⟩ cmd) :
    ∃ io wbuf status v, Io.serve w (.inTree w) { s with io } cmd { s with io } = .ok (status, v) ∧
      t.control = v.control ∧ passedWbufs t.io.log = passedWbufs s.io.log ++ [wbuf] ∧
      ((status = 0 ∧ wbuf.pdu.opcode = cmd.opcode) ∨
        status ≠ 0 ∧ wbuf.pdu.opcode = DtvIo.opcodeError) := by
  have hhandled : handledPdus t.io.log = handledPdus s.io.log ++ [cmd] := h
  obtain ⟨v, heffect, hsettles⟩ := hstep.effective
  rcases heffect.handled with hsame | ⟨cmd', u, res, hu, hrun⟩
  · have hsettled : handledPdus t.io.log = handledPdus v.io.log := congrArg Prod.snd hsettles.1
    rw [hsettled, hsame] at hhandled
    simp at hhandled
  · obtain ⟨io, wbuf, status, v', hserve, hcontrol, hpassed, hhandled', -, -, hreply⟩ :=
      command_replies hu hrun hsettles
    rw [hhandled', List.append_cancel_left_eq, List.cons.injEq] at hhandled
    obtain ⟨rfl, -⟩ := hhandled
    exact ⟨io, wbuf, status, v', hserve, hcontrol, hpassed, hreply⟩

/-- An unregistration that succeeds closes the daemon, where it is clear. -/
theorem closed_unregister (hinstalled : s.Installed) (hstep : Daemon.Step w s input t)
    (hclear : UnregisterClear w ⟨s, input, t⟩)
    (hsucceeds : Succeeds w Registry.opcodeUnregisterModule ⟨s, input, t⟩) : t.Closed := by
  obtain ⟨cmd, hhandles, habout, hreplied⟩ := hsucceeds
  obtain ⟨io, wbuf, status, v, hserve, hcontrol, hpassed, hreply⟩ := hhandles.replies hstep
  obtain ⟨-, hopcode⟩ := (exists_passed_iff hpassed).mp hreplied
  obtain ⟨hservice, hcmd, rest, hread⟩ := id habout
  have hzero : status = 0 := by
    rcases hreply with ⟨hzero, -⟩ | ⟨-, herror⟩
    · exact hzero
    · rw [hopcode, hcmd] at herror
      exact absurd herror (by decide)
  have htable : Daemon.gServiceHandler { s with io } cmd.service = some .registryHandler := by
    rw [hservice]
    exact hinstalled.registry
  rw [Io.serve_registry htable, Registry.registryHandler_unregister hcmd] at hserve
  rcases Registry.unregisterModule_spec hread _ _ _ hserve with
    ⟨result, dtv, ⟨-, -, unregister, hknown, hrun⟩, hv, hstatus⟩ | ⟨-, hne, -⟩
  · obtain ⟨-, rfl⟩ := Services.dtvOnly_unregister hknown
    have hresult : ¬result.toInt < 0 := by
      have hnonneg := hstatus.mp hzero
      omega
    refine Daemon.Closed.of_control ⟨?_, ?_⟩ (hcontrol.trans hv)
    · unfold Daemon.afterUnregister
      dsimp only
      rw [if_neg hresult]
      exact Function.update_self _ _ _
    · rcases unregisterDtv_sendPdu hrun with hnone | ⟨hsame, hfails⟩
      · exact hnone
      · rcases hclear.unregister cmd hhandles habout with hnone | hwilling
        · exact hsame.trans hnone
        · exact absurd hwilling hfails
  · exact absurd hzero hne

/-- Once an Unregister command for the DTV service got its reply, no notification is
passed on and no DTV command is served until a Register command for it succeeds, in
every run whose steps are clear. -/
theorem unregistered_silent (hreach : Daemon.Reachable w s) (hstep : Daemon.Step w s input t)
    (hsucceeds : Succeeds w Registry.opcodeUnregisterModule ⟨s, input, t⟩)
    {l : List (Transition Daemon Input)} {u : Daemon} (hrun : Run (Daemon.Step w) t l u)
    (hclear : ∀ x ∈ ⟨s, input, t⟩ :: l, UnregisterClear w x)
    (hnot : ∀ x ∈ l, ¬Succeeds w Registry.opcodeRegisterModule x) : ∀ x ∈ l, Silent x := by
  have hinstalled {a b : Daemon} {i : Input} (hstep : Daemon.Step w a i b) (ha : a.Installed) :
      b.Installed := installed_invariant.step i a ha _ _ hstep.2.2
  have hclosed : t.Installed ∧ t.Closed :=
    ⟨hinstalled hstep hreach.installed,
      closed_unregister hreach.installed hstep (hclear _ List.mem_cons_self) hsucceeds⟩
  have hstay (x) (hx : x ∈ l) (hstep : Daemon.Step w x.before x.label x.after)
      (ha : x.before.Installed ∧ x.before.Closed) : x.after.Closed ∧ Silent x :=
    closed_step ha.1 ha.2 hstep (hclear x (List.mem_cons_of_mem _ hx)) (hnot x hx)
  have hall := hrun.invariant_mem (P := fun a => a.Installed ∧ a.Closed)
    (fun x hx hstep ha => ⟨hinstalled hstep ha.1, (hstay x hx hstep ha).1⟩) hclosed
  exact fun x hx => (hstay x hx (hrun.step_of_mem x hx) (hall x hx).1).2

end

/-! ### An unregistration that the vendor refuses -/

/-- A world whose `dtv_uninit` returns the given status. -/
def World.withUninit (status : UInt8) : World :=
  { World.onDriver steadyDriver with
    dtv := { DtvApi.inTree .reference steadyDriver .lp64 with dtvUninit := pure status } }

/-- The client registers the DTV service. -/
def registered (w : World) : Daemon := (Daemon.connected w).next w (.readable (some [0, 1, 1, 0, 1]))

/-- The end of a scan is to be notified. -/
def scanComplete : Input := .scanStatus dtvScanComplete (some tunerOne) 0

def scanned (w : World) : Daemon := (registered w).next w scanComplete

/-- The client unregisters the service. -/
def unregisterStep (w : World) : Transition Daemon Input :=
  ⟨scanned w, .readable (some [0, 2, 1, 0, 1]), (scanned w).next w (.readable (some [0, 2, 1, 0, 1]))⟩

/-- The task of the notification runs. -/
def taskStep (w : World) : Transition Daemon Input :=
  ⟨(unregisterStep w).after, .task 0, (unregisterStep w).after.next w (.task 0)⟩

/-- What holds of these steps whatever `dtv_uninit` returns. -/
structure UnregistersScanned (w : World) : Prop where
  start : Daemon.Reachable w (registered w)
  notify : Daemon.Step w (registered w) scanComplete (scanned w)
  unregister : Daemon.Step w (scanned w) (unregisterStep w).label (unregisterStep w).after
  succeeds : Succeeds w Registry.opcodeUnregisterModule (unregisterStep w)
  task : Daemon.Step w (unregisterStep w).after (.task 0) (taskStep w).after
  handles : handledPdus (taskStep w).after.io.log = handledPdus (taskStep w).before.io.log

theorem registered_reachable {w : World} (hconnected : Daemon.Reachable w (.connected w))
    (h : Daemon.Takes w (.connected w) (.readable (some [0, 1, 1, 0, 1]))) : Daemon.Reachable w (registered w) :=
  hconnected.takes h

/-- The steps are taken if their inputs can arrive. -/
theorem UnregistersScanned.of_takes {w : World} (hstart : Daemon.Reachable w (registered w))
    (hnotify : Daemon.Takes w (registered w) scanComplete)
    (hunregister : Daemon.Takes w (scanned w) (unregisterStep w).label)
    (htask : Daemon.Takes w (unregisterStep w).after (.task 0))
    (hsucceeds : Succeeds w Registry.opcodeUnregisterModule (unregisterStep w))
    (hhandles : handledPdus (taskStep w).after.io.log = handledPdus (taskStep w).before.io.log) :
    UnregistersScanned w :=
  ⟨hstart, hnotify.step, hunregister.step, hsucceeds, htask.step, hhandles⟩

section

variable {w : World} (h : UnregistersScanned w)

include h

theorem UnregistersScanned.reachable : Daemon.Reachable w (scanned w) := h.start.step h.notify

/-- The unregistration, as a step from the state after the scan. -/
theorem UnregistersScanned.succeeded : Succeeds w Registry.opcodeUnregisterModule
    ⟨scanned w, (unregisterStep w).label, (unregisterStep w).after⟩ := h.succeeds

theorem UnregistersScanned.taskRun :
    Run (Daemon.Step w) (unregisterStep w).after [taskStep w] (taskStep w).after := .single h.task

theorem UnregistersScanned.run :
    Run (Daemon.Step w) (scanned w) [unregisterStep w, taskStep w] (taskStep w).after :=
  .cons h.unregister h.taskRun

end

theorem unregistersScanned_withUninit {status : UInt8}
    (h : status = tvStatusSuccess ∨ status = tvStatusFail) :
    UnregistersScanned (.withUninit status) := by
  rcases h with rfl | rfl
  all_goals
    refine .of_takes (registered_reachable (.connected rfl) ?_) ?_ ?_ ?_
      ⟨unregisterDtvPdu, ?_, ⟨rfl, rfl, (), rfl⟩, ?_⟩ ?_
    · decide +kernel
    · decide +kernel
    · decide +kernel
    · decide +kernel
    · unfold Handles
      decide +kernel
    · refine ⟨⟨6, 0, 0, false, none, ⟨0, 2, []⟩⟩, ?_, rfl, rfl⟩
      decide +kernel
    · decide +kernel

theorem UnregistersScanned.silent_handlers {w : World} (h : UnregistersScanned w) (cmd : Pdu) :
    ¬Handles (taskStep w) cmd := by
  intro hcmd
  have hnone := h.handles.symm.trans hcmd
  exact absurd (List.self_eq_append_right.mp hnone) (List.cons_ne_nil _ _)

theorem unregistered_silent_steadyDriver :
    Silent (taskStep (.withUninit tvStatusSuccess)) := by
  have h := unregistersScanned_withUninit (.inl rfl)
  have hbusy : (scanned (.withUninit tvStatusSuccess)).gServiceHandler serviceDtv ≠ none := by
    decide +kernel
  refine unregistered_silent h.reachable h.unregister h.succeeded h.taskRun ?_ ?_ _ List.mem_cons_self
  · rw [List.forall_mem_cons, List.forall_mem_singleton]
    have huninit (s : DtvService) : UninitSucceeds (.withUninit tvStatusSuccess) s := by
      intro r t ret u _ hrun
      cases hrun
      rfl
    refine ⟨⟨fun _ _ _ => .inr (huninit _), fun _ _ _ _ _ hfree => absurd hfree hbusy⟩,
      ⟨fun _ _ _ => .inr (huninit _), fun cmd _ _ hcmd => absurd hcmd (h.silent_handlers cmd)⟩⟩
  · rw [List.forall_mem_singleton]
    exact fun ⟨cmd, hcmd, _⟩ => h.silent_handlers cmd hcmd

/-- `dtv_uninit` fails, the client is told that the service is unregistered, and the
end of the scan is notified to it afterwards. -/
theorem unregistered_not_silent : ¬∀ (w : World) (s t u : Daemon) (input : Input)
    (l : List (Transition Daemon Input)), Daemon.Reachable w s → Daemon.Step w s input t →
    Succeeds w Registry.opcodeUnregisterModule ⟨s, input, t⟩ → Run (Daemon.Step w) t l u →
    (∀ x ∈ l, ¬Succeeds w Registry.opcodeRegisterModule x) → ∀ x ∈ l, Silent x := by
  intro hall
  have h := unregistersScanned_withUninit (.inr rfl)
  have hnot : ∀ x ∈ [taskStep (.withUninit tvStatusFail)],
      ¬Succeeds (.withUninit tvStatusFail) Registry.opcodeRegisterModule x := by
    rw [List.forall_mem_singleton]
    exact fun ⟨cmd, hcmd, _⟩ => h.silent_handlers cmd hcmd
  have hsilent := hall _ _ _ _ _ _ h.reachable h.unregister h.succeeded h.taskRun hnot _ List.mem_cons_self
  have hlength := congrArg List.length hsilent.notifications
  exact absurd hlength (by decide +kernel)

end Tvd

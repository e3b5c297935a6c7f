import Tvd.Service.Requests
import Tvd.Service.TunersReply

/-! The daemon as a server of tuners. What its driver and its client see of it, events,
commands and the responses passed on for them, is what a server does that keeps a list
of the tuners announced since the last attempt to register the DTV service. -/

namespace Tvd

open Exec Numeral

section

variable {lib : Lib} {fdio : Fdio} {driver : Driver} {p : Platform} {runTask : List PduOp → Wbuf → Int32}
  {o : ByteOrder} {cmd : Pdu} {s t : Daemon} {input : Input}

/-! ### Handling a command -/

/-- No service has a handler for the opcode of an error response. -/
theorem serve_opcodeError {w : World} {services : Services} (s : Daemon) (h : cmd.opcode = DtvIo.opcodeError) :
    Io.serve w services s cmd = pure errorUnsupported := by
  have hdtv : DtvIo.commandTable w cmd.opcode = none := by
    rw [h]
    rfl
  have hunsupported : DtvIo.dtvHandler w cmd = pure errorUnsupported := by
    rw [DtvIo.dtvHandler_eq, hdtv]
  have hregistry : Registry.registryHandler w services cmd = pure errorUnsupported :=
    Registry.registryHandler_unsupported (by rw [h]; decide) (by rw [h]; decide)
  exact Io.serve_rule (Q := fun m => m = pure errorUnsupported) rfl hregistry hunsupported s

/-- What a response to a result says. -/
theorem Pdu.reply_of_answer {status : Int32} {response : Pdu} (h : cmd.AnsweredBy status response)
    (hopcode : status = 0 → cmd.opcode ≠ DtvIo.opcodeError) :
    (status = 0 ∧ response.reply = .success response.payload) ∨ (status ≠ 0 ∧ response.reply = .error status) := by
  rcases h with ⟨hstatus, -, hsame⟩ | ⟨error, herror, rfl, rfl⟩
  · refine .inl ⟨hstatus, if_neg ?_⟩
    rw [hsame]
    exact hopcode hstatus
  · exact .inr ⟨statusCode_ne_zero herror, if_pos rfl⟩

/-- The one response that is passed on for a command is that of a server. -/
theorem handlePdu_answered (hdoc : lib.Documented o)
    (hreach : Daemon.Reachable (.inTree lib fdio driver p runTask) s) (htuners : s.TunersOnly)
    (cmd : Pdu) (io : IoState) :
    Ensures (Io.handlePdu (.inTree lib fdio driver p runTask) (.inTree (.inTree lib fdio driver p runTask)) cmd)
      { s with io } fun _ t => ∃ wbuf, (Daemon.logged { s with io } cmd).Passes t wbuf ∧
        ¬wbuf.pdu.IsNotification ∧ t.TunersOnly ∧
        s.server.answer (.documented o) ((World.inTree lib fdio driver p runTask).request cmd) wbuf.pdu.reply =
          some t.server := by
  intro res t hrun
  obtain ⟨wbuf, status, u, hpass, hresponse, hanswer, hserve⟩ :=
    handlePdu_passes hdoc.appendsOctet cmd _ _ _ hrun
  have hserved := serve_answered hdoc hreach htuners cmd
    (Daemon.logged { s with io } cmd).io _ _ hserve
  rw [Io.handlePdu_eq, bind_ok hserve] at hrun
  have hopcode (hzero : status = 0) : cmd.opcode ≠ DtvIo.opcodeError := by
    intro hopcode
    rw [serve_opcodeError _ hopcode] at hserve
    cases hserve
    exact absurd hzero (by decide)
  rcases Pdu.reply_of_answer hanswer hopcode with ⟨hzero, hreply⟩ | ⟨hstatus, hreply⟩
  · rw [if_neg (not_not.mpr hzero)] at hrun
    cases hrun
    refine ⟨wbuf, hpass, hresponse, hserved.tuners htuners, ?_⟩
    rw [hreply]
    exact hserved.success hzero wbuf hpass
  · rw [if_pos hstatus] at hrun
    obtain ⟨_, v, hsend, hpure⟩ := bind_eq_ok.mp hrun
    cases hpure
    have hlisting : t.listing = u.listing := Daemon.listing_of_control (keeps_sendErrorReply _ _ _ _ _ hsend)
    refine ⟨wbuf, hpass, hresponse, Daemon.tunersOnly_of_listing hlisting (hserved.tuners htuners), ?_⟩
    rw [hreply, Daemon.server_of_listing hlisting]
    exact hserved.error hstatus

/-! ### Steps -/

theorem Daemon.observe_command {w : World} (hinput : ∀ event, input ≠ .halEvent event) :
    Daemon.observe w ⟨s, input, t⟩ = (t.exchanges.drop s.exchanges.length).map fun (cmd, response) =>
      .exchange (w.request cmd) response.reply := by
  cases input with
  | halEvent event => exact absurd rfl (hinput event)
  | channelUpdate | scanStatus | eventNfy | task | readable | writable | err | hup => rfl

/-- What is seen of a step is what a server does, and what was said in it. -/
structure Daemon.Observed (w : World) (o : ByteOrder) (s : Daemon) (input : Input) (t : Daemon) : Prop where
  tuners : t.TunersOnly
  accepted : accept (Server.next (.documented o)) s.server (Daemon.observe w ⟨s, input, t⟩) = some t.server
  said : t.said w = s.said w ++ (Daemon.observe w ⟨s, input, t⟩).filterMap Observation.toExchange

/-- Without a command, nothing is seen. -/
theorem Daemon.Observed.quiet {w : World} (hinput : ∀ event, input ≠ .halEvent event) (htuners : s.TunersOnly)
    (hlisting : t.listing = s.listing) (hresponses : t.responses = s.responses)
    (hhandled : handledPdus t.io.log = handledPdus s.io.log) : Daemon.Observed w o s input t := by
  have hsame : t.exchanges = s.exchanges := by rw [exchanges, hresponses, hhandled, exchanges]
  have hnone : Daemon.observe w ⟨s, input, t⟩ = [] := by
    rw [observe_command hinput, hsame, List.drop_length, List.map_nil]
  refine ⟨Daemon.tunersOnly_of_listing hlisting htuners, ?_, ?_⟩
  · rw [hnone, accept_nil, Daemon.server_of_listing hlisting]
  · rw [hnone, Daemon.said, hsame, List.filterMap_nil, List.append_nil, Daemon.said]

/-- With one, it is seen with its response. -/
theorem Daemon.Observed.command {w : World} (hinput : ∀ event, input ≠ .halEvent event) (hs : s.Answered)
    {wbuf : Wbuf} (htuners : t.TunersOnly) (hresponses : t.responses = s.responses ++ [wbuf])
    (hhandled : handledPdus t.io.log = handledPdus s.io.log ++ [cmd])
    (hanswer : s.server.answer (.documented o) (w.request cmd) wbuf.pdu.reply = some t.server) :
    Daemon.Observed w o s input t := by
  have hlen : (handledPdus s.io.log).length = (s.responses.map Wbuf.pdu).length := by
    rw [List.length_map]
    exact hs.answers.length_eq
  have hmore : t.exchanges = s.exchanges ++ [(cmd, wbuf.pdu)] := by
    rw [exchanges, hresponses, hhandled, List.map_append, List.zip_append hlen, exchanges]
    rfl
  have hone : Daemon.observe w ⟨s, input, t⟩ = [.exchange (w.request cmd) wbuf.pdu.reply] := by
    rw [observe_command hinput, hmore, List.drop_left]
    rfl
  refine ⟨htuners, ?_, ?_⟩
  · rw [hone, accept_cons_eq_some]
    exact ⟨t.server, hanswer, accept_nil⟩
  · rw [hone, Daemon.said, hmore, List.map_append, Daemon.said]
    rfl

/-- A task passes on a notification, or nothing. -/
theorem Daemon.runTask_quiet {w : World} (hs : s.Answered) (idx : ℕ) :
    Ensures (Daemon.runTask w idx) s fun _ t => t.listing = s.listing ∧ t.responses = s.responses ∧
      handledPdus t.io.log = handledPdus s.io.log := by
  rw [Daemon.runTask, ensures_bind, ensures_get]
  cases htask : s.tasks[idx]? with
  | none => exact ensures_pure.mpr ⟨rfl, rfl, rfl⟩
  | some wbuf =>
    have hnotification := isNotification_of_opcode (hs.tasks wbuf (List.mem_of_getElem? htask))
    rw [ensures_bind]
    refine ensures_modify.mpr fun result t hrun => ?_
    have hcontrol := DtvIo.keeps_sendNtfPdu wbuf _ _ _ hrun
    refine ⟨Daemon.listing_of_control hcontrol, ?_⟩
    rcases sendNtfPdu_passes wbuf _ _ _ hrun with rfl | hpass
    · exact ⟨rfl, rfl⟩
    obtain ⟨hpassed, hhandled, -⟩ := Daemon.traffic_eq_iff.mp hpass
    refine ⟨?_, hhandled⟩
    rw [Daemon.responses, hpassed, List.filter_append, List.filter_cons_of_neg (by simpa using hnotification),
      List.filter_nil, List.append_nil]
    rfl

/-- An event of the driver changes the list of tuners. -/
theorem Daemon.Step.event (hreach : Daemon.Reachable (.inTree lib fdio driver p runTask) s) (htuners : s.TunersOnly)
    {event : TvInputEvent} (hstep : Daemon.Step (.inTree lib fdio driver p runTask) s (.halEvent event) t) :
    Daemon.Observed (.inTree lib fdio driver p runTask) o s (.halEvent event) t := by
  obtain ⟨result, v, hcallback, ht⟩ := hstep.callback
  obtain ⟨_, u, hrun, hpure⟩ := bind_eq_ok.mp hcallback
  cases hpure
  obtain ⟨_, env, henv, hu⟩ := zoom_eq_ok.mp hrun
  obtain ⟨_, hal, hhal, heq⟩ := zoom_eq_ok.mp henv
  have hnotifies : Notifies driver event s.dtv.env.hal hal := notifies_of_ok hreach.halReady.fits hhal
  cases heq
  cases hu
  have hsame : t.dtv.env.hal = hal := by rw [ht]; rfl
  have htable : t.gServiceHandler = s.gServiceHandler := by rw [ht]; rfl
  have hexchanges : t.exchanges = s.exchanges := by rw [ht]; rfl
  refine ⟨?_, ?_, ?_⟩
  · unfold Daemon.TunersOnly
    rw [hsame]
    exact TvHal.TunersOnly.notify htuners hnotifies
  · have hserver : t.server = { s.server with tuners := event.list s.server.tuners } := by
      rw [Daemon.server, hsame, htable, deviceIds_notify hnotifies]
      rfl
    exact congrArg some hserver.symm
  · rw [Daemon.said, hexchanges, Daemon.said]
    exact (List.append_nil _).symm

theorem Daemon.Step.observed (hdoc : lib.Documented o)
    (hreach : Daemon.Reachable (.inTree lib fdio driver p runTask) s) (htuners : s.TunersOnly)
    (hstep : Daemon.Step (.inTree lib fdio driver p runTask) s input t) :
    Daemon.Observed (.inTree lib fdio driver p runTask) o s input t := by
  by_cases hevent : ∃ event, input = .halEvent event
  · obtain ⟨event, rfl⟩ := hevent
    exact Daemon.Step.event hreach htuners hstep
  have hinput (event : TvInputEvent) : input ≠ .halEvent event := fun heq => hevent ⟨event, heq⟩
  have hanswered : s.Answered := hreach.answered hdoc.appendsOctet
  obtain ⟨v, heffect, hsame, ht⟩ := hstep.effective
  have hpassed : passedWbufs t.io.log = passedWbufs v.io.log := congrArg Prod.fst hsame
  have hhandled : handledPdus t.io.log = handledPdus v.io.log := congrArg Prod.snd hsame
  have hresponses : t.responses = v.responses := by rw [Daemon.responses, hpassed, Daemon.responses]
  have hlisting : t.listing = v.listing := by rw [ht]; rfl
  cases heffect with
  | idle => exact .quiet hinput htuners hlisting hresponses hhandled
  | event event heq _ => exact absurd heq (hinput event)
  | notified _ hv =>
    cases hv with
    | ignored | noMemory | unfilled | rejected | queued =>
      exact .quiet hinput htuners hlisting hresponses hhandled
  | task idx _ hrun =>
    obtain ⟨hv, hvresponses, hvhandled⟩ := Daemon.runTask_quiet hanswered idx _ _ hrun
    exact .quiet hinput htuners (hlisting.trans hv) (hresponses.trans hvresponses) (hhandled.trans hvhandled)
  | @command cmd u _ _ hu hrun =>
    obtain ⟨hsame', heq⟩ := hu
    rw [heq] at hrun
    obtain ⟨wbuf, hpass, hresponse, htuners', hanswer⟩ :=
      handlePdu_answered hdoc hreach htuners cmd u.io _ _ hrun
    obtain ⟨hvpassed, hvhandled, -⟩ := Daemon.logged_passes hpass
    have hpassed₀ : passedWbufs u.io.log = passedWbufs s.io.log := congrArg Prod.fst hsame'
    have hhandled₀ : handledPdus u.io.log = handledPdus s.io.log := congrArg Prod.snd hsame'
    dsimp only at hvpassed hvhandled
    rw [hpassed₀] at hvpassed
    rw [hhandled₀] at hvhandled
    have hmore : v.responses = s.responses ++ [wbuf] := by
      rw [Daemon.responses, hvpassed, List.filter_append, List.filter_cons_of_pos (by simpa using hresponse),
        List.filter_nil]
      rfl
    refine .command hinput hanswered (Daemon.tunersOnly_of_listing hlisting htuners') (hresponses.trans hmore)
      (hhandled.trans hvhandled) ?_
    rw [Daemon.server_of_listing hlisting]
    exact hanswer

/-! ### Runs -/

theorem Daemon.Connected.server (h : Daemon.Connected (.inTree lib fdio driver p runTask) s) :
    s.server = .initial ∧ s.TunersOnly := by
  have hcontrol := h.control
  have hhal : s.dtv.env.hal = .zero := congrArg Control.hal hcontrol
  have htable : s.gServiceHandler serviceDtv = none :=
    congrFun (congrArg Control.gServiceHandler hcontrol) serviceDtv
  have hempty : s.dtv.env.hal.devices = [] := by rw [hhal]; rfl
  refine ⟨?_, ?_⟩
  · rw [Daemon.server, htable, deviceIds_of_devices hempty]
    rfl
  · unfold Daemon.TunersOnly TvHal.TunersOnly
    rw [hempty]
    exact fun device hdevice => absurd hdevice List.not_mem_nil

/-- What the invariants of a run are. -/
def Daemon.Serving (w : World) (s : Daemon) : Prop := Daemon.Reachable w s ∧ s.TunersOnly

theorem Daemon.Serving.step (hdoc : lib.Documented o) (hs : s.Serving (.inTree lib fdio driver p runTask))
    (hstep : Daemon.Step (.inTree lib fdio driver p runTask) s input t) :
    t.Serving (.inTree lib fdio driver p runTask) :=
  ⟨hs.1.step hstep, (hstep.observed hdoc hs.1 hs.2).tuners⟩

theorem run_accepted (hdoc : lib.Documented o) (hconnected : Daemon.Connected (.inTree lib fdio driver p runTask) s)
    {l : List (Transition Daemon Input)} (hrun : Run (Daemon.Step (.inTree lib fdio driver p runTask)) s l t) :
    accept (Server.next (.documented o)) .initial
      (l.flatMap (Daemon.observe (.inTree lib fdio driver p runTask))) = some t.server := by
  obtain ⟨hinitial, htuners⟩ := hconnected.server
  rw [← hinitial]
  exact hrun.accepted (Daemon.Serving _) (fun a i b hstep ha => ha.step hdoc hstep)
    (fun a i b hstep ha => (hstep.observed hdoc ha.1 ha.2).accepted) ⟨⟨s, hconnected, .refl s⟩, htuners⟩

/-- The in-tree daemon refines a server of tuners. In every run, what its driver and its
client see of it is what a server accepts, and leaves the server that its state stands
for; and every command that was handled is seen, with its response. -/
theorem daemon_refines_server (hdoc : lib.Documented o)
    (hconnected : Daemon.Connected (.inTree lib fdio driver p runTask) s)
    {l : List (Transition Daemon Input)} (hrun : Run (Daemon.Step (.inTree lib fdio driver p runTask)) s l t) :
    accept (Server.next (.documented o)) .initial
        (l.flatMap (Daemon.observe (.inTree lib fdio driver p runTask))) = some t.server ∧
      (l.flatMap (Daemon.observe (.inTree lib fdio driver p runTask))).filterMap Observation.toExchange =
        t.said (.inTree lib fdio driver p runTask) ∧
      t.exchanges.map Prod.fst = handledPdus t.io.log ∧
      t.exchanges.map Prod.snd = t.responses.map Wbuf.pdu := by
  refine ⟨run_accepted hdoc hconnected hrun, ?_, ?_⟩
  · have hsaid := hrun.collected (Daemon.Serving _) (Daemon.said (.inTree lib fdio driver p runTask))
      (fun x => (Daemon.observe (.inTree lib fdio driver p runTask) x).filterMap Observation.toExchange)
      (fun a i b hstep ha => ha.step hdoc hstep) (fun a i b hstep ha => (hstep.observed hdoc ha.1 ha.2).said)
      ⟨⟨s, hconnected, .refl s⟩, hconnected.server.2⟩
    have hnothing : s.said (.inTree lib fdio driver p runTask) = [] := by
      rw [Daemon.said, Daemon.exchanges, (Daemon.traffic_eq_iff.mp hconnected.traffic).2.1]
      rfl
    rw [hsaid, hnothing, List.nil_append, List.filterMap_flatMap]
  · have hreach : Daemon.Reachable (.inTree lib fdio driver p runTask) t := ⟨s, hconnected, l, hrun⟩
    have hlen : (handledPdus t.io.log).length = (t.responses.map Wbuf.pdu).length := by
      rw [List.length_map]
      exact (hreach.answered hdoc.appendsOctet).answers.length_eq
    exact ⟨List.map_fst_zip hlen.le, List.map_snd_zip hlen.ge⟩

/-- The events make of the table what they make of the list. -/
theorem listAll_eq (events : List TvInputEvent) (table : List DeviceInfo) :
    listAll events (table.map DeviceInfo.deviceId) = (applyAll events table).map DeviceInfo.deviceId := by
  induction events generalizing table with
  | nil => rfl
  | cons event events ih =>
    have hlist : listAll (event :: events) (table.map DeviceInfo.deviceId) =
        listAll events (event.list (table.map DeviceInfo.deviceId)) := rfl
    rw [hlist, ← deviceIds_apply, ih]
    rfl

theorem list_length_le (event : TvInputEvent) {ids : List Int32} (h : ids.length ≤ maxDeviceNum) :
    (event.list ids).length ≤ maxDeviceNum := by
  unfold TvInputEvent.list
  split
  · exact h
  split
  · split
    · rw [List.length_append]
      exact Nat.succ_le_of_lt ‹_›
    · exact h
  · exact List.length_erase_le.trans h
  · exact h
  · exact h

theorem listAll_length_le (events : List TvInputEvent) : ∀ {ids : List Int32}, ids.length ≤ maxDeviceNum →
    (listAll events ids).length ≤ maxDeviceNum := by
  induction events with
  | nil => exact fun h => h
  | cons event events ih => exact fun h => ih (list_length_le event h)

/-- The id of each tuner is the decimal number of its device. -/
def WholeIds (ids : List Int32) (tuners : List Wire.Tuner) : Prop :=
  List.Forall₂ (fun id tuner => 0 ≤ id.toInt → tuner.id.val = decimal id.toInt.toNat) ids tuners

/-- The numbers that begin with `10` are cut, and only they. -/
theorem wholeIds_iff (ids : List Int32) :
    WholeIds ids (ids.map idTuner) ↔ ∀ id ∈ ids, 0 ≤ id.toInt → ¬LeadsWithTen id.toInt.toNat := by
  rw [WholeIds, List.forall₂_map_right_iff, List.forall₂_same]
  exact forall₃_congr fun id _ hnonneg => tunerString_eq_iff hnonneg

/-- In every run, a Get tuners command that succeeds tells the client the tuners that the
driver's events since the last registration leave in the list; where these are orderly,
the available tuners in the order of their arrival. It tells them by the strings that the
service builds, which are the numbers of the devices unless one begins with `10`. -/
theorem getTuners_tells_available (hdoc : lib.Documented o)
    (hconnected : Daemon.Connected (.inTree lib fdio driver p runTask) s)
    {l : List (Transition Daemon Input)} (hrun : Run (Daemon.Step (.inTree lib fdio driver p runTask)) s l t)
    {past recent : List Observation} {version content : List UInt8}
    (hseen : l.flatMap (Daemon.observe (.inTree lib fdio driver p runTask)) =
      past ++ .exchange .register (.success version) :: recent ++ [.exchange .getTuners (.success content)])
    (hrecent : ∀ observation ∈ recent, ¬observation.Registers) :
    ∃ (ids : List Int32) (tuners : Codec.Counted Wire.Tuner),
      ids = listAll (recent.filterMap Observation.toEvent) [] ∧ tuners.val = ids.map idTuner ∧
      (Wire.tuners o).decode content = some (tuners, []) ∧
      (WholeIds ids tuners.val ↔ ∀ id ∈ ids, 0 ≤ id.toInt → ¬LeadsWithTen id.toInt.toNat) ∧
      (Orderly (recent.filterMap Observation.toEvent) →
        ListsArrivals (recent.filterMap Observation.toEvent) ids) := by
  have haccepted := run_accepted hdoc hconnected hrun
  rw [hseen] at haccepted
  have hcontent := Server.getTuners_since hrecent haccepted
  have hnone : ([] : List Int32).length ≤ maxDeviceNum := Nat.zero_le _
  have hlen := listAll_length_le (recent.filterMap Observation.toEvent) hnone
  generalize hids : listAll (recent.filterMap Observation.toEvent) [] = ids at hcontent hlen
  have hlt : (ids.map idTuner).length < 2 ^ 32 := by
    rw [List.length_map]
    exact hlen.trans_lt (by decide)
  refine ⟨ids, ⟨ids.map idTuner, hlt⟩, rfl, rfl, ?_, wholeIds_iff ids, fun horderly => ?_⟩
  · rw [Codec.decode_eq_iff, Wire.tuners, Codec.counted_encode, List.length_map]
    exact hcontent
  · rw [← hids]
    have heq := listAll_eq (recent.filterMap Observation.toEvent) []
    rw [List.map_nil] at heq
    rw [heq]
    exact listsArrivals_applyAll _ horderly

end

/-! ### A client that asks once the first of two tuners is gone -/

def twoArrivals : List Input :=
  [.readable (some [0, 1, 1, 0, 1]), .halEvent (arrival 1), .halEvent (arrival 2), .halEvent (departure 1),
    .readable (some [1, 1, 0, 0])]

abbrev arrivalsRun : List (Transition Daemon Input) :=
  trace (Daemon.next (.onDriver steadyDriver)) (.connected (.onDriver steadyDriver)) twoArrivals

theorem steadyDriver_connects :
    Daemon.Connected (.onDriver steadyDriver) (.connected (.onDriver steadyDriver)) := ⟨3, by decide, rfl⟩

theorem arrivalsRun_runs : Run (Daemon.Step (.onDriver steadyDriver)) (.connected (.onDriver steadyDriver))
    arrivalsRun (twoArrivals.foldl (Daemon.next (.onDriver steadyDriver)) (.connected (.onDriver steadyDriver))) :=
  Daemon.trace_run (by decide +kernel)

theorem daemon_refines_twoArrivals : accept (Server.next (.documented .little)) .initial
    (arrivalsRun.flatMap (Daemon.observe (.onDriver steadyDriver))) = some ⟨true, [2]⟩ := by
  have hserver : (twoArrivals.foldl (Daemon.next (.onDriver steadyDriver))
      (.connected (.onDriver steadyDriver))).server = ⟨true, [2]⟩ := by decide +kernel
  rw [← hserver]
  exact (daemon_refines_server Lib.reference_documented steadyDriver_connects arrivalsRun_runs).1

/-- The number of device 2 is whole. -/
theorem getTuners_tells_twoArrivals : ∃ tuners : Codec.Counted Wire.Tuner,
    (Wire.tuners .little).decode [1, 0, 0, 0, 50, 0, 0, 0, 0, 0] = some (tuners, []) ∧ WholeIds [2] tuners.val := by
  have hseen : arrivalsRun.flatMap (Daemon.observe (.onDriver steadyDriver)) =
      [] ++ .exchange .register (.success [1, 0, 0, 0]) ::
        [.event (arrival 1), .event (arrival 2), .event (departure 1)] ++
        [.exchange .getTuners (.success [1, 0, 0, 0, 50, 0, 0, 0, 0, 0])] := by decide +kernel
  have hrecent : ∀ observation ∈ [Observation.event (arrival 1), .event (arrival 2), .event (departure 1)],
      ¬observation.Registers := by
    intro observation hobservation
    obtain ⟨event, rfl⟩ : ∃ event, observation = .event event := by
      simp only [List.mem_cons, List.not_mem_nil, or_false] at hobservation
      rcases hobservation with rfl | rfl | rfl
      · exact ⟨_, rfl⟩
      · exact ⟨_, rfl⟩
      · exact ⟨_, rfl⟩
    exact id
  obtain ⟨ids, tuners, hids, -, hdecode, hwhole, -⟩ := getTuners_tells_available Lib.reference_documented
    steadyDriver_connects arrivalsRun_runs hseen hrecent
  have htwo : ids = [2] := hids.trans (by decide)
  rw [htwo] at hwhole
  refine ⟨tuners, hdecode, hwhole.mpr fun id hid _ => ?_⟩
  cases List.mem_singleton.mp hid
  exact not_leadsWithTen_of_lt (by decide)

end Tvd

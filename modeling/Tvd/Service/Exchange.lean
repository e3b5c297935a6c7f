import Tvd.Service.Control
import Tvd.Service.Handles
import Tvd.Service.Notifications
import Mathlib.Data.List.Forall2

/-! The exchange with the client over whole runs. Every command is answered by one
response, and the responses, told from notifications by the first bit of the opcode,
are in the order of the commands. -/

namespace Tvd

open Exec

/-! ### One command -/

/-- The first bit of the opcode is set. -/
def Pdu.IsNotification (pdu : Pdu) : Prop := 0x80 ≤ pdu.opcode.toNat

instance (pdu : Pdu) : Decidable pdu.IsNotification := inferInstanceAs (Decidable (_ ≤ _))

/-- The response that goes with a result: the command's service and opcode if it is
zero, or else an error response that carries it as one octet. -/
def Pdu.AnsweredBy (cmd : Pdu) (status : Int32) (response : Pdu) : Prop :=
  (status = 0 ∧ response.service = cmd.service ∧ response.opcode = cmd.opcode) ∨
    ∃ error : UInt8, error ≠ 0 ∧ status = DtvIo.statusCode error ∧
      response = ⟨cmd.service, DtvIo.opcodeError, [error]⟩

/-- One octet fits an empty payload. -/
def Lib.AppendsOctet (lib : Lib) : Prop :=
  ∀ log service opcode v, lib.appendToPdu log ⟨service, opcode, []⟩ [.C] [.int v] = .ok [v.toUInt8]

theorem Lib.Documented.appendsOctet {lib : Lib} {o : ByteOrder} (h : lib.Documented o) :
    lib.AppendsOctet := by
  intro log service opcode v
  have hoctet : encodeArgs o [.C] [.int v] = some [v.toUInt8] := by
    simp [encodeArgs, Fmt.encode]
  exact h.fits log ⟨service, opcode, []⟩ _ _ _ hoctet (by simp [pduMaxDataLength])

variable {w : World} {services : Services}

theorem statusCode_octet (error : UInt8) : (DtvIo.statusCode error).toUInt32.toUInt8 = error := by
  rw [DtvIo.statusCode, UInt32.toUInt32_toInt32, UInt8.toUInt8_toUInt32]

theorem statusCode_ne_zero {error : UInt8} (h : error ≠ 0) : DtvIo.statusCode error ≠ 0 := by
  intro hzero
  have hoctet := statusCode_octet error
  rw [hzero] at hoctet
  exact h hoctet.symm

theorem serve_answers (s : Daemon) (cmd : Pdu) : Answers cmd (Io.serve w services s cmd) :=
  Io.serve_rule (.code isCode_errorUnsupported) (Registry.registryHandler_answers cmd)
    (DtvIo.dtvHandler_answers cmd) s

/-- No service has a handler for an opcode whose first bit is set. -/
theorem serve_notification (s : Daemon) {cmd : Pdu} (h : cmd.IsNotification) :
    Io.serve w services s cmd = pure errorUnsupported := by
  have hne (opcode : UInt8) (hlt : opcode.toNat < 0x80) : cmd.opcode ≠ opcode := by
    rintro rfl
    exact absurd h (Nat.not_le.mpr hlt)
  have hdtv : DtvIo.commandTable w cmd.opcode = none := by
    rw [DtvIo.commandTable, if_neg (hne _ (by decide)), if_neg (hne _ (by decide)),
      if_neg (hne _ (by decide)), if_neg (hne _ (by decide)), if_neg (hne _ (by decide)),
      if_neg (hne _ (by decide)), if_neg (hne _ (by decide)), if_neg (hne _ (by decide))]
  have hunsupported : DtvIo.dtvHandler w cmd = pure errorUnsupported := by
    rw [DtvIo.dtvHandler_eq, hdtv]
  exact Io.serve_rule (Q := fun p => p = pure errorUnsupported) rfl
    (Registry.registryHandler_unsupported (hne _ (by decide)) (hne _ (by decide))) hunsupported s

/-- An error reply passes on one buffer, with the code as its payload if an octet can
be appended. -/
theorem sendErrorReply_passes (service error : UInt8) (s : Daemon) :
    Ensures (Io.sendErrorReply w service error) s fun _ t => ∃ wbuf, s.Passes t wbuf ∧
      wbuf.pdu.service = service ∧ wbuf.pdu.opcode = DtvIo.opcodeError ∧
      (w.lib.AppendsOctet → wbuf.pdu.payload = [error]) := by
  unfold Io.sendErrorReply
  rw [ensures_bind]
  intro created t hcreate
  have ht : t.traffic = s.traffic := keeps_traffic_onPdus _ s created t hcreate
  cases created with
  | none => exact ensures_throw.mpr trivial
  | some wbuf =>
    dsimp only
    rw [ensures_bind, ensures_zoom]
    refine (appendToPdu_ensures _ _ _ _).mono fun appended log happend => ?_
    rw [ensures_bind, ensures_zoom]
    refine (ioStateSend_passes _ _).mono fun res io hio => ?_
    have hpass : t.Passes (Daemon.ioLens.set io (Daemon.pdusLens.set log t))
        (appended.getD (wbuf.initPdu service DtvIo.opcodeError)) :=
      congrArg (·, t.tasks) (Prod.ext hio.1 hio.2)
    refine ensures_ite.mpr ⟨fun _ => ensures_throw.mpr trivial, fun _ => ensures_pure.mpr ?_⟩
    refine ⟨_, hpass.of_traffic ht, ?_⟩
    rcases happend with ⟨hfail, rfl, -⟩ | ⟨payload, hok, rfl, -⟩
    · refine ⟨rfl, rfl, fun hoctet => ?_⟩
      have hfits := hoctet t.pdus service DtvIo.opcodeError error.toUInt32
      exact absurd (hfail.symm.trans hfits) (by simp)
    · refine ⟨rfl, rfl, fun hoctet => ?_⟩
      have hfits := hoctet t.pdus service DtvIo.opcodeError error.toUInt32
      rw [UInt8.toUInt8_toUInt32] at hfits
      exact Append.ok.inj (hok.symm.trans hfits)

theorem Daemon.logged_passes {s t : Daemon} {cmd : Pdu} {wbuf : Wbuf}
    (h : (s.logged cmd).Passes t wbuf) :
    passedWbufs t.io.log = passedWbufs s.io.log ++ [wbuf] ∧
      handledPdus t.io.log = handledPdus s.io.log ++ [cmd] ∧ t.tasks = s.tasks := by
  have hpassed : passedWbufs (s.logged cmd).io.log = passedWbufs s.io.log := by
    change passedWbufs (.handlePdu cmd :: s.io.log) = _
    rw [passedWbufs_cons]
    exact List.append_nil _
  have hhandled : handledPdus (s.logged cmd).io.log = handledPdus s.io.log ++ [cmd] := by
    change handledPdus (.handlePdu cmd :: s.io.log) = _
    rw [handledPdus_cons]
    rfl
  obtain ⟨hpassed', hhandled', htasks⟩ := Daemon.traffic_eq_iff.mp h
  rw [hpassed] at hpassed'
  exact ⟨hpassed', hhandled'.trans hhandled, htasks⟩

/-- Handling a command passes on one buffer, not a notification: the reply of its
service, or the error reply to the code that the service returned. -/
theorem handlePdu_replies (cmd : Pdu) (s : Daemon) :
    Ensures (Io.handlePdu w services cmd) s fun _ t => ∃ wbuf status u,
      (s.logged cmd).Passes t wbuf ∧
      Io.serve w services (s.logged cmd) cmd (s.logged cmd) = .ok (status, u) ∧
      t.control = u.control ∧ ¬wbuf.pdu.IsNotification ∧ wbuf.pdu.service = cmd.service ∧
      ((status = 0 ∧ wbuf.pdu.opcode = cmd.opcode) ∨
        ∃ error : UInt8, error ≠ 0 ∧ status = DtvIo.statusCode error ∧
          wbuf.pdu.opcode = DtvIo.opcodeError ∧ (w.lib.AppendsOctet → wbuf.pdu.payload = [error])) := by
  intro res t hrun
  rw [Io.handlePdu_eq] at hrun
  obtain ⟨status, u, hserve, hrest⟩ := bind_eq_ok.mp hrun
  rcases serve_answers _ _ _ _ _ hserve with ⟨hzero, wbuf, hpass, hservice, hopcode⟩ | ⟨hcode, hkeep⟩
  · rw [if_neg (not_not.mpr hzero)] at hrest
    cases hrest
    refine ⟨wbuf, status, _, hpass, hserve, rfl, fun hnotify => ?_, hservice, .inl ⟨hzero, hopcode⟩⟩
    -- a notification's opcode is not served
    have hcmd : cmd.IsNotification := by
      unfold Pdu.IsNotification at hnotify ⊢
      rwa [hopcode] at hnotify
    rw [serve_notification _ hcmd] at hserve
    cases hserve
    exact absurd hzero (by decide)
  · obtain ⟨error, herror, rfl⟩ := hcode
    rw [if_pos (statusCode_ne_zero herror), statusCode_octet] at hrest
    obtain ⟨_, v, hsend, hpure⟩ := bind_eq_ok.mp hrest
    cases hpure
    obtain ⟨wbuf, hpass, hservice, hopcode, hpayload⟩ := sendErrorReply_passes _ _ _ _ _ hsend
    have hcontrol : t.control = u.control := keeps_sendErrorReply _ _ _ _ _ hsend
    have hresponse : ¬wbuf.pdu.IsNotification := by
      unfold Pdu.IsNotification
      rw [hopcode]
      decide
    exact ⟨wbuf, _, u, hpass.of_traffic hkeep, hserve, hcontrol, hresponse, hservice,
      .inr ⟨error, herror, rfl, hopcode, hpayload⟩⟩

/-- The same of a step that handles a command. -/
theorem command_replies {cmd : Pdu} {s u v t : Daemon} {res : Int32} (hu : s.Resumes u)
    (hrun : Io.handlePdu w services cmd u = .ok (res, v)) (ht : v.Settles t) :
    ∃ io wbuf status v', Io.serve w services { s with io } cmd { s with io } = .ok (status, v') ∧
      t.control = v'.control ∧ passedWbufs t.io.log = passedWbufs s.io.log ++ [wbuf] ∧
      handledPdus t.io.log = handledPdus s.io.log ++ [cmd] ∧ ¬wbuf.pdu.IsNotification ∧
      wbuf.pdu.service = cmd.service ∧
      ((status = 0 ∧ wbuf.pdu.opcode = cmd.opcode) ∨
        status ≠ 0 ∧ wbuf.pdu.opcode = DtvIo.opcodeError) := by
  obtain ⟨wbuf, status, v', hpass, hserve, hcontrol, hresponse, hservice, hreply⟩ :=
    handlePdu_replies cmd u _ _ hrun
  obtain ⟨hpassed, hhandled, -⟩ := Daemon.logged_passes hpass
  have hpassed' : passedWbufs t.io.log = passedWbufs v.io.log := congrArg Prod.fst ht.1
  have hhandled' : handledPdus t.io.log = handledPdus v.io.log := congrArg Prod.snd ht.1
  have hpassed₀ : passedWbufs u.io.log = passedWbufs s.io.log := congrArg Prod.fst hu.1
  have hhandled₀ : handledPdus u.io.log = handledPdus s.io.log := congrArg Prod.snd hu.1
  have hcontrol' : t.control = v.control := by
    rw [ht.2]
    rfl
  have hlogged : u.logged cmd = { s with io := (u.logged cmd).io } := by
    rw [hu.2]
    rfl
  rw [hlogged] at hserve
  refine ⟨_, wbuf, status, v', hserve, hcontrol'.trans hcontrol, ?_, ?_, hresponse, hservice, ?_⟩
  · rw [hpassed', hpassed, hpassed₀]
  · rw [hhandled', hhandled, hhandled₀]
  · rcases hreply with hreply | ⟨error, herror, rfl, hopcode, -⟩
    · exact .inl hreply
    · exact .inr ⟨statusCode_ne_zero herror, hopcode⟩

/-- Handling a command passes on one buffer, the response to the command's result. -/
theorem handlePdu_passes (hoctet : w.lib.AppendsOctet) (cmd : Pdu) (s : Daemon) :
    Ensures (Io.handlePdu w services cmd) s fun _ t => ∃ wbuf status u,
      (s.logged cmd).Passes t wbuf ∧ ¬wbuf.pdu.IsNotification ∧ cmd.AnsweredBy status wbuf.pdu ∧
      Io.serve w services (s.logged cmd) cmd (s.logged cmd) = .ok (status, u) := by
  refine (handlePdu_replies cmd s).mono ?_
  rintro _ t ⟨wbuf, status, u, hpass, hserve, -, hresponse, hservice, hreply⟩
  refine ⟨wbuf, status, u, hpass, hresponse, ?_, hserve⟩
  rcases hreply with ⟨hzero, hopcode⟩ | ⟨error, herror, hstatus, hopcode, hpayload⟩
  · exact .inl ⟨hzero, hservice, hopcode⟩
  · refine .inr ⟨error, herror, hstatus, ?_⟩
    rw [← hservice, ← hopcode, ← hpayload hoctet]

/-! ### Runs -/

/-- The responses passed to the send queue, oldest first. -/
def Daemon.responses (s : Daemon) : List Wbuf :=
  (passedWbufs s.io.log).filter fun wbuf => ¬wbuf.pdu.IsNotification

/-- The responses answer the commands one by one, and what else was passed on or
waits in a task has the opcode of a notification. -/
structure Daemon.Answered (s : Daemon) : Prop where
  answers : List.Forall₂ (fun cmd wbuf => ∃ status, cmd.AnsweredBy status wbuf.pdu)
    (handledPdus s.io.log) s.responses
  notifications : ∀ wbuf ∈ passedWbufs s.io.log, wbuf.pdu.IsNotification →
    wbuf.pdu.opcode ∈ notificationOpcodes
  tasks : ∀ wbuf ∈ s.tasks, wbuf.pdu.opcode ∈ notificationOpcodes

theorem isNotification_of_opcode {pdu : Pdu} (h : pdu.opcode ∈ notificationOpcodes) :
    pdu.IsNotification := by
  have hall : ∀ opcode ∈ notificationOpcodes, 0x80 ≤ opcode.toNat := by decide +kernel
  exact hall _ h

namespace Daemon.Answered

variable {s t : Daemon}

theorem of_traffic (hs : s.Answered) (h : t.traffic = s.traffic) : t.Answered := by
  obtain ⟨hpassed, hhandled, htasks⟩ := Daemon.traffic_eq_iff.mp h
  refine ⟨?_, ?_, ?_⟩
  · rw [responses, hpassed, hhandled]
    exact hs.answers
  · rw [hpassed]
    exact hs.notifications
  · rw [htasks]
    exact hs.tasks

/-- A command is handled and its response is passed on. -/
theorem respond (hs : s.Answered) {cmd : Pdu} {wbuf : Wbuf} {status : Int32}
    (hpass : (s.logged cmd).Passes t wbuf) (hresponse : ¬wbuf.pdu.IsNotification)
    (hanswer : cmd.AnsweredBy status wbuf.pdu) : t.Answered := by
  obtain ⟨hpassed, hhandled, htasks⟩ := Daemon.logged_passes hpass
  refine ⟨?_, ?_, ?_⟩
  · rw [responses, hpassed, hhandled, List.filter_append]
    refine List.rel_append hs.answers ?_
    rw [List.filter_cons_of_pos (by simpa using hresponse), List.filter_nil]
    exact .cons ⟨status, hanswer⟩ .nil
  · rw [hpassed]
    intro other hother hnotify
    rcases List.mem_append.mp hother with hother | hother
    · exact hs.notifications other hother hnotify
    · rw [List.mem_singleton.mp hother] at hnotify
      exact absurd hnotify hresponse
  · rw [htasks]
    exact hs.tasks

/-- A notification is passed on. -/
theorem notify (hs : s.Answered) {wbuf : Wbuf} (hpass : s.Passes t wbuf)
    (hopcode : wbuf.pdu.opcode ∈ notificationOpcodes) : t.Answered := by
  obtain ⟨hpassed, hhandled, htasks⟩ := Daemon.traffic_eq_iff.mp hpass
  refine ⟨?_, ?_, ?_⟩
  · rw [responses, hpassed, hhandled, List.filter_append]
    have hnone : [wbuf].filter (fun wbuf => ¬wbuf.pdu.IsNotification) = [] := by
      simpa using isNotification_of_opcode hopcode
    rw [hnone, List.append_nil]
    exact hs.answers
  · rw [hpassed]
    intro other hother hnotify
    rcases List.mem_append.mp hother with hother | hother
    · exact hs.notifications other hother hnotify
    · rwa [List.mem_singleton.mp hother]
  · rw [htasks]
    exact hs.tasks

theorem notified (hs : s.Answered) (h : Notified s t) : t.Answered := by
  cases h with
  | ignored => exact hs
  | noMemory | unfilled | rejected => exact hs.of_traffic rfl
  | queued capacity oks result wbuf hid hservice hopcode =>
    refine ⟨hs.answers, hs.notifications, fun other hother => ?_⟩
    rcases List.mem_append.mp hother with hother | hother
    · exact hs.tasks other hother
    · rwa [List.mem_singleton.mp hother]

end Daemon.Answered

/-- A task passes on its notification, unless the service is gone. -/
theorem sendNtfPdu_passes (wbuf : Wbuf) (s : Daemon) :
    Ensures (DtvIo.sendNtfPdu w wbuf) s fun _ t => t = s ∨ s.Passes t wbuf := by
  unfold DtvIo.sendNtfPdu
  rw [ensures_bind, ensures_get, ensures_ite]
  refine ⟨fun _ => ensures_pure.mpr (.inl rfl), fun _ => ?_⟩
  rw [ensures_bind]
  exact (DtvIo.sendPdu_passes wbuf s).mono fun _ t ht => ensures_pure.mpr (.inr ht)

theorem runTask_answered (idx : ℕ) : Preserves Daemon.Answered (Daemon.runTask w idx) := by
  intro s hs
  rw [Daemon.runTask, ensures_bind, ensures_get]
  cases htask : s.tasks[idx]? with
  | none => exact ensures_pure.mpr hs
  | some wbuf =>
    have hopcode := hs.tasks wbuf (List.mem_of_getElem? htask)
    have htaken : Daemon.Answered { s with tasks := s.tasks.eraseIdx idx } :=
      ⟨hs.answers, hs.notifications, fun other hother => hs.tasks other (List.mem_of_mem_eraseIdx hother)⟩
    rw [ensures_bind]
    refine ensures_modify.mpr ((sendNtfPdu_passes wbuf _).mono fun _ t ht => ?_)
    rcases ht with rfl | ht
    · exact htaken
    · exact htaken.notify ht hopcode

theorem Daemon.Answered.step {s t : Daemon} {input : Input} (hoctet : w.lib.AppendsOctet)
    (hs : s.Answered) (hstep : Daemon.Step w s input t) : t.Answered := by
  obtain ⟨v, heffect, hsame, heq⟩ := hstep.effective
  have htraffic : t.traffic = v.traffic := by
    have htasks : t.tasks = v.tasks := by rw [heq]
    exact Prod.ext hsame htasks
  suffices v.Answered from this.of_traffic htraffic
  cases heffect with
  | idle => exact hs
  | event event _ hrun => exact hs.of_traffic (keeps_traffic_onEnv _ _ _ _ hrun)
  | notified _ hv => exact hs.notified hv
  | task idx _ hrun => exact runTask_answered idx s hs _ _ hrun
  | @command cmd u _ _ hu hrun =>
    obtain ⟨_, _, _, hpass, hresponse, hanswer, _⟩ := handlePdu_passes hoctet cmd u _ _ hrun
    have hanswered : u.Answered := by
      rw [hu.2]
      exact hs.of_traffic (congrArg (·, s.tasks) hu.1)
    exact hanswered.respond hpass hresponse hanswer

/-- Connecting passes nothing on and handles nothing. -/
theorem Daemon.Connected.traffic {s : Daemon} (h : Daemon.Connected w s) :
    s.traffic = (([], []), []) := by
  obtain ⟨fd, rbuf, result, -, -, rfl⟩ := h.eq
  rfl

theorem Daemon.Connected.answered {s : Daemon} (h : Daemon.Connected w s) : s.Answered := by
  obtain ⟨hpassed, hhandled, htasks⟩ := Daemon.traffic_eq_iff.mp h.traffic
  refine ⟨?_, ?_, ?_⟩
  · rw [Daemon.responses, hpassed, hhandled]
    exact .nil
  · rw [hpassed]
    intro wbuf hwbuf
    cases hwbuf
  · rw [htasks]
    intro wbuf hwbuf
    cases hwbuf

theorem Daemon.Reachable.answered (hoctet : w.lib.AppendsOctet) {s : Daemon}
    (h : Daemon.Reachable w s) : s.Answered := by
  obtain ⟨s₀, hs₀, hreach⟩ := h
  exact hreach.invariant (fun a input b hstep ha => ha.step hoctet hstep) hs₀.answered

/-- In every reachable state, a command that is handled passes on exactly one buffer,
the response to what its service returned, and so far the k-th response answers the
k-th command; whatever else was passed on is a notification. -/
theorem responses_answer_commands (hoctet : w.lib.AppendsOctet) {s : Daemon}
    (hreach : Daemon.Reachable w s) :
    (∀ cmd, Ensures (Io.handlePdu w (.inTree w) cmd) s fun _ t => ∃ wbuf status u,
      passedWbufs t.io.log = passedWbufs s.io.log ++ [wbuf] ∧ ¬wbuf.pdu.IsNotification ∧
      cmd.AnsweredBy status wbuf.pdu ∧
      Io.serve w (.inTree w) (s.logged cmd) cmd (s.logged cmd) = .ok (status, u)) ∧
    List.Forall₂ (fun cmd wbuf => ∃ status, cmd.AnsweredBy status wbuf.pdu)
      (handledPdus s.io.log) s.responses ∧
    ∀ wbuf ∈ passedWbufs s.io.log, wbuf.pdu.IsNotification →
      wbuf.pdu.opcode ∈ notificationOpcodes := by
  refine ⟨fun cmd => (handlePdu_passes hoctet cmd s).mono ?_, (hreach.answered hoctet).answers,
    (hreach.answered hoctet).notifications⟩
  rintro _ t ⟨wbuf, status, u, hpass, hresponse, hanswer, hserve⟩
  exact ⟨wbuf, status, u, (Daemon.logged_passes hpass).1, hresponse, hanswer, hserve⟩

theorem responses_answer_tunerAvailable :
    List.Forall₂ (fun (cmd : Pdu) wbuf => ∃ status, cmd.AnsweredBy status wbuf.pdu) [⟨0, 1, [1]⟩]
      (tunerAvailable steadyDriver).responses := by
  have hhandled : handledPdus (tunerAvailable steadyDriver).io.log = [⟨0, 1, [1]⟩] := by decide +kernel
  rw [← hhandled]
  exact (responses_answer_commands Lib.reference_documented.appendsOctet tunerAvailable_reachable).2.1

end Tvd

import Tvd.Io.Queue
import Tvd.Model.Daemon
import Tvd.Service.Handlers

/-! One reply for each command. A handler whose result is zero has passed one
buffer to the send queue, with the service and the opcode of the command; one that
returns a code has passed none, and `handle_pdu` passes the error reply for it. -/

namespace Tvd

open Exec

/-! ### Traffic -/

/-- What was passed to the send queue, and the commands that were handled. -/
def IoState.traffic (s : IoState) : List Wbuf × List Pdu := (passedWbufs s.log, handledPdus s.log)

/-- The traffic of the connection, and the notifications queued for it. -/
def Daemon.traffic (s : Daemon) : (List Wbuf × List Pdu) × List Wbuf := (s.io.traffic, s.tasks)

theorem Daemon.traffic_eq_iff {s : Daemon} {passed : List Wbuf} {handled : List Pdu} {tasks : List Wbuf} :
    s.traffic = ((passed, handled), tasks) ↔
      passedWbufs s.io.log = passed ∧ handledPdus s.io.log = handled ∧ s.tasks = tasks := by
  rw [traffic, IoState.traffic, Prod.mk.injEq, Prod.mk.injEq, and_assoc]

/-- The traffic once a buffer was passed on. -/
def Daemon.Passes (s t : Daemon) (wbuf : Wbuf) : Prop :=
  t.traffic = ((passedWbufs s.io.log ++ [wbuf], handledPdus s.io.log), s.tasks)

variable {w : World} {α : Type}

theorem Daemon.Passes.of_traffic {s t u : Daemon} {wbuf : Wbuf} (h : t.traffic = s.traffic)
    (hu : t.Passes u wbuf) : s.Passes u wbuf := by
  obtain ⟨hpassed, hhandled, htasks⟩ := Daemon.traffic_eq_iff.mp h
  unfold Daemon.Passes at hu ⊢
  rwa [hpassed, hhandled, htasks] at hu

/-- What is said of a buffer that was passed on holds of the only one. -/
theorem exists_passed_iff {s t : Daemon} {wbuf : Wbuf} {P : Wbuf → Prop}
    (hpassed : passedWbufs t.io.log = passedWbufs s.io.log ++ [wbuf]) :
    (∃ wbuf', passedWbufs t.io.log = passedWbufs s.io.log ++ [wbuf'] ∧ P wbuf') ↔ P wbuf := by
  constructor
  · rintro ⟨wbuf', hpassed', h⟩
    rw [hpassed, List.append_cancel_left_eq, List.cons.injEq] at hpassed'
    obtain ⟨rfl, -⟩ := hpassed'
    exact h
  · exact fun h => ⟨wbuf, hpassed, h⟩

theorem keeps_traffic_onPdus (m : PduM α) : Keeps Daemon.traffic (onPdus m) :=
  keeps_zoom (fun _ _ => rfl) m

theorem keeps_traffic_onEnv (m : EnvM α) : Keeps Daemon.traffic (onEnv m) :=
  keeps_zoom (fun _ _ => rfl) m

theorem keeps_traffic_onDtv (m : DtvM α) : Keeps Daemon.traffic (onDtv m) :=
  keeps_zoom (fun _ _ => rfl) m

theorem keeps_traffic_onIo {m : IoM α} (h : Keeps IoState.traffic m) :
    Keeps Daemon.traffic (onIo m) := by
  intro s
  rw [ensures_zoom]
  exact (h s.io).mono fun _ io hio => congrArg (·, s.tasks) hio

theorem keeps_traffic_logIo {event : IoEvent} (hpassed : event.passed = none)
    (hhandled : event.handled = none) : Keeps IoState.traffic (logIo event) := by
  refine keeps_modify fun s => ?_
  unfold IoState.traffic
  rw [passedWbufs_cons, handledPdus_cons, hpassed, hhandled, Option.toList_none, Option.toList_none,
    List.append_nil, List.append_nil]

section

variable {fdio : Fdio}

theorem keeps_traffic_drain : Keeps IoState.traffic (ioStateSendPendingWbufs fdio) :=
  fun s => (drain_logged _ _ s ⟨rfl, rfl⟩).mono fun _ _ ⟨hpassed, hhandled⟩ => Prod.ext hpassed hhandled

theorem keeps_traffic_stopWatching (event : UInt32) :
    Keeps IoState.traffic (stopWatching fdio event) := by
  refine Keeps.bind (keeps_modify fun _ => rfl) fun _ => (keeps_get _).bind fun s => .ite ?_ ?_
  · refine (keeps_get _).bind fun _ => ?_
    exact (keeps_traffic_logIo rfl rfl).bind fun _ => keeps_pure _ _
  · exact (keeps_traffic_logIo rfl rfl).bind fun _ => keeps_pure _ _

theorem keeps_traffic_ioStateOut : Keeps IoState.traffic (ioStateOut fdio) := by
  refine keeps_traffic_drain.bind fun _ => (keeps_get _).bind fun s => .ite ?_ (keeps_pure _ _)
  exact (keeps_traffic_stopWatching _).bind fun res => .ite (keeps_pure _ _) (keeps_pure _ _)

theorem keeps_traffic_closeConnection : Keeps IoState.traffic closeConnection := by
  refine (keeps_get _).bind fun s => Keeps.bind (keeps_modify fun _ => rfl) fun _ => ?_
  refine (keeps_traffic_logIo rfl rfl).bind fun _ => (keeps_traffic_logIo rfl rfl).bind fun _ => ?_
  exact keeps_modify fun _ => rfl

end

/-- Sending through a callback passes the buffer on. -/
theorem call_passes (wbuf : Wbuf) (cb : Option SendPdu) (s : Daemon) :
    Ensures (SendPdu.call w wbuf cb) s fun _ t => s.Passes t wbuf := by
  cases cb with
  | none => exact ensures_throw.mpr trivial
  | some cb =>
    cases cb
    rw [SendPdu.call, ensures_bind]
    refine ensures_zoom.mpr (ensures_modify.mpr ?_)
    rw [Io.sendPdu, ensures_bind, ensures_zoom]
    refine (ioStateSend_passes wbuf s.io).mono fun _ io hio => ensures_pure.mpr ?_
    exact congrArg (·, s.tasks) (Prod.ext hio.1 hio.2)

theorem DtvIo.sendPdu_passes (wbuf : Wbuf) (s : Daemon) :
    Ensures (DtvIo.sendPdu w wbuf) s fun _ t => s.Passes t wbuf := by
  rw [DtvIo.sendPdu, ensures_bind]
  exact ensures_get.mpr (call_passes wbuf _ s)

/-- With its callback set, sending returns. -/
theorem DtvIo.sendPdu_ok {s : Daemon} (hsend : s.dtv.sendPdu = some .sendPdu) (wbuf : Wbuf) :
    ∃ io, DtvIo.sendPdu w wbuf s = .ok ((), { s with pdus := .send wbuf.id :: s.pdus, io }) := by
  have havoids (e : Fault) : Avoids e (ioStateSend w.fdio wbuf) := avoids_ioStateSend e wbuf
  obtain ⟨res, io, hrun⟩ := exists_ok_of_avoids havoids s.io
  let s₁ : Daemon := { s with pdus := .send wbuf.id :: s.pdus }
  have hlog : onPdus (Exec.modify (PduOp.send wbuf.id :: ·)) s = .ok ((), s₁) := rfl
  have hio : onIo (ioStateSend w.fdio wbuf) s₁ = .ok (res, { s₁ with io }) := zoom_ok hrun
  refine ⟨io, ?_⟩
  rw [DtvIo.sendPdu, get_bind_apply, hsend, SendPdu.call, bind_ok hlog, Io.sendPdu, bind_ok hio]
  rfl

/-- A reply that could be filled is sent. -/
theorem DtvIo.reply_ok {s : Daemon} (hsend : s.dtv.sendPdu = some .sendPdu) {cmd : Pdu}
    {wbuf filled : Wbuf} {fill : DtvIo.Fill} {log : List PduOp}
    (hfill : fill (wbuf.initPdu cmd.service cmd.opcode) s.pdus = .ok (some filled, log))
    (release : List HeapOp) : ∃ t, DtvIo.reply w cmd (some wbuf) fill release s = .ok (errorNone, t) ∧
      passedWbufs t.io.log = passedWbufs s.io.log ++ [filled] ∧ t.pdus = .send filled.id :: log := by
  obtain ⟨io, hrun⟩ := sendPdu_ok (w := w) (s := { s with pdus := log }) hsend filled
  obtain ⟨hpass, -⟩ := Daemon.traffic_eq_iff.mp (sendPdu_passes (w := w) filled _ _ _ hrun)
  have hfill' : onPdus (fill (wbuf.initPdu cmd.service cmd.opcode)) s =
      .ok (some filled, { s with pdus := log }) := zoom_ok hfill
  obtain ⟨env, hrelease⟩ : ∃ env, onHeap (heapOps release) s.dtv.env = .ok ((), env) := ⟨_, rfl⟩
  let u : Daemon := { s with pdus := .send filled.id :: log, io }
  have hrelease' : onEnv (onHeap (heapOps release)) u = .ok ((), { u with dtv := { u.dtv with env } }) :=
    zoom_ok hrelease
  refine ⟨{ u with dtv := { u.dtv with env } }, ?_, hpass, rfl⟩
  rw [DtvIo.reply, bind_ok hfill']
  dsimp only
  rw [bind_ok hrun, bind_ok hrelease']
  rfl

theorem Registry.sendPdu_passes (wbuf : Wbuf) (s : Daemon) :
    Ensures (Registry.sendPdu w wbuf) s fun _ t => s.Passes t wbuf := by
  rw [Registry.sendPdu, ensures_bind]
  exact ensures_get.mpr (call_passes wbuf _ s)

/-! ### Handlers -/

/-- Code that handles the command: it returns zero and has passed on one buffer with
the command's service and opcode, or returns a code and has passed on none. -/
def Answers (cmd : Pdu) (m : DaemonM Int32) : Prop :=
  ∀ s, Ensures m s fun status t =>
    (status = 0 ∧ ∃ wbuf, s.Passes t wbuf ∧ wbuf.pdu.service = cmd.service ∧
      wbuf.pdu.opcode = cmd.opcode) ∨
    (IsCode status ∧ t.traffic = s.traffic)

section

variable {cmd : Pdu}

/-- Code that leaves the traffic alone comes before code that answers. -/
theorem Answers.bind_of {Q : α → Prop} {p : DaemonM α} {f : α → DaemonM Int32}
    (hp : Keeps Daemon.traffic p) (hQ : ∀ s, Ensures p s fun a _ => Q a)
    (hf : ∀ a, Q a → Answers cmd (f a)) : Answers cmd (p >>= f) := by
  intro s
  rw [ensures_bind]
  refine ((hp s).and (hQ s)).mono fun a t ⟨ht, ha⟩ => (hf a ha t).mono fun status u hu => ?_
  rcases hu with ⟨hzero, wbuf, hpass, hheader⟩ | ⟨hcode, hkeep⟩
  · exact .inl ⟨hzero, wbuf, hpass.of_traffic ht, hheader⟩
  · exact .inr ⟨hcode, hkeep.trans ht⟩

theorem Answers.bind {p : DaemonM α} {f : α → DaemonM Int32} (hp : Keeps Daemon.traffic p)
    (hf : ∀ a, Answers cmd (f a)) : Answers cmd (p >>= f) :=
  bind_of hp (fun _ _ _ _ => trivial) fun a _ => hf a

theorem Answers.ite {c : Prop} [Decidable c] {p q : DaemonM Int32} (hp : c → Answers cmd p)
    (hq : ¬c → Answers cmd q) : Answers cmd (if c then p else q) := by
  by_cases hc : c
  · rw [if_pos hc]
    exact hp hc
  · rw [if_neg hc]
    exact hq hc

theorem Answers.code {status : Int32} (h : IsCode status) : Answers cmd (pure status) :=
  fun _ => ensures_pure.mpr (.inr ⟨h, rfl⟩)

theorem Answers.throw (e : Fault) : Answers cmd (Exec.throw e) := fun _ => ensures_throw.mpr trivial

/-- The reply is sent, and what comes after it leaves the traffic alone. -/
theorem Answers.sent {wbuf : Wbuf} {send : DaemonM Unit}
    (hsend : ∀ s, Ensures send s fun _ t => s.Passes t wbuf) (hservice : wbuf.pdu.service = cmd.service)
    (hopcode : wbuf.pdu.opcode = cmd.opcode) {rest : DaemonM Unit}
    (hrest : Keeps Daemon.traffic rest) :
    Answers cmd (do send; rest; return errorNone) := by
  intro s
  rw [ensures_bind]
  refine (hsend s).mono fun _ t ht => ?_
  rw [ensures_bind]
  refine (hrest t).mono fun _ u hu => ensures_pure.mpr ?_
  exact .inl ⟨rfl, wbuf, hu.trans ht, hservice, hopcode⟩

end

/-! ### The commands -/

namespace DtvIo

theorem reply_answers {cmd : Pdu} {fill : Fill} (hfill : Proper fill) (wbuf : Option Wbuf)
    (release : List HeapOp) : Answers cmd (reply w cmd wbuf fill release) := by
  cases wbuf with
  | none => exact .code isCode_errorNomem
  | some wbuf =>
    have hheader (s : Daemon) : Ensures (onPdus (fill (wbuf.initPdu cmd.service cmd.opcode))) s
        fun r _ => ∀ filled, r = some filled →
          filled.pdu.service = cmd.service ∧ filled.pdu.opcode = cmd.opcode :=
      ensures_zoom.mpr ((hfill.same _ _).mono fun _ _ hsame filled hr => (hsame filled hr).2)
    refine .bind_of (keeps_traffic_onPdus _) hheader fun r hr => ?_
    cases r with
    | none =>
      refine .bind (keeps_traffic_onEnv _) fun _ => .bind (keeps_traffic_onPdus _) fun _ => ?_
      exact .code isCode_errorNomem
    | some filled =>
      obtain ⟨hservice, hopcode⟩ := hr filled rfl
      exact .sent (sendPdu_passes filled) hservice hopcode (keeps_traffic_onEnv _)

/-- Every DTV command is answered. -/
theorem dtvHandler_answers (cmd : Pdu) : Answers cmd (dtvHandler w cmd) := by
  have hrules : HandlerRules w cmd (Answers cmd) :=
    { api := fun _ hf => .bind (keeps_traffic_onEnv _) hf
      heap := fun _ hf => .bind (keeps_traffic_onEnv _) hf
      size := fun _ hf => .bind (keeps_lift _ _) hf
      code := fun h => .code h
      indeterminate := .throw _
      reply := fun _ _ hfill => .bind (keeps_traffic_onPdus _) fun wbuf => reply_answers hfill wbuf _
      sourceReply := fun _ =>
        .bind (keeps_traffic_onPdus _) fun wbuf => reply_answers (proper_fillSource _) wbuf _ }
  exact hrules.dtvHandler

end DtvIo

namespace Registry

variable {services : Services} (cmd : Pdu)

theorem registerModule_answers : Answers cmd (registerModule w services cmd) := by
  unfold registerModule
  split
  · exact .code isCode_errorParmInvalid
  refine .bind (keeps_get _) fun s => .ite (fun _ => .code isCode_errorFail) fun _ => ?_
  split
  · exact .code isCode_errorFail
  refine .bind (keeps_traffic_onPdus _) fun wbuf => ?_
  cases wbuf with
  | none => exact .code isCode_errorNomem
  | some wbuf =>
  have hfail (wbuf : Wbuf) : Answers cmd (do onPdus (destroyPduWbuf wbuf); return errorFail) :=
    .bind (keeps_traffic_onPdus _) fun _ => .code isCode_errorFail
  refine .bind (keeps_traffic_onDtv _) fun handler => ?_
  cases handler with
  | none => exact hfail wbuf
  | some handler =>
  refine .bind (keeps_modify fun _ => rfl) fun _ => ?_
  have hheader (s : Daemon) : Ensures (onPdus (appendToPdu w.lib (wbuf.initPdu cmd.service cmd.opcode)
      [.I] [.int protocolVersion])) s fun r _ => ∀ filled, r = some filled →
        filled.pdu.service = cmd.service ∧ filled.pdu.opcode = cmd.opcode :=
    ensures_zoom.mpr (((Proper.args _ _).same _ _).mono fun _ _ hsame filled hr => (hsame filled hr).2)
  refine .bind_of (keeps_traffic_onPdus _) hheader fun r hr => ?_
  cases r with
  | none => exact hfail _
  | some filled =>
    obtain ⟨hservice, hopcode⟩ := hr filled rfl
    exact .sent (sendPdu_passes filled) hservice hopcode (keeps_pure _ ())

theorem unregisterModule_answers : Answers cmd (unregisterModule w services cmd) := by
  unfold unregisterModule
  split
  · exact .code isCode_errorParmInvalid
  refine .bind (keeps_traffic_onPdus _) fun wbuf => ?_
  cases wbuf with
  | none => exact .code isCode_errorNomem
  | some wbuf =>
  have hfail : Answers cmd (do onPdus (destroyPduWbuf wbuf); return errorFail) :=
    .bind (keeps_traffic_onPdus _) fun _ => .code isCode_errorFail
  refine .ite (fun _ => hfail) fun _ => ?_
  split
  · exact hfail
  refine .bind (keeps_traffic_onDtv _) fun result => .ite (fun _ => hfail) fun _ => ?_
  refine .bind (keeps_modify fun _ => rfl) fun _ => ?_
  exact .sent (sendPdu_passes _) rfl rfl (keeps_pure _ ())

theorem registryHandler_answers : Answers cmd (registryHandler w services cmd) :=
  registryHandler_rule (.code isCode_errorUnsupported) (registerModule_answers cmd) (unregisterModule_answers cmd)

end Registry

end Tvd

import Tvd.Exec.Acceptor
import Tvd.Service.Packets

/-! Delivery over whole runs. Whatever happens in between, and also once the connection
is closed, what left the queue and what is still in it are together what was passed on, and
something is queued only because the socket would not take the first of it. So the
responses that left the queue answer the PDUs in the packets received one by one, in
order, and the responses queued answer the rest. A response leaves the queue for the
socket, or for nowhere if the attempt to send it fails, as it does once the connection is
closed; where the open socket does not fail, all are on it that left before the close. -/

namespace Tvd

open Exec

variable {w : World} {fdio : Fdio} {J : IoState → Prop}

/-- What closing the connection keeps as well, every step keeps. -/
theorem IoInvariant.always (h : IoInvariant w J) (hclose : Preserves J closeConnection) (input : Input) :
    Preserves (fun s : Daemon => J s.io) (Daemon.step w input) := by
  have hclosed (result : IoResult) : Preserves (fun s : Daemon => J s.io)
      (do onIo closeConnection; return result) :=
    (preserves_io hclose).bind fun _ => preserves_pure _ _
  have hcallback : Preserves (fun s : Daemon => J s.io) (Daemon.callback w input) := by
    by_cases herr : input = .err
    · rw [herr]
      exact hclosed .poll
    by_cases hhup : input = .hup
    · rw [hhup]
      exact hclosed .exit
    exact h.callback herr hhup
  refine hcallback.bind fun result => .ite ?_ (preserves_pure _ _)
  exact preserves_modify fun _ hs => hs

/-! ### Nothing is lost when the connection is closed -/

theorem lossless_invariant : IoInvariant w IoState.Lossless where
  send := lossless_ioStateSend
  out := lossless_ioStateOut
  stop := lossless_watch.stopWatching _
  recv _ hs := hs.log ⟨rfl, rfl, rfl⟩
  handle _ _ hs := hs.log ⟨rfl, rfl, rfl⟩
  rbuf _ _ _ hs := ⟨hs.fifo, hs.destroyed, hs.ordered⟩

theorem lossless_closeConnection : Preserves IoState.Lossless closeConnection := by
  intro s hs _ t hrun
  cases hrun
  have hremoved : IoState.Lossless { s with log := .removeFd s.fd :: s.log } := hs.log ⟨rfl, rfl, rfl⟩
  have hclosed : IoState.Lossless { s with log := .close s.fd :: .removeFd s.fd :: s.log } :=
    hremoved.log ⟨rfl, rfl, rfl⟩
  exact ⟨hclosed.fifo, hclosed.destroyed, hclosed.ordered⟩

/-! ### Nothing is held back -/

/-- The attempt to send that an event records, with the result. -/
def IoEvent.attempt : IoEvent → Option (Wbuf × Int32)
  | .sendPduWbuf _ wbuf result => some (wbuf, result)
  | _ => none

/-- The last attempt to send. -/
def lastAttempt (log : List IoEvent) : Option (Wbuf × Int32) := log.findSome? IoEvent.attempt

/-- If something is queued, then it was tried last to send the first of it, and the socket
would have blocked. -/
def IoState.Blocked (s : IoState) : Prop :=
  ∀ wbuf sendq, s.sendq = wbuf :: sendq → lastAttempt s.log = some (wbuf, 0)

theorem lastAttempt_cons {event : IoEvent} (h : event.attempt = none) (log : List IoEvent) :
    lastAttempt (event :: log) = lastAttempt log := by
  simp [lastAttempt, h]

theorem IoState.Blocked.logged {s : IoState} (hs : s.Blocked) {event : IoEvent} (h : event.attempt = none) :
    IoState.Blocked { s with log := event :: s.log } := by
  intro wbuf sendq hsendq
  rw [lastAttempt_cons h]
  exact hs wbuf sendq hsendq

/-- Sending what is pending ends with an empty queue or with a socket that would block. -/
theorem sendPending_blocked : ∀ (n : ℕ) (s : IoState), s.sendq.length ≤ n →
    Ensures (sendPending fdio n) s fun _ t => t.Blocked
  | 0, s, hn => by
    refine ensures_pure.mpr fun wbuf sendq hsendq => ?_
    rw [hsendq] at hn
    exact absurd hn (Nat.not_succ_le_zero _)
  | n + 1, s, hn => by
    rw [sendPending, ensures_bind, ensures_get]
    cases hq : s.sendq with
    | nil =>
      refine ensures_pure.mpr fun wbuf sendq hsendq => ?_
      rw [hq] at hsendq
      cases hsendq
    | cons wbuf sendq =>
      rw [ensures_bind]
      intro result t ht
      cases ht
      rw [ensures_ite]
      constructor
      · intro hzero
        rw [hzero]
        refine ensures_pure.mpr fun first rest hfirst => ?_
        rw [hq] at hfirst
        cases hfirst
        rfl
      · intro _
        rw [ensures_bind]
        refine ensures_modify.mpr (ensures_bind.mpr (ensures_modify.mpr ?_))
        refine sendPending_blocked n _ ?_
        rw [hq, List.length_cons] at hn
        exact Nat.le_of_succ_le_succ hn

theorem drain_blocked (P : IoState → Prop) : Leads P IoState.Blocked (ioStateSendPendingWbufs fdio) := by
  intro s _
  rw [ioStateSendPendingWbufs, ensures_bind, ensures_get]
  exact sendPending_blocked _ s le_rfl

theorem blocked_watch : WatchInvariant IoState.Blocked where
  added _ _ _ hs := hs.logged rfl
  removed _ hs := hs.logged rfl
  epollEvents _ _ hs := hs

theorem blocked_invariant : IoInvariant w IoState.Blocked where
  send _ _ _ := blocked_watch.ioStateSend (drain_blocked fun _ => True) trivial
  out := blocked_watch.ioStateOut (drain_blocked _)
  stop := blocked_watch.stopWatching _
  recv _ hs := hs.logged rfl
  handle _ _ hs := hs.logged rfl
  rbuf _ _ _ hs := hs

theorem blocked_closeConnection : Preserves IoState.Blocked closeConnection := by
  intro s hs _ t hrun
  cases hrun
  have hremoved : IoState.Blocked { s with log := .removeFd s.fd :: s.log } := hs.logged rfl
  have hclosed : IoState.Blocked { s with log := .close s.fd :: .removeFd s.fd :: s.log } := hremoved.logged rfl
  exact hclosed

/-! ### What becomes of an attempt -/

/-- The buffer that an attempt to send took off the queue, and whether it is on the socket:
the attempt was made while the descriptor was open, and did not fail. -/
def IoEvent.outcome : IoEvent → Option (Wbuf × Bool)
  | .sendPduWbuf fd wbuf result => if result ≠ 0 then some (wbuf, decide (fd ≠ -1 ∧ 0 < result.toInt)) else none
  | _ => none

/-- What left the queue, oldest first. -/
def outcomes (log : List IoEvent) : List (Wbuf × Bool) := log.reverse.filterMap IoEvent.outcome

theorem outcomes_fst (log : List IoEvent) : (outcomes log).map Prod.fst = sentWbufs log := by
  rw [outcomes, List.map_filterMap, sentWbufs]
  congr 1
  funext event
  cases event with
  | sendPduWbuf fd wbuf result =>
    by_cases hresult : result = 0
    · simp [IoEvent.outcome, IoEvent.sent, hresult]
    · simp [IoEvent.outcome, IoEvent.sent, hresult]
  | handlePdu | ioStateSend | destroyPduWbuf | recvmsg | addFdEvents | removeFd | close => rfl

theorem outcomes_cons (event : IoEvent) (log : List IoEvent) :
    outcomes (event :: log) = outcomes log ++ event.outcome.toList := filterMap_reverse_cons event log _

/-- The socket takes a PDU or would block, as long as it is open. -/
def Fdio.NeverFails (fdio : Fdio) : Prop :=
  ∀ log fd wbuf, fd ≠ -1 → 0 ≤ (fdio.sendPduWbuf log fd wbuf).toInt

/-- The attempts that failed came after all others, and none did while the connection is
open. -/
def IoState.Divided (s : IoState) : Prop :=
  ∃ sent failed : List Wbuf, outcomes s.log = sent.map (·, true) ++ failed.map (·, false) ∧
    (s.fd ≠ -1 → failed = [])

theorem IoState.Divided.logged {s : IoState} (hs : s.Divided) (event : IoEvent) (h : event.outcome = none) :
    IoState.Divided { s with log := event :: s.log } := by
  obtain ⟨sent, failed, houtcomes, hopen⟩ := hs
  refine ⟨sent, failed, ?_, hopen⟩
  rw [outcomes_cons, h, Option.toList_none, List.append_nil, houtcomes]

/-- An attempt that does not block is with those on the socket, or with those that failed. -/
theorem IoState.Divided.sent {s : IoState} (hs : s.Divided) (hfails : fdio.NeverFails) {wbuf : Wbuf}
    {result : Int32} (hresult : fdio.sendPduWbuf s.log s.fd wbuf = result) (hne : result ≠ 0) :
    IoState.Divided { s with log := .sendPduWbuf s.fd wbuf result :: s.log } := by
  obtain ⟨sent, failed, houtcomes, hopen⟩ := hs
  by_cases hfd : s.fd = -1
  · refine ⟨sent, failed ++ [wbuf], ?_, fun h => absurd hfd h⟩
    rw [outcomes_cons, houtcomes, IoEvent.outcome, if_pos hne, hfd]
    simp
  · have hpos : 0 < result.toInt := by
      have hnonneg := hresult ▸ hfails s.log s.fd wbuf hfd
      refine lt_of_le_of_ne hnonneg fun hzero => hne ?_
      exact Int32.toInt_inj.mp hzero.symm
    refine ⟨sent ++ [wbuf], [], ?_, fun _ => rfl⟩
    rw [outcomes_cons, houtcomes, hopen hfd, IoEvent.outcome, if_pos hne]
    simp [hfd, hpos]

theorem divided_drain (hfails : fdio.NeverFails) : Preserves IoState.Divided (ioStateSendPendingWbufs fdio) := by
  refine ioStateSendPendingWbufs_preserves (fun _ _ hs => hs.logged _ rfl) ?_
  intro s wbuf sendq result _ hresult hne hs
  exact (hs.sent hfails hresult hne).logged (.destroyPduWbuf wbuf) rfl

theorem divided_watch : WatchInvariant IoState.Divided where
  added _ _ _ hs := hs.logged _ rfl
  removed _ hs := hs.logged _ rfl
  epollEvents _ _ hs := hs

theorem divided_invariant (hfails : w.fdio.NeverFails) : IoInvariant w IoState.Divided where
  send wbuf _ hs := divided_watch.ioStateSend (divided_drain hfails) (hs.logged (.ioStateSend wbuf) rfl)
  out := divided_watch.ioStateOut (divided_drain hfails)
  stop := divided_watch.stopWatching _
  recv _ hs := hs.logged _ rfl
  handle _ _ hs := hs.logged _ rfl
  rbuf _ _ _ hs := hs

theorem divided_closeConnection : Preserves IoState.Divided closeConnection := by
  intro s hs _ t hrun
  cases hrun
  have hremoved : IoState.Divided { s with log := .removeFd s.fd :: s.log } := hs.logged _ rfl
  obtain ⟨sent, failed, houtcomes, -⟩ := hremoved.logged (.close s.fd) rfl
  exact ⟨sent, failed, houtcomes, fun h => absurd rfl h⟩

/-! ### Every packet -/

/-- The loop answers with zero, or with a negative number if it fails. -/
def Fdio.Reports (fdio : Fdio) : Prop :=
  ∀ log fd events, (fdio.addFdEventsToEpollLoop log fd events).toInt ≤ 0

theorem stopWatching_reports (hreports : fdio.Reports) (event : UInt32) (s : IoState) :
    Ensures (stopWatching fdio event) s fun res t => res.toInt ≤ 0 ∧ t.inbound = s.inbound := by
  refine Ensures.and ?_ (keeps_inbound_stopWatching event s)
  rw [stopWatching, ensures_bind]
  refine ensures_modify.mpr ?_
  rw [ensures_bind, ensures_get, ensures_ite]
  constructor
  · intro _ res t hrun
    cases hrun
    exact hreports _ _ _
  · intro _ res t hrun
    cases hrun
    exact le_rfl

section

variable {o : ByteOrder} {maxlen : ℕ} {s t : Daemon} {input : Input}

theorem framePdu_nil : framePdu o maxlen [] = none := by
  simp [framePdu]

/-- The log of an attempt to receive. -/
def IoState.recvmsg (s : IoState) : IoState := { s with log := .recvmsg s.fd :: s.log }

theorem inbound_recvmsg (s : IoState) : s.recvmsg.inbound = s.inbound := inbound_log s rfl

theorem stateIn_none {rbuf : Rbuf} (hrbuf : s.io.rbuf = some rbuf) :
    Io.stateIn w none s = .ok (-1, { s with io := s.io.recvmsg }) := by
  have hget : zoom Daemon.ioLens (Exec.get : IoM IoState) s = .ok (s.io, s) := zoom_ok (get_apply _)
  have hlog : zoom Daemon.ioLens (logIo (.recvmsg s.io.fd)) s = .ok ((), { s with io := s.io.recvmsg }) :=
    zoom_ok rfl
  rw [Io.stateIn, ioStateIn, bind_ok hget, hrbuf]
  exact bind_ok hlog _

/-- When the peer hung up, reading ends and nothing is handled, whatever the receive
buffer holds. -/
theorem stateIn_nil (hframes : w.lib.Frames o) (hreports : w.fdio.Reports) {rbuf : Rbuf}
    (hrbuf : s.io.rbuf = some rbuf) (hroom : 4 + pduMaxDataLength ≤ rbuf.maxlen) :
    Ensures (Io.stateIn w (some [])) s fun _ t => ∃ res io rbuf',
      stopWatching w.fdio epollIn s.io.recvmsg = .ok (res, io) ∧ rbuf'.maxlen = rbuf.maxlen ∧
        t = { s with io := { io with rbuf := some rbuf' } } := by
  have hrbuf' : (Daemon.ioLens.get s).rbuf = some rbuf := hrbuf
  rw [Io.stateIn, ioStateIn, ensures_bind, ensures_zoom, ensures_get, Lens.set_get, hrbuf', ensures_bind,
    ensures_zoom]
  refine ensures_modify.mpr ?_
  dsimp only
  rw [if_pos (by simp), ensures_bind]
  intro res u hstop
  obtain ⟨status, v, hzoom, hpure⟩ := bind_eq_ok.mp hstop
  obtain ⟨_, io, hrun, hv⟩ := zoom_eq_ok.mp hzoom
  cases hv
  cases hpure
  obtain ⟨hle, hsame⟩ := stopWatching_reports hreports _ _ _ _ hrun
  have hio : io.rbuf = some rbuf := (congrArg (fun x => x.2.1) hsame).trans hrbuf
  have hkept : io = { io with rbuf := some rbuf } := by rw [← hio]
  rw [ensures_ite]
  refine ⟨fun _ => ensures_pure.mpr ⟨_, io, rbuf, hrun, rfl, ?_⟩, fun _ => ?_⟩
  · rw [← hkept]
    rfl
  -- there is no header in the buffer, and the buffer is not full
  have hlen : status.toInt.toNat = 0 := Int.toNat_eq_zero.mpr hle
  have hpdu (raw : List UInt8) : w.lib.pduRbufHasPdu ⟨rbuf.maxlen, 0, raw⟩ = false := by
    rw [Bool.eq_false_iff, ne_eq, hframes.hasPdu]
    dsimp only
    omega
  have hfull (raw : List UInt8) : w.lib.pduRbufIsFull ⟨rbuf.maxlen, 0, raw⟩ = false := by
    rw [Bool.eq_false_iff, ne_eq, hframes.isFull]
    dsimp only
    omega
  have hmaxlen : (rbuf.receive []).maxlen = rbuf.maxlen := rfl
  rw [hlen, hmaxlen, hpdu, hfull, ensures_bind, ensures_zoom]
  exact ensures_modify.mpr (ensures_pure.mpr ⟨_, io, ⟨rbuf.maxlen, 0, (rbuf.receive []).raw⟩, hrun, rfl, rfl⟩)

/-- What a step that gets no packet, or an empty one, leaves of the I/O state. -/
theorem Daemon.Step.unread (hframes : w.lib.Frames o) (hroom : 4 + pduMaxDataLength ≤ maxlen)
    (hreports : w.fdio.Reports) {packet : Option (List UInt8)}
    (hstep : Daemon.Step w s (.readable packet) t) (hs : s.Attached maxlen) :
    (packet = none → t.io = s.io.recvmsg) ∧ (packet = some [] → ∃ res io rbuf,
      stopWatching w.fdio epollIn s.io.recvmsg = .ok (res, io) ∧ rbuf.maxlen = maxlen ∧
        t.io = { io with rbuf := some rbuf }) := by
  obtain ⟨rbuf, hrbuf, rfl⟩ := hs hstep.2.1
  obtain ⟨result, v, hcallback, ht⟩ := hstep.callback
  obtain ⟨res, u, hin, hrest⟩ := bind_eq_ok.mp hcallback
  have hu : t.io = u.io := by
    rw [ht]
    split at hrest <;> cases hrest <;> rfl
  rw [hu]
  constructor
  · rintro rfl
    cases (stateIn_none hrbuf).symm.trans hin
    rfl
  · rintro rfl
    obtain ⟨res', io, rbuf', hstop, hmaxlen, rfl⟩ := stateIn_nil hframes hreports hrbuf hroom _ _ hin
    exact ⟨res', io, rbuf', hstop, hmaxlen, rfl⟩

/-- A step handles the PDU in the packet it receives, and nothing else. -/
theorem Daemon.Step.received (hframes : w.lib.Frames o) (hroom : 4 + pduMaxDataLength ≤ maxlen)
    (hreports : w.fdio.Reports) (hstep : Daemon.Step w s input t) (hs : s.Attached maxlen) :
    t.Attached maxlen ∧ handledPdus t.io.log =
      handledPdus s.io.log ++ input.packet.toList.filterMap (framePdu o maxlen) := by
  by_cases hdata : input.HasData
  · exact hstep.framed hframes hroom hdata hs
  cases input with
  | readable packet =>
    obtain ⟨rbuf, hrbuf, hmaxlen⟩ := hs hstep.2.1
    have hrecv : handledPdus s.io.recvmsg.log = handledPdus s.io.log :=
      congrArg (fun x => x.2.2) (inbound_recvmsg s.io)
    obtain ⟨hnone, hnil⟩ := hstep.unread hframes hroom hreports hs
    match packet with
    | none =>
      rw [Daemon.Attached, hnone rfl, hrecv]
      exact ⟨fun _ => ⟨rbuf, hrbuf, hmaxlen⟩, (List.append_nil _).symm⟩
    | some [] =>
      obtain ⟨res, io, rbuf', hstop, hmaxlen', hio⟩ := hnil rfl
      have hsame := keeps_inbound_stopWatching epollIn s.io.recvmsg _ _ hstop
      have hhandled : handledPdus io.log = handledPdus s.io.log := (congrArg (fun x => x.2.2) hsame).trans hrecv
      rw [Daemon.Attached, hio]
      refine ⟨fun _ => ⟨rbuf', rfl, hmaxlen'⟩, hhandled.trans ?_⟩
      simp [Input.packet, framePdu_nil]
    | some (byte :: bytes) => exact absurd ⟨_, rfl, List.cons_ne_nil _ _⟩ hdata
  | halEvent | channelUpdate | scanStatus | eventNfy | task | writable | err | hup => exact absurd trivial hdata

/-- The commands handled in a run are those in the packets received. -/
theorem run_received (hframes : w.lib.Frames o) (hroom : 4 + pduMaxDataLength ≤ maxlen)
    (hreports : w.fdio.Reports) {l : List (Transition Daemon Input)} (hrun : Run (Daemon.Step w) s l t)
    (hs : s.Attached maxlen) :
    handledPdus t.io.log = handledPdus s.io.log ++ (packets l).filterMap (framePdu o maxlen) := by
  have hcollected := hrun.collected (Daemon.Attached maxlen) (fun s => handledPdus s.io.log)
    (fun x => x.label.packet.toList.filterMap (framePdu o maxlen))
    (fun _ _ _ hstep ha => (hstep.received hframes hroom hreports ha).1)
    (fun _ _ _ hstep ha => (hstep.received hframes hroom hreports ha).2) hs
  rw [hcollected, packets, List.filterMap_eq_flatMap_toList _ l, List.filterMap_flatMap]

/-! ### Responses on the socket -/

/-- The responses that left the queue, each with whether it is on the socket. -/
def Daemon.settled (s : Daemon) : List (Wbuf × Bool) :=
  (outcomes s.io.log).filter fun x => ¬x.1.pdu.IsNotification

/-- The responses on the socket. -/
def Daemon.delivered (s : Daemon) : List Wbuf := (s.settled.filter (·.2)).map Prod.fst

/-- The responses whose attempt to send failed. -/
def Daemon.lost (s : Daemon) : List Wbuf := (s.settled.filter (!·.2)).map Prod.fst

/-- The responses that are queued. -/
def Daemon.pending (s : Daemon) : List Wbuf := s.io.sendq.filter fun wbuf => ¬wbuf.pdu.IsNotification

theorem IoState.Lossless.responses (h : s.io.Lossless) :
    s.responses = s.settled.map Prod.fst ++ s.pending := by
  have hsettled : s.settled.map Prod.fst = (sentWbufs s.io.log).filter fun wbuf => ¬wbuf.pdu.IsNotification := by
    rw [Daemon.settled, ← outcomes_fst, List.filter_map]
    rfl
  rw [Daemon.responses, ← h.fifo, List.filter_append, hsettled, Daemon.pending]

/-- Where attempts fail only once the connection is closed, the responses on the socket
come first. -/
theorem IoState.Divided.responses (h : s.io.Divided) :
    s.settled = s.delivered.map (·, true) ++ s.lost.map (·, false) ∧ (s.io.fd ≠ -1 → s.lost = []) := by
  obtain ⟨sent, failed, houtcomes, hopen⟩ := h
  have hsettled : s.settled = (sent.filter fun wbuf => ¬wbuf.pdu.IsNotification).map (·, true) ++
      (failed.filter fun wbuf => ¬wbuf.pdu.IsNotification).map (·, false) := by
    rw [Daemon.settled, houtcomes, List.filter_append, List.filter_map, List.filter_map]
    rfl
  have hdelivered : s.delivered = sent.filter fun wbuf => ¬wbuf.pdu.IsNotification := by
    simp [Daemon.delivered, hsettled, List.filter_map, Function.comp_def]
  have hlost : s.lost = failed.filter fun wbuf => ¬wbuf.pdu.IsNotification := by
    simp [Daemon.lost, hsettled, List.filter_map, Function.comp_def]
  rw [hdelivered, hlost]
  refine ⟨hsettled, fun hfd => ?_⟩
  rw [hopen hfd, List.filter_nil]

theorem Daemon.Connected.lossless (h : Daemon.Connected w s) : s.io.Lossless := by
  obtain ⟨fd, rbuf, result, -, -, hio⟩ := h.io
  rw [hio]
  refine ⟨rfl, rfl, fun log hlog => ?_⟩
  have hnone : destroyedWbufs log = [] := by
    refine List.filterMap_eq_nil_iff.mpr fun event hevent => ?_
    have hmem := hlog.subset (List.mem_reverse.mp hevent)
    simp only [List.mem_cons, List.not_mem_nil, or_false] at hmem
    rcases hmem with rfl | rfl <;> rfl
  rw [hnone]
  exact List.nil_prefix

theorem Daemon.Connected.divided (h : Daemon.Connected w s) : s.io.Divided := by
  obtain ⟨fd, rbuf, result, -, -, hio⟩ := h.io
  rw [hio]
  exact ⟨[], [], rfl, fun _ => rfl⟩

theorem Daemon.Connected.blocked (h : Daemon.Connected w s) : s.io.Blocked := by
  obtain ⟨fd, rbuf, result, -, -, hio⟩ := h.io
  rw [hio]
  intro wbuf sendq hsendq
  cases hsendq

/-- In every run from the connection on, what left the queue and what is in it are together
what was passed on. The responses that left it answer a first part of the PDUs in the
packets received one by one, those queued answer the rest, and if anything is queued, the
socket would have blocked when it was tried last to send the first of it. Where the open
socket does not fail, the responses that left the queue are those on the socket, and then
those lost behind the close, which are none as long as the connection is open. -/
theorem responses_delivered (hframes : w.lib.Frames o) (hoctet : w.lib.AppendsOctet)
    (hreports : w.fdio.Reports) (hconnected : Daemon.Connected w s) {l : List (Transition Daemon Input)}
    (hrun : Run (Daemon.Step w) s l t) : t.io.Lossless ∧ t.io.Blocked ∧
      (∃ rbuf answered unanswered, s.io.rbuf = some rbuf ∧
        (packets l).filterMap (framePdu o rbuf.maxlen) = answered ++ unanswered ∧
        List.Forall₂ (fun cmd x => ∃ status, cmd.AnsweredBy status x.1.pdu) answered t.settled ∧
        List.Forall₂ (fun cmd wbuf => ∃ status, cmd.AnsweredBy status wbuf.pdu) unanswered t.pending) ∧
      (w.fdio.NeverFails → t.settled = t.delivered.map (·, true) ++ t.lost.map (·, false) ∧
        (t.io.fd ≠ -1 → t.lost = [])) := by
  have hlossless : t.io.Lossless := hrun.invariant (fun x _ hstep hx =>
    lossless_invariant.always lossless_closeConnection _ _ hx _ _ hstep.2.2) hconnected.lossless
  have hblocked : t.io.Blocked := hrun.invariant (fun x _ hstep hx =>
    blocked_invariant.always blocked_closeConnection _ _ hx _ _ hstep.2.2) hconnected.blocked
  refine ⟨hlossless, hblocked, ?_, fun hfails => IoState.Divided.responses ?_⟩
  · obtain ⟨rbuf, hrbuf, hcreate, hnone⟩ := hconnected.rbuf
    have hhandled := run_received hframes (hframes.room rbuf hcreate) hreports hrun fun _ => ⟨rbuf, hrbuf, rfl⟩
    rw [hnone, List.nil_append] at hhandled
    have hreach : Daemon.Reachable w t := ⟨s, hconnected, l, hrun⟩
    have hanswers := (hreach.answered hoctet).answers
    rw [hhandled, hlossless.responses] at hanswers
    refine ⟨rbuf, _, _, hrbuf, (List.take_append_drop (t.settled.map Prod.fst).length _).symm, ?_, ?_⟩
    · exact List.forall₂_map_right_iff.mp (List.forall₂_take_append _ _ _ hanswers)
    · exact List.forall₂_drop_append _ _ _ hanswers
  · exact hrun.invariant (fun x _ hstep hx =>
      (divided_invariant hfails).always divided_closeConnection _ _ hx _ _ hstep.2.2) hconnected.divided

end

/-! ### A response that is lost -/

/-- A socket that takes one PDU, and no other before it is closed. -/
def fullFdio : Fdio where
  addFdEventsToEpollLoop _ _ _ := 0
  sendPduWbuf log fd _ :=
    if fd = -1 then -1 else if log.any fun event => event matches .sendPduWbuf .. then 0 else 1

/-- The in-tree daemon on it. -/
def fullWorld : World := .inTree .reference fullFdio switchingDriver .lp64 fun _ _ => 0

/-- Two Register commands, the end of a scan between them, an error of the connection, and
then the task that tells the client of the scan. -/
def connectionLost : List Input :=
  [.readable (some [0, 1, 1, 0, 1]), .scanStatus dtvScanComplete (some tunerOne) 0,
    .readable (some [0, 1, 1, 0, 1]), .err, .task 0]

/-- The daemon after these. -/
def afterLoss : Daemon := connectionLost.foldl (Daemon.next fullWorld) (.connected fullWorld)

theorem fullFdio_reports : fullFdio.Reports := by
  intro log fd events
  change (0 : Int32).toInt ≤ 0
  decide

theorem fullFdio_neverFails : fullFdio.NeverFails := by
  intro log fd wbuf hfd
  unfold fullFdio
  dsimp only
  rw [if_neg hfd]
  split
  · decide
  · decide

/-- The response to the first command is on the socket, and that to the second is lost. -/
theorem responses_delivered_afterLoss :
    List.Forall₂ (fun (cmd : Pdu) x => ∃ status, cmd.AnsweredBy status x.1.pdu)
      [⟨0, 1, [1]⟩, ⟨0, 1, [1]⟩] afterLoss.settled ∧ afterLoss.settled.map Prod.snd = [true, false] := by
  have hframes : fullWorld.lib.Frames .little := Lib.reference_frames
  have hoctet : fullWorld.lib.AppendsOctet := Lib.reference_documented.appendsOctet
  have hconnected : Daemon.Connected fullWorld (.connected fullWorld) := ⟨3, by decide, rfl⟩
  have hrun : Run (Daemon.Step fullWorld) (.connected fullWorld)
      (trace (Daemon.next fullWorld) (.connected fullWorld) connectionLost) afterLoss :=
    Daemon.trace_run (by decide +kernel)
  obtain ⟨-, -, ⟨rbuf, answered, unanswered, hrbuf, hcmds, hsettled, hpending⟩, hdivided⟩ :=
    responses_delivered hframes hoctet fullFdio_reports hconnected hrun
  have hbuffer : (Daemon.connected fullWorld).io.rbuf = some ⟨65539, 0, []⟩ := by decide +kernel
  cases hbuffer.symm.trans hrbuf
  have hnone : afterLoss.pending = [] := by decide +kernel
  rw [hnone] at hpending
  cases hpending
  have hframed : (packets (trace (Daemon.next fullWorld) (.connected fullWorld) connectionLost)).filterMap
      (framePdu .little 65539) = [⟨0, 1, [1]⟩, ⟨0, 1, [1]⟩] := by decide +kernel
  cases (hframed.symm.trans hcmds).trans (List.append_nil _)
  refine ⟨hsettled, ?_⟩
  have hdelivered : afterLoss.delivered.length = 1 := by decide +kernel
  have hlost : afterLoss.lost.length = 1 := by decide +kernel
  rw [(hdivided fullFdio_neverFails).1, List.map_append, List.map_map, List.map_map]
  change afterLoss.delivered.map (Function.const _ true) ++ afterLoss.lost.map (Function.const _ false) = _
  rw [List.map_const, List.map_const, hdelivered, hlost]
  rfl

end Tvd

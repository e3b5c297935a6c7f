import Tvd.Exec.Run
import Tvd.Model.Io

/-! The send queue. Whatever the socket answers, what attempts to send took off the
queue followed by what is left in it is what was passed to `io_state_send`, in order,
and each PDU is destroyed once, after it was taken off. While the epoll loop registers what it is asked
to, the events registered are those of the I/O state, and a queue that is not empty
waits for the socket to become writable. -/

namespace Tvd

open Exec

/-- The buffer that an event destroyed. -/
def IoEvent.destroyed : IoEvent → Option Wbuf
  | .destroyPduWbuf wbuf => some wbuf
  | _ => none

/-- The buffers destroyed, oldest first. -/
def destroyedWbufs (log : List IoEvent) : List Wbuf := log.reverse.filterMap IoEvent.destroyed

/-- No buffer was lost, duplicated or reordered, and each was destroyed once, and
at no time before it was sent. -/
structure IoState.Lossless (s : IoState) : Prop where
  fifo : sentWbufs s.log ++ s.sendq = passedWbufs s.log
  destroyed : destroyedWbufs s.log = sentWbufs s.log
  ordered : ∀ log, log <:+ s.log → destroyedWbufs log <+: sentWbufs log

/-- The events registered with the loop are those of the state, errors among them. -/
structure IoState.Masked (s : IoState) : Prop where
  registered : registeredEvents s.log = some s.epollEvents
  err : s.epollEvents &&& epollErr = epollErr

/-- What is more, they have writability while something is queued. -/
structure IoState.Watched (s : IoState) : Prop extends IoState.Masked s where
  out : s.sendq ≠ [] → s.epollEvents &&& epollOut ≠ 0

/-- The epoll loop registers everything. -/
def Fdio.Registers (fdio : Fdio) : Prop :=
  ∀ log fd events, 0 ≤ (fdio.addFdEventsToEpollLoop log fd events).toInt

variable {fdio : Fdio}

/-! ### The log -/

section Log

variable (event : IoEvent) (log : List IoEvent)

/-- A new event comes last when the log is read from its oldest event on. -/
theorem filterMap_reverse_cons {α : Type} (f : IoEvent → Option α) :
    (event :: log).reverse.filterMap f = log.reverse.filterMap f ++ (f event).toList := by
  rw [List.reverse_cons, List.filterMap_append]
  cases h : f event <;> simp [h]

theorem sentWbufs_cons : sentWbufs (event :: log) = sentWbufs log ++ event.sent.toList :=
  filterMap_reverse_cons event log _

theorem passedWbufs_cons : passedWbufs (event :: log) = passedWbufs log ++ event.passed.toList :=
  filterMap_reverse_cons event log _

theorem handledPdus_cons : handledPdus (event :: log) = handledPdus log ++ event.handled.toList :=
  filterMap_reverse_cons event log _

theorem destroyedWbufs_cons :
    destroyedWbufs (event :: log) = destroyedWbufs log ++ event.destroyed.toList :=
  filterMap_reverse_cons event log _

end Log

/-- The event does not concern the queue. -/
structure IoEvent.Idle (event : IoEvent) : Prop where
  sent : event.sent = none
  passed : event.passed = none
  destroyed : event.destroyed = none

theorem ordered_cons {log : List IoEvent} {event : IoEvent}
    (h : ∀ m, m <:+ log → destroyedWbufs m <+: sentWbufs m)
    (hevent : destroyedWbufs (event :: log) <+: sentWbufs (event :: log)) :
    ∀ m, m <:+ event :: log → destroyedWbufs m <+: sentWbufs m := by
  intro m hm
  rcases List.suffix_cons_iff.mp hm with rfl | hm
  · exact hevent
  · exact h m hm

namespace IoState.Lossless

variable {s : IoState} (h : s.Lossless)

include h

/-- Events that do not concern the queue change nothing. -/
theorem log {event : IoEvent} (hidle : event.Idle) :
    IoState.Lossless { s with log := event :: s.log } := by
  have hsent : sentWbufs (event :: s.log) = sentWbufs s.log := by
    rw [sentWbufs_cons, hidle.sent, Option.toList_none, List.append_nil]
  have hdestroyed : destroyedWbufs (event :: s.log) = sentWbufs s.log := by
    rw [destroyedWbufs_cons, hidle.destroyed, Option.toList_none, List.append_nil, h.destroyed]
  refine ⟨?_, hdestroyed.trans hsent.symm, ordered_cons h.ordered ?_⟩
  · rw [hsent, h.fifo, passedWbufs_cons, hidle.passed, Option.toList_none, List.append_nil]
  · exact (hdestroyed.trans hsent.symm) ▸ List.prefix_rfl

/-- A buffer is passed to the queue. -/
theorem enqueue (wbuf : Wbuf) :
    IoState.Lossless { s with sendq := s.sendq ++ [wbuf], log := .ioStateSend wbuf :: s.log } := by
  have hsent : sentWbufs (.ioStateSend wbuf :: s.log) = sentWbufs s.log := by
    rw [sentWbufs_cons]
    exact List.append_nil _
  have hdestroyed : destroyedWbufs (.ioStateSend wbuf :: s.log) = sentWbufs s.log := by
    rw [destroyedWbufs_cons, h.destroyed]
    exact List.append_nil _
  refine ⟨?_, hdestroyed.trans hsent.symm, ordered_cons h.ordered ?_⟩
  · rw [hsent, ← List.append_assoc, h.fifo, passedWbufs_cons]
    rfl
  · exact (hdestroyed.trans hsent.symm) ▸ List.prefix_rfl

/-- The head of the queue is sent, taken off and destroyed. -/
theorem sent {wbuf : Wbuf} {sendq : List Wbuf} (hq : s.sendq = wbuf :: sendq) (fd : Int32)
    {result : Int32} (hresult : result ≠ 0) : IoState.Lossless { s with
      sendq, log := .destroyPduWbuf wbuf :: .sendPduWbuf fd wbuf result :: s.log } := by
  have hsent : sentWbufs (.sendPduWbuf fd wbuf result :: s.log) = sentWbufs s.log ++ [wbuf] := by
    rw [sentWbufs_cons, IoEvent.sent, if_pos hresult, Option.toList_some]
  have hsent' : sentWbufs (.destroyPduWbuf wbuf :: .sendPduWbuf fd wbuf result :: s.log) =
      sentWbufs s.log ++ [wbuf] := by
    rw [sentWbufs_cons, hsent]
    exact List.append_nil _
  have hpassed : passedWbufs (.destroyPduWbuf wbuf :: .sendPduWbuf fd wbuf result :: s.log) =
      passedWbufs s.log := by
    rw [passedWbufs_cons, passedWbufs_cons, List.append_assoc]
    exact List.append_nil _
  have hdestroyed : destroyedWbufs (.sendPduWbuf fd wbuf result :: s.log) = sentWbufs s.log := by
    rw [destroyedWbufs_cons, h.destroyed]
    exact List.append_nil _
  have hdestroyed' : destroyedWbufs (.destroyPduWbuf wbuf :: .sendPduWbuf fd wbuf result :: s.log) =
      sentWbufs s.log ++ [wbuf] := by
    rw [destroyedWbufs_cons, hdestroyed]
    rfl
  refine ⟨?_, hdestroyed'.trans hsent'.symm, ordered_cons (ordered_cons h.ordered ?_) ?_⟩
  · rw [hsent', hpassed, ← h.fifo, hq, List.append_assoc, List.singleton_append]
  · rw [hdestroyed, hsent]
    exact List.prefix_append _ _
  · exact (hdestroyed'.trans hsent'.symm) ▸ List.prefix_rfl

end IoState.Lossless

/-! ### Draining -/

/-- What a blocked attempt and a successful send keep, draining the queue keeps. -/
theorem sendPending_preserves {P : IoState → Prop}
    (hblocked : ∀ s wbuf, P s → P { s with log := .sendPduWbuf s.fd wbuf 0 :: s.log })
    (hsent : ∀ s wbuf sendq result, s.sendq = wbuf :: sendq → fdio.sendPduWbuf s.log s.fd wbuf = result →
      result ≠ 0 → P s → P { s with sendq, log := .destroyPduWbuf wbuf :: .sendPduWbuf s.fd wbuf result :: s.log }) :
    ∀ n, Preserves P (sendPending fdio n)
  | 0 => preserves_pure P ()
  | n + 1 => by
    intro s hs
    rw [sendPending, ensures_bind, ensures_get]
    cases hq : s.sendq with
    | nil => exact ensures_pure.mpr hs
    | cons wbuf sendq =>
      rw [ensures_bind]
      intro result t ht
      cases ht
      rw [ensures_ite]
      constructor
      · intro hzero
        rw [hzero]
        exact ensures_pure.mpr (hblocked s wbuf hs)
      · intro hresult
        rw [ensures_bind]
        refine ensures_modify.mpr (ensures_bind.mpr (ensures_modify.mpr ?_))
        exact sendPending_preserves hblocked hsent n _ (hsent s wbuf sendq _ hq rfl hresult hs)

theorem ioStateSendPendingWbufs_preserves {P : IoState → Prop}
    (hblocked : ∀ s wbuf, P s → P { s with log := .sendPduWbuf s.fd wbuf 0 :: s.log })
    (hsent : ∀ s wbuf sendq result, s.sendq = wbuf :: sendq → fdio.sendPduWbuf s.log s.fd wbuf = result →
      result ≠ 0 → P s → P { s with sendq, log := .destroyPduWbuf wbuf :: .sendPduWbuf s.fd wbuf result :: s.log }) :
    Preserves P (ioStateSendPendingWbufs fdio) :=
  (preserves_get P).bind fun _ => sendPending_preserves hblocked hsent _

/-! ### What each function keeps -/

/-- What is kept when events are registered, the descriptor is removed or the events to
poll for change. -/
structure WatchInvariant (J : IoState → Prop) : Prop where
  added : ∀ s events result, J s → J { s with log := .addFdEvents s.fd events result :: s.log }
  removed : ∀ s, J s → J { s with log := .removeFd s.fd :: s.log }
  epollEvents : ∀ s epollEvents, J s → J { s with epollEvents }

namespace WatchInvariant

variable {P J : IoState → Prop} (h : WatchInvariant J)

include h

theorem addFdEvents (events : UInt32) : Preserves J (addFdEventsToEpollLoop fdio events) := by
  intro s hs
  rw [addFdEventsToEpollLoop, ensures_bind, ensures_get, ensures_bind]
  exact ensures_modify.mpr (ensures_pure.mpr (h.added s events _ hs))

theorem stopWatching (event : UInt32) : Preserves J (stopWatching fdio event) := by
  refine Preserves.bind (preserves_modify fun s hs => h.epollEvents s _ hs) fun _ => ?_
  intro s hs
  rw [ensures_bind, ensures_get, ensures_ite]
  refine ⟨fun _ => h.addFdEvents _ s hs, fun _ => ?_⟩
  rw [ensures_bind]
  exact ensures_modify.mpr (ensures_pure.mpr (h.removed s hs))

/-- `io_state_send` drains the queue from where the buffer was added to it. -/
theorem ioStateSend (hdrain : Leads P J (ioStateSendPendingWbufs fdio)) {wbuf : Wbuf} {s : IoState}
    (hs : P { s with sendq := s.sendq ++ [wbuf], log := .ioStateSend wbuf :: s.log }) :
    Ensures (ioStateSend fdio wbuf) s fun _ t => J t := by
  rw [Tvd.ioStateSend, ensures_bind]
  refine ensures_modify.mpr (ensures_bind.mpr (ensures_modify.mpr ?_))
  refine Leads.bind hdrain (fun _ => ?_) _ hs
  refine (preserves_get _).bind fun s => .ite ?_ (preserves_pure _ _)
  refine (h.addFdEvents _).bind fun res => .ite (preserves_pure _ _) ?_
  exact Preserves.bind (preserves_modify fun s hs => h.epollEvents s _ hs) fun _ => preserves_pure _ _

/-- `io_state_out` drains the queue first. -/
theorem ioStateOut (hdrain : Leads P J (ioStateSendPendingWbufs fdio)) : Leads P J (ioStateOut fdio) := by
  refine hdrain.bind fun _ => (preserves_get _).bind fun s => .ite ?_ (preserves_pure _ _)
  exact (h.stopWatching _).bind fun res => .ite (preserves_pure _ _) (preserves_pure _ _)

end WatchInvariant

/-! ### Passing a buffer on -/

theorem avoids_sendPending (e : Fault) : ∀ n, Avoids e (sendPending fdio n)
  | 0 => avoids_pure e ()
  | n + 1 => by
    refine (avoids_get e).bind fun s => ?_
    split
    · exact avoids_pure e ()
    · refine Avoids.bind ((avoids_get e).bind fun _ => Avoids.bind (avoids_modify e _) fun _ =>
        avoids_pure e _) fun result => .ite (avoids_pure e ()) ?_
      exact Avoids.bind (avoids_modify e _) fun _ => Avoids.bind (avoids_modify e _) fun _ =>
        avoids_sendPending e n

theorem avoids_ioStateSend (e : Fault) (wbuf : Wbuf) :
    Avoids e (ioStateSend fdio wbuf) := by
  refine Avoids.bind (avoids_modify e _) fun _ => Avoids.bind (avoids_modify e _) fun _ => ?_
  refine Avoids.bind ((avoids_get e).bind fun _ => avoids_sendPending e _) fun _ => ?_
  refine (avoids_get e).bind fun s => .ite (Avoids.bind ?_ fun res => ?_) (avoids_pure e _)
  · exact (avoids_get e).bind fun _ => Avoids.bind (avoids_modify e _) fun _ => avoids_pure e _
  · exact .ite (avoids_pure e _) (Avoids.bind (avoids_modify e _) fun _ => avoids_pure e _)

/-- Sending what is pending passes nothing on and handles nothing. -/
theorem drain_logged (passed : List Wbuf) (handled : List Pdu) :
    Preserves (fun s : IoState => passedWbufs s.log = passed ∧ handledPdus s.log = handled)
      (ioStateSendPendingWbufs fdio) := by
  refine ioStateSendPendingWbufs_preserves (fun s wbuf hs => ?_) fun s wbuf sendq result _ _ _ hs => ?_
  · simpa [passedWbufs_cons, handledPdus_cons, IoEvent.passed, IoEvent.handled] using hs
  · simpa [passedWbufs_cons, handledPdus_cons, IoEvent.passed, IoEvent.handled] using hs

/-- `io_state_send` returns, and has passed on one buffer. -/
theorem ioStateSend_passes (wbuf : Wbuf) (s : IoState) :
    Ensures (ioStateSend fdio wbuf) s fun _ t => passedWbufs t.log = passedWbufs s.log ++ [wbuf] ∧
      handledPdus t.log = handledPdus s.log := by
  have hwatch (passed : List Wbuf) (handled : List Pdu) : WatchInvariant fun t : IoState =>
      passedWbufs t.log = passed ∧ handledPdus t.log = handled := by
    refine ⟨fun t events result ht => ?_, fun t ht => ?_, fun t _ ht => ht⟩
    · simpa [passedWbufs_cons, handledPdus_cons, IoEvent.passed, IoEvent.handled] using ht
    · simpa [passedWbufs_cons, handledPdus_cons, IoEvent.passed, IoEvent.handled] using ht
  refine (hwatch _ _).ioStateSend (drain_logged _ _) ⟨?_, ?_⟩
  · rw [passedWbufs_cons]
    rfl
  · rw [handledPdus_cons]
    exact List.append_nil _

/-! ### Receiving -/

/-- Receiving keeps `P` until the PDU handler, if it gets there, leads to `Q`. A receive
buffer that is there stays there. -/
theorem ioStateIn_leads {σ : Type} {lib : Lib} {L : Lens σ IoState}
    {handlePdu : Pdu → Exec Fault σ Int32} {P Q : σ → Prop} (hPQ : ∀ s, P s → Q s)
    (hlog : ∀ s, P s → Ensures (zoom L (logIo (.recvmsg (L.get s).fd))) s fun _ t => P t)
    (hstop : Preserves P (zoom L (stopWatching fdio epollIn)))
    (hrbuf : ∀ rbuf : Option Rbuf → Option Rbuf, (∀ r, r ≠ none → rbuf r ≠ none) →
      Preserves P (zoom L (modify fun s => { s with rbuf := rbuf s.rbuf } : IoM Unit)))
    (hrbuf' : ∀ rbuf : Option Rbuf → Option Rbuf, (∀ r, r ≠ none → rbuf r ≠ none) →
      Preserves Q (zoom L (modify fun s => { s with rbuf := rbuf s.rbuf } : IoM Unit)))
    (hcmd : ∀ cmd, Leads P Q (handlePdu cmd)) (packet : Option (List UInt8)) :
    Leads P Q (ioStateIn lib fdio L handlePdu packet) := by
  have hpure (v : Int32) : Leads P Q (pure v : Exec Fault σ Int32) := leads_pure hPQ v
  intro s hs
  rw [ioStateIn, ensures_bind, ensures_zoom, ensures_get, L.set_get]
  cases (L.get s).rbuf with
  | none => exact ensures_throw.mpr trivial
  | some rbuf =>
    rw [ensures_bind]
    refine (hlog s hs).mono fun _ t ht => ?_
    refine (show Leads P Q _ from ?_) t ht
    cases packet with
    | none => exact hpure _
    | some packet =>
      dsimp -zeta only
      extract_lets rbuf received rest
      have hrest (res : ℤ) : Leads P Q (rest res) := by
        refine .ite (hpure _) ?_
        refine Leads.bind (hrbuf (fun _ => some _) fun _ _ => Option.some_ne_none _) fun _ => ?_
        refine .ite ?_ (.ite (hpure _) (hpure _))
        refine (hcmd _).bind fun status => .ite (preserves_pure _ _) ?_
        refine Preserves.bind (hrbuf' (Option.map ({ · with len := 0 })) fun r hr => ?_) fun _ =>
          preserves_pure _ _
        rwa [Ne, Option.map_eq_none_iff]
      exact .ite (Leads.bind (Preserves.bind hstop fun _ => preserves_pure _ _) hrest) (hrest _)

/-- Receiving keeps what logging, the receive buffer and the PDU handler keep. -/
theorem ioStateIn_preserves {σ : Type} {lib : Lib} {L : Lens σ IoState}
    {handlePdu : Pdu → Exec Fault σ Int32} {P : σ → Prop}
    (hlog : ∀ s, P s → Ensures (zoom L (logIo (.recvmsg (L.get s).fd))) s fun _ t => P t)
    (hstop : Preserves P (zoom L (stopWatching fdio epollIn)))
    (hrbuf : ∀ rbuf : Option Rbuf → Option Rbuf, (∀ r, r ≠ none → rbuf r ≠ none) →
      Preserves P (zoom L (modify fun s => { s with rbuf := rbuf s.rbuf } : IoM Unit)))
    (hcmd : ∀ cmd, Preserves P (handlePdu cmd)) (packet : Option (List UInt8)) :
    Preserves P (ioStateIn lib fdio L handlePdu packet) :=
  ioStateIn_leads (fun _ hs => hs) hlog hstop hrbuf hrbuf hcmd packet

/-! ### Nothing is lost -/

theorem lossless_drain : Preserves IoState.Lossless (ioStateSendPendingWbufs fdio) :=
  ioStateSendPendingWbufs_preserves (fun _ _ hs => hs.log ⟨rfl, rfl, rfl⟩)
    fun _ _ _ _ hq _ hresult hs => hs.sent hq _ hresult

theorem lossless_logIo {event : IoEvent} (hidle : event.Idle) :
    Preserves IoState.Lossless (logIo event) := preserves_modify fun _ hs => hs.log hidle

theorem lossless_watch : WatchInvariant IoState.Lossless where
  added _ _ _ hs := hs.log ⟨rfl, rfl, rfl⟩
  removed _ hs := hs.log ⟨rfl, rfl, rfl⟩
  epollEvents _ _ hs := ⟨hs.fifo, hs.destroyed, hs.ordered⟩

theorem lossless_ioStateSend (wbuf : Wbuf) : Preserves IoState.Lossless (ioStateSend fdio wbuf) :=
  fun _ hs => lossless_watch.ioStateSend lossless_drain (hs.enqueue wbuf)

theorem lossless_ioStateOut : Preserves IoState.Lossless (ioStateOut fdio) :=
  lossless_watch.ioStateOut lossless_drain

/-! ### Nothing stalls -/

theorem or_and_mask (a b mask : UInt32) : (a ||| b) &&& mask = a &&& mask ||| b &&& mask :=
  UInt32.toBitVec_inj.mp BitVec.and_or_distrib_right

theorem masked_drain : Preserves IoState.Masked (ioStateSendPendingWbufs fdio) :=
  ioStateSendPendingWbufs_preserves (fun _ _ hs => ⟨hs.registered, hs.err⟩)
    fun _ _ _ _ _ _ _ hs => ⟨hs.registered, hs.err⟩

theorem watched_drain : Preserves IoState.Watched (ioStateSendPendingWbufs fdio) :=
  ioStateSendPendingWbufs_preserves (fun _ _ hs => ⟨⟨hs.registered, hs.err⟩, hs.out⟩)
    fun _ _ _ _ hq _ _ hs => ⟨⟨hs.registered, hs.err⟩, fun _ => hs.out (by rw [hq]; simp)⟩

/-- A successful registration. -/
theorem addFdEvents_ensures (hregisters : fdio.Registers) (events : UInt32) (s : IoState) :
    Ensures (addFdEventsToEpollLoop fdio events) s fun res t =>
      0 ≤ res.toInt ∧ registeredEvents t.log = some events ∧ t.sendq = s.sendq ∧
        t.epollEvents = s.epollEvents := by
  intro res t h
  cases h
  have hres := hregisters s.log s.fd events
  refine ⟨hres, ?_, rfl, rfl⟩
  rw [registeredEvents, if_pos hres]

theorem stopWatching_ensures (hregisters : fdio.Registers) {event : UInt32}
    (hevent : ~~~event &&& epollErr = epollErr) {s : IoState} (hs : s.Masked) :
    Ensures (stopWatching fdio event) s fun res t => 0 ≤ res.toInt ∧ t.Masked ∧
      t.sendq = s.sendq ∧ t.epollEvents = s.epollEvents &&& ~~~event := by
  have herr : (s.epollEvents &&& ~~~event) &&& epollErr = epollErr := by
    rw [UInt32.and_assoc, hevent, hs.err]
  have hne : s.epollEvents &&& ~~~event ≠ 0 := by
    intro hzero
    rw [hzero] at herr
    exact absurd herr (by decide)
  rw [stopWatching, ensures_bind]
  refine ensures_modify.mpr ?_
  rw [ensures_bind, ensures_get, ensures_ite]
  refine ⟨fun _ => ?_, fun h => absurd hne h⟩
  refine (addFdEvents_ensures hregisters _ _).mono ?_
  rintro res t ⟨hres, hregistered, hsendq, hevents⟩
  refine ⟨hres, ⟨?_, ?_⟩, hsendq, hevents⟩
  · rw [hregistered, hevents]
  · rw [hevents]
    exact herr

theorem watched_ioStateSend (hregisters : fdio.Registers) (wbuf : Wbuf) :
    Preserves IoState.Watched (ioStateSend fdio wbuf) := by
  intro s hs
  rw [ioStateSend, ensures_bind]
  refine ensures_modify.mpr (ensures_bind.mpr (ensures_modify.mpr ?_))
  rw [ensures_bind]
  refine Ensures.mono (masked_drain _ ⟨hs.registered, hs.err⟩) fun _ t ht => ?_
  rw [ensures_bind, ensures_get, ensures_ite]
  constructor
  · rintro ⟨hqueued, hunwatched⟩
    rw [ensures_bind]
    refine (addFdEvents_ensures hregisters _ _).mono ?_
    rintro res u ⟨hres, hregistered, hsendq, hevents⟩
    rw [ensures_ite]
    refine ⟨fun hneg => absurd hres (Int.not_le.mpr hneg), fun _ => ensures_bind.mpr ?_⟩
    refine ensures_modify.mpr (ensures_pure.mpr ⟨⟨hregistered, ?_⟩, fun _ => ?_⟩)
    · dsimp only
      rw [or_and_mask, ht.err]
      decide
    · dsimp only
      rw [or_and_mask, hunwatched]
      decide
  · intro hsent
    refine ensures_pure.mpr ⟨ht, fun hqueued hunwatched => hsent ⟨?_, hunwatched⟩⟩
    simpa using hqueued

theorem watched_ioStateOut (hregisters : fdio.Registers) :
    Preserves IoState.Watched (ioStateOut fdio) := by
  refine watched_drain.bind fun _ => ?_
  intro s hs
  rw [ensures_bind, ensures_get, ensures_ite]
  refine ⟨fun hempty => ?_, fun _ => ensures_pure.mpr hs⟩
  rw [ensures_bind]
  refine (stopWatching_ensures hregisters (by decide) hs.toMasked).mono ?_
  rintro res t ⟨-, hmasked, hsendq, -⟩
  have hwatched : t.Watched := ⟨hmasked, fun hqueued => absurd (by simpa using hempty) (hsendq ▸ hqueued)⟩
  rw [ensures_ite]
  exact ⟨fun _ => ensures_pure.mpr hwatched, fun _ => ensures_pure.mpr hwatched⟩

/-- No longer reading leaves what is waited for to write as it is. -/
theorem watched_stopReading (hregisters : fdio.Registers) :
    Preserves IoState.Watched (stopWatching fdio epollIn) := by
  intro s hs
  refine (stopWatching_ensures hregisters (by decide) hs.toMasked).mono ?_
  rintro res t ⟨-, hmasked, hsendq, hevents⟩
  refine ⟨hmasked, fun hqueued => ?_⟩
  rw [hevents, UInt32.and_assoc, show ~~~epollIn &&& epollOut = epollOut by decide]
  exact hs.out (hsendq ▸ hqueued)

/-! ### Runs -/

/-- One use of the I/O state. The handler of a received PDU passes any number of
buffers to the queue. -/
inductive IoOp where
  | send (wbuf : Wbuf)
  | writable
  | readable (packet : Option (List UInt8)) (replies : Pdu → List Wbuf) (status : Pdu → Int32)

namespace IoOp

def sendAll (fdio : Fdio) : List Wbuf → IoM Unit
  | [] => return
  | wbuf :: wbufs => do
    let _ ← ioStateSend fdio wbuf
    sendAll fdio wbufs

def run (lib : Lib) (fdio : Fdio) : IoOp → IoM Int32
  | .send wbuf => ioStateSend fdio wbuf
  | .writable => ioStateOut fdio
  | .readable packet replies status => ioStateIn lib fdio (.refl IoState) (fun cmd => do
      logIo (.handlePdu cmd)
      sendAll fdio (replies cmd)
      return status cmd) packet

/-- An operation that crashes leads nowhere. -/
def Step (lib : Lib) (fdio : Fdio) (s : IoState) (op : IoOp) (t : IoState) : Prop :=
  ∃ res, op.run lib fdio s = .ok (res, t)

end IoOp

/-- A connected descriptor that was registered with the epoll loop. -/
def IoStarted (lib : Lib) (fdio : Fdio) (s : IoState) : Prop :=
  ∃ fd t res, connectedSocket lib fd .initializer = .ok (0, t) ∧
    addFdEventsToEpollLoop fdio t.epollEvents t = .ok (res, s) ∧ 0 ≤ res.toInt

section

variable {lib : Lib} {s t : IoState} {op : IoOp} {l : List (Transition IoState IoOp)}

/-- What sending, draining, registering and the receive buffer keep, an operation
keeps. -/
theorem IoOp.run_preserves {P : IoState → Prop} (hsend : ∀ wbuf, Preserves P (ioStateSend fdio wbuf))
    (hout : Preserves P (ioStateOut fdio)) (hstop : Preserves P (stopWatching fdio epollIn))
    (hrecv : ∀ fd, Preserves P (logIo (.recvmsg fd)))
    (hhandle : ∀ cmd, Preserves P (logIo (.handlePdu cmd)))
    (hrbuf : ∀ s rbuf, P s → P { s with rbuf }) : Preserves P (op.run lib fdio) := by
  have hall (wbufs : List Wbuf) : Preserves P (IoOp.sendAll fdio wbufs) := by
    induction wbufs with
    | nil => exact preserves_pure _ _
    | cons wbuf wbufs ih => exact (hsend wbuf).bind fun _ => ih
  cases op with
  | send wbuf => exact hsend wbuf
  | writable => exact hout
  | readable packet replies status =>
    unfold IoOp.run
    refine ioStateIn_preserves (fun s hs => ?_) ?_ (fun rbuf _ => ?_) (fun cmd => ?_) packet
    · rw [zoom_refl]
      exact hrecv _ s hs
    · rw [zoom_refl]
      exact hstop
    · rw [zoom_refl]
      exact preserves_modify fun s hs => hrbuf s (rbuf s.rbuf) hs
    · exact (hhandle cmd).bind fun _ => (hall _).bind fun _ => preserves_pure _ _

theorem connectedSocket_result {fd res : Int32}
    (h : connectedSocket lib fd .initializer = .ok (res, t)) : res = -1 ∨ res = 0 := by
  obtain ⟨_, u, hlog, h⟩ := bind_eq_ok.mp h
  cases hlog
  rw [get_bind_apply] at h
  split at h
  · cases h
    exact .inl rfl
  · cases hrbuf : lib.createPduRbuf pduMaxDataLength with
    | none =>
      rw [hrbuf] at h
      cases h
      exact .inl rfl
    | some rbuf =>
      rw [hrbuf] at h
      cases h
      exact .inr rfl

theorem connectedSocket_ok {fd : Int32} (h : connectedSocket lib fd .initializer = .ok (0, t)) :
    ∃ rbuf, lib.createPduRbuf pduMaxDataLength = some rbuf ∧
      t = ⟨fd, epollErr ||| epollIn, some rbuf, [], [.removeFd fd]⟩ := by
  obtain ⟨_, u, hlog, h⟩ := bind_eq_ok.mp h
  cases hlog
  rw [get_bind_apply] at h
  split at h
  · cases h
  cases hrbuf : lib.createPduRbuf pduMaxDataLength with
  | none =>
    rw [hrbuf] at h
    cases h
  | some rbuf =>
    rw [hrbuf] at h
    cases h
    exact ⟨rbuf, rfl, rfl⟩

theorem IoStarted.lossless (h : IoStarted lib fdio s) : s.Lossless := by
  obtain ⟨fd, t, res, hconnect, hadd, -⟩ := h
  obtain ⟨rbuf, -, rfl⟩ := connectedSocket_ok hconnect
  refine lossless_watch.addFdEvents _ _ ?_ _ _ hadd
  have hnone : IoState.Lossless ⟨fd, epollErr ||| epollIn, some rbuf, [], []⟩ := by
    refine ⟨rfl, rfl, fun log hlog => ?_⟩
    rw [List.suffix_nil.mp hlog]
    exact List.prefix_rfl
  exact hnone.log ⟨rfl, rfl, rfl⟩

theorem IoStarted.watched (h : IoStarted lib fdio s) : s.Watched := by
  obtain ⟨fd, t, res, hconnect, hadd, hres⟩ := h
  obtain ⟨rbuf, -, rfl⟩ := connectedSocket_ok hconnect
  cases hadd
  refine ⟨⟨?_, ?_⟩, fun hqueued => absurd rfl hqueued⟩
  · rw [registeredEvents, if_pos hres]
  · dsimp only
    decide

/-- However sends, writable and readable callbacks interleave and whatever the
socket answers, the queue is lossless after every step; and if the epoll loop
registers what it is asked to, it is watched after every step. -/
theorem sendQueue_lossless_watched (hstart : IoStarted lib fdio s)
    (hrun : Run (IoOp.Step lib fdio) s l t) :
    ∀ x ∈ l, x.after.Lossless ∧ (fdio.Registers → x.after.Watched) := by
  have hlossless (a : IoState) (op : IoOp) (b : IoState) (hstep : op.Step lib fdio a b)
      (ha : a.Lossless) : b.Lossless := by
    obtain ⟨res, hop⟩ := hstep
    refine IoOp.run_preserves lossless_ioStateSend lossless_ioStateOut (lossless_watch.stopWatching _)
      (fun _ => lossless_logIo ⟨rfl, rfl, rfl⟩) (fun _ => lossless_logIo ⟨rfl, rfl, rfl⟩)
      (fun s rbuf hs => ⟨hs.fifo, hs.destroyed, hs.ordered⟩) a ha res b hop
  have hwatched (hregisters : fdio.Registers) (a : IoState) (op : IoOp) (b : IoState)
      (hstep : op.Step lib fdio a b) (ha : a.Watched) : b.Watched := by
    obtain ⟨res, hop⟩ := hstep
    refine IoOp.run_preserves (watched_ioStateSend hregisters) (watched_ioStateOut hregisters)
      (watched_stopReading hregisters)
      (fun _ => preserves_modify fun s hs => ⟨⟨hs.registered, hs.err⟩, hs.out⟩)
      (fun _ => preserves_modify fun s hs => ⟨⟨hs.registered, hs.err⟩, hs.out⟩)
      (fun s rbuf hs => ⟨⟨hs.registered, hs.err⟩, hs.out⟩) a ha res b hop
  intro x hx
  exact ⟨(hrun.invariant_mem (fun _ _ => hlossless _ _ _) hstart.lossless x hx).2,
    fun hregisters => (hrun.invariant_mem (fun _ _ => hwatched hregisters _ _ _) hstart.watched x hx).2⟩

end

/-- A socket that takes a PDU once it was waited for. -/
def busyFdio : Fdio where
  addFdEventsToEpollLoop _ _ _ := 0
  sendPduWbuf log _ _ :=
    if log.any fun event => event matches .addFdEvents _ 13 _ then 1 else 0

theorem busyFdio_registers : busyFdio.Registers := by
  intro log fd events
  change 0 ≤ (0 : Int32).toInt
  decide

def pingWbuf : Wbuf := ⟨0, 0, 0, false, none, ⟨1, 1, []⟩⟩

/-- A new connection, then with a reply that waits for the socket, then with the
reply sent. -/
def busyStart : IoState := ⟨3, 9, some ⟨65539, 0, []⟩, [], [.addFdEvents 3 9 0, .removeFd 3]⟩

def busyWaiting : IoState := { busyStart with
  epollEvents := 13
  sendq := [pingWbuf]
  log := [.addFdEvents 3 13 0, .sendPduWbuf 3 pingWbuf 0, .ioStateSend pingWbuf] ++ busyStart.log }

def busyDone : IoState := { busyStart with
  log := [.addFdEvents 3 9 0, .destroyPduWbuf pingWbuf, .sendPduWbuf 3 pingWbuf 1] ++
    busyWaiting.log }

theorem sendQueue_busyFdio :
    busyWaiting.Lossless ∧ busyWaiting.Watched ∧ busyDone.Lossless ∧ busyDone.Watched := by
  have hstart : IoStarted .reference busyFdio busyStart := ⟨3, _, 0, rfl, rfl, by decide⟩
  have hrun : Run (IoOp.Step .reference busyFdio) busyStart
      [⟨busyStart, .send pingWbuf, busyWaiting⟩, ⟨busyWaiting, .writable, busyDone⟩] busyDone :=
    .cons ⟨0, rfl⟩ (.single ⟨0, rfl⟩)
  have hall := sendQueue_lossless_watched hstart hrun
  rw [List.forall_mem_cons, List.forall_mem_singleton] at hall
  obtain ⟨⟨hlossless, hwatched⟩, hlossless', hwatched'⟩ := hall
  exact ⟨hlossless, hwatched busyFdio_registers, hlossless', hwatched' busyFdio_registers⟩

end Tvd

import Tvd.Service.Delivery

/-! What the loop polls the connection for, over whole runs: for errors, for what can be
read until the peer hung up, and for room to write while something is queued. So a peer
that has sent all it will is not read again, and still gets what is queued for it. -/

namespace Tvd

open Exec

variable {w : World} {fdio : Fdio} {J : IoState → Prop}

/-! ### Reading -/

/-- Whether readability is among the events. -/
def IoState.reading (s : IoState) : UInt32 := s.epollEvents &&& epollIn

theorem keeps_reading_addFdEvents (events : UInt32) :
    Keeps IoState.reading (addFdEventsToEpollLoop fdio events) :=
  (keeps_get _).bind fun _ => Keeps.bind (keeps_modify fun _ => rfl) fun _ => keeps_pure _ _

theorem keeps_reading_drain : Keeps IoState.reading (ioStateSendPendingWbufs fdio) := by
  intro s
  exact ioStateSendPendingWbufs_preserves (P := fun t => t.reading = s.reading) (fun _ _ ht => ht)
    (fun _ _ _ _ _ _ _ ht => ht) s rfl

theorem keeps_reading_stopWriting : Keeps IoState.reading (stopWatching fdio epollOut) := by
  refine Keeps.bind (keeps_modify fun s => ?_) fun _ => (keeps_get _).bind fun s => .ite ?_ ?_
  · unfold IoState.reading
    rw [UInt32.and_assoc, show ~~~epollOut &&& epollIn = epollIn by decide]
  · exact keeps_reading_addFdEvents _
  · exact Keeps.bind (keeps_modify fun _ => rfl) fun _ => keeps_pure _ _

theorem keeps_reading_ioStateOut : Keeps IoState.reading (ioStateOut fdio) := by
  refine keeps_reading_drain.bind fun _ => (keeps_get _).bind fun s => .ite ?_ (keeps_pure _ _)
  exact keeps_reading_stopWriting.bind fun _ => .ite (keeps_pure _ _) (keeps_pure _ _)

theorem keeps_reading_ioStateSend (wbuf : Wbuf) : Keeps IoState.reading (ioStateSend fdio wbuf) := by
  refine Keeps.bind (keeps_modify fun _ => rfl) fun _ => Keeps.bind (keeps_modify fun _ => rfl) fun _ => ?_
  refine keeps_reading_drain.bind fun _ => ?_
  intro s
  rw [ensures_bind, ensures_get, ensures_ite]
  refine ⟨fun _ => ?_, fun _ => ensures_pure.mpr rfl⟩
  rw [ensures_bind]
  intro res t ht
  cases ht
  refine ensures_ite.mpr ⟨fun _ => ensures_pure.mpr rfl, fun _ => ensures_bind.mpr ?_⟩
  refine ensures_modify.mpr (ensures_pure.mpr ?_)
  unfold IoState.reading
  rw [or_and_mask, show epollOut &&& epollIn = 0 by decide, UInt32.or_zero]

/-- What is waited for to write is right, and this is what is read. -/
structure IoState.Polls (reading : UInt32) (s : IoState) : Prop extends IoState.Watched s where
  reading : s.reading = reading

section

variable (hregisters : w.fdio.Registers) {reading : UInt32}

include hregisters

theorem polls_send : SendInvariant w (IoState.Polls reading) := by
  intro wbuf s hs
  refine ((watched_ioStateSend hregisters wbuf s hs.toWatched).and
    (keeps_reading_ioStateSend wbuf s)).mono fun _ t ht => ?_
  exact ⟨ht.1, ht.2.trans hs.reading⟩

theorem polls_ioStateOut : Preserves (IoState.Polls reading) (ioStateOut w.fdio) := by
  intro s hs
  refine ((watched_ioStateOut hregisters s hs.toWatched).and (keeps_reading_ioStateOut s)).mono fun _ t ht => ?_
  exact ⟨ht.1, ht.2.trans hs.reading⟩

/-- Nothing is read any more. -/
theorem polls_stopReading {s t : IoState} {res : Int32} (hs : s.Polls reading)
    (hrun : stopWatching w.fdio epollIn s = .ok (res, t)) : t.Polls 0 := by
  refine ⟨watched_stopReading hregisters s hs.toWatched _ _ hrun, ?_⟩
  obtain ⟨-, -, -, hevents⟩ := stopWatching_ensures hregisters (by decide) hs.toMasked _ _ hrun
  unfold IoState.reading
  rw [hevents, UInt32.and_assoc, show ~~~epollIn &&& epollIn = 0 by decide, UInt32.and_zero]

end

theorem IoState.Polls.logged {s : IoState} {reading : UInt32} (h : s.Polls reading) {event : IoEvent}
    (hevent : registeredEvents (event :: s.log) = registeredEvents s.log) :
    IoState.Polls reading { s with log := event :: s.log } :=
  ⟨⟨⟨hevent.trans h.registered, h.err⟩, h.out⟩, h.reading⟩

theorem IoState.Polls.setRbuf {s : IoState} {reading : UInt32} (h : s.Polls reading) (rbuf : Option Rbuf) :
    IoState.Polls reading { s with rbuf } := ⟨⟨⟨h.registered, h.err⟩, h.out⟩, h.reading⟩

/-! ### Steps -/

/-- A packet with data does not change what is polled for, but for what is passed to the
send queue. -/
theorem SendInvariant.stateIn (h : SendInvariant w J)
    (hrecv : ∀ s : IoState, J s → J s.recvmsg) (hrbuf : ∀ s rbuf, J s → J { s with rbuf })
    (hhandle : ∀ s cmd, J s → J { s with log := .handlePdu cmd :: s.log }) {packet : List UInt8}
    {rbuf : Rbuf} {s : Daemon} (heq : s.io.rbuf = some rbuf) (hpacket : packet.take rbuf.maxlen ≠ [])
    (hs : J s.io) : Ensures (Io.stateIn w (some packet)) s fun _ t => J t.io := by
  have heq' : (Daemon.ioLens.get s).rbuf = some rbuf := heq
  intro res t hrun
  rw [show Io.stateIn w (some packet) s = _ from ioStateIn_packet heq' hpacket] at hrun
  have hreceived : J (s.io.receive rbuf packet) := hrbuf _ _ (hrecv _ hs)
  refine (show Preserves (fun s : Daemon => J s.io) _ from ?_) _ hreceived _ _ hrun
  refine .ite ?_ (.ite (preserves_pure _ _) (preserves_pure _ _))
  refine (h.handlePdu hhandle _ _).bind fun status => .ite (preserves_pure _ _) ?_
  exact Preserves.bind (preserves_io (preserves_modify fun s hs => hrbuf s _ hs)) fun _ => preserves_pure _ _

section

variable {o : ByteOrder} {maxlen : ℕ} {s t : Daemon} {input : Input} {received : List (List UInt8)}

/-- What is read after these packets: nothing, if one was empty. -/
def readingAfter (received : List (List UInt8)) : UInt32 := if [] ∈ received then 0 else epollIn

/-- While it is open, the connection is polled for what it should be. -/
def Daemon.Polls (received : List (List UInt8)) (s : Daemon) : Prop :=
  s.io.fd ≠ -1 → s.io.Polls (readingAfter received)

theorem fd_invariant (fd : Int32) : IoInvariant w fun io => io.fd = fd where
  send := inbound_sendInvariant (·.1 = fd)
  out := keeps_inbound_ioStateOut.preserves fun _ _ hsame hs => (congrArg Prod.fst hsame).trans hs
  stop := (keeps_inbound_stopWatching _).preserves fun _ _ hsame hs => (congrArg Prod.fst hsame).trans hs
  recv _ hs := hs
  handle _ _ hs := hs
  rbuf _ _ _ hs := hs

/-- Only errors and hang-ups change the descriptor, and they close it. -/
theorem Daemon.Step.fd (hstep : Daemon.Step w s input t) :
    (input = .err ∨ input = .hup → t.io.fd = -1) ∧ (input ≠ .err → input ≠ .hup → t.io.fd = s.io.fd) := by
  refine ⟨fun hclosed => ?_, fun herr hhup => (fd_invariant s.io.fd).step herr hhup s rfl _ _ hstep.2.2⟩
  obtain ⟨result, v, hcallback, ht⟩ := hstep.callback
  rw [ht]
  rcases hclosed with rfl | rfl
  · obtain ⟨_, u, hclose, hpure⟩ := bind_eq_ok.mp hcallback
    cases hpure
    cases hclose
    rfl
  · obtain ⟨_, u, hclose, hpure⟩ := bind_eq_ok.mp hcallback
    cases hpure
    cases hclose
    rfl

theorem readingAfter_nil (received : List (List UInt8)) : readingAfter (received ++ [[]]) = 0 :=
  if_pos (List.mem_append_right _ List.mem_cons_self)

theorem readingAfter_data {packet : List UInt8} (hpacket : packet ≠ []) (received : List (List UInt8)) :
    readingAfter (received ++ [packet]) = readingAfter received := by
  simp [readingAfter, hpacket.symm]

/-- A step closes the connection, or it changes what is polled for where the peer hangs
up. -/
theorem Daemon.Step.polls (hframes : w.lib.Frames o) (hroom : 4 + pduMaxDataLength ≤ maxlen)
    (hregisters : w.fdio.Registers) (hreports : w.fdio.Reports) (hstep : Daemon.Step w s input t)
    (hattached : s.Attached maxlen) (hs : s.Polls received) : t.Polls (received ++ input.packet.toList) := by
  intro hopen
  obtain ⟨hclosed, hkept⟩ := hstep.fd
  have herr : input ≠ .err := fun herr => hopen (hclosed (.inl herr))
  have hhup : input ≠ .hup := fun hhup => hopen (hclosed (.inr hhup))
  have hfd : s.io.fd ≠ -1 := hkept herr hhup ▸ hopen
  have hpolls := hs hfd
  obtain ⟨result, v, hcallback, ht⟩ := hstep.callback
  have hio : t.io = v.io := by rw [ht]
  by_cases hreadable : ∃ packet, input = .readable packet
  · obtain ⟨packet, rfl⟩ := hreadable
    have hrecv : s.io.recvmsg.Polls (readingAfter received) := hpolls.logged rfl
    obtain ⟨hnone, hnil⟩ := Daemon.Step.unread hframes hroom hreports hstep hattached
    match packet with
    | none =>
      rw [hnone rfl]
      change s.io.recvmsg.Polls (readingAfter (received ++ []))
      rwa [List.append_nil]
    | some [] =>
      obtain ⟨res, io, rbuf, hstop, -, hrbuf⟩ := hnil rfl
      rw [hrbuf]
      change IoState.Polls (readingAfter (received ++ [[]])) _
      rw [readingAfter_nil]
      exact (polls_stopReading hregisters hrecv hstop).setRbuf _
    | some (byte :: bytes) =>
      obtain ⟨rbuf, hrbuf, rfl⟩ := hattached hfd
      obtain ⟨res, u, hin, hrest⟩ := bind_eq_ok.mp hcallback
      have hu : v.io = u.io := by split at hrest <;> cases hrest <;> rfl
      rw [hio, hu]
      change IoState.Polls (readingAfter (received ++ [byte :: bytes])) _
      rw [readingAfter_data (List.cons_ne_nil _ _)]
      refine (polls_send hregisters).stateIn (fun s hs => hs.logged rfl) (fun s rbuf hs => hs.setRbuf rbuf)
        (fun s cmd hs => hs.logged rfl) hrbuf ?_ hpolls _ _ hin
      exact received_ne_nil hroom (List.cons_ne_nil _ _)
  · have hpacket : input.packet = none := by
      cases input with
      | readable packet => exact absurd ⟨packet, rfl⟩ hreadable
      | halEvent | channelUpdate | scanStatus | eventNfy | task | writable | err | hup => rfl
    rw [hio, hpacket, Option.toList_none, List.append_nil]
    by_cases hwritable : input = .writable
    · subst hwritable
      have hout : Preserves (fun s : Daemon => s.io.Polls (readingAfter received)) (Io.fdIoOut w) :=
        (preserves_io (polls_ioStateOut hregisters)).bind fun _ => .ite (preserves_pure _ _) (preserves_pure _ _)
      exact hout s hpolls _ _ hcallback
    · exact (polls_send hregisters).callback (fun packet heq => hreadable ⟨packet, heq⟩) hwritable herr hhup
        s hpolls _ _ hcallback

/-! ### Runs -/

/-- The events that the loop polls the connection for. -/
def Daemon.polled (s : Daemon) : UInt32 := (registeredEvents s.io.log).getD 0

/-- The loop reports that the connection can be read or written only where it polls for
it. -/
def Input.Polled (s : Daemon) : Input → Prop
  | .readable _ => s.polled &&& epollIn ≠ 0
  | .writable => s.polled &&& epollOut ≠ 0
  | _ => True

instance (s : Daemon) : (input : Input) → Decidable (input.Polled s)
  | .readable _ => inferInstanceAs (Decidable (s.polled &&& epollIn ≠ 0))
  | .writable => inferInstanceAs (Decidable (s.polled &&& epollOut ≠ 0))
  | .halEvent _ | .channelUpdate .. | .scanStatus .. | .eventNfy .. | .task _ | .err | .hup =>
    inferInstanceAs (Decidable True)

theorem IoState.Polls.polled {reading : UInt32} (h : s.io.Polls reading) : s.polled = s.io.epollEvents := by
  rw [Daemon.polled, h.registered, Option.getD_some]

/-- No packet arrives after an empty one. -/
theorem Daemon.Polls.hungUp (hs : s.Polls received) (hstep : Daemon.Step w s input t)
    (hpolled : input.Polled s) (hnil : [] ∈ received) : input.packet = none := by
  cases input with
  | readable packet =>
    have hpolls := hs hstep.2.1
    have hnone : s.io.reading = 0 := hpolls.reading.trans (if_pos hnil)
    rw [Input.Polled, hpolls.polled] at hpolled
    exact absurd hnone hpolled
  | halEvent | channelUpdate | scanStatus | eventNfy | task | writable | err | hup => rfl

theorem run_polls (hframes : w.lib.Frames o) (hroom : 4 + pduMaxDataLength ≤ maxlen)
    (hregisters : w.fdio.Registers) (hreports : w.fdio.Reports) {l : List (Transition Daemon Input)}
    (hrun : Run (Daemon.Step w) s l t) (hpolled : ∀ x ∈ l, x.label.Polled x.before)
    (hattached : s.Attached maxlen) : ∀ {received : List (List UInt8)}, s.Polls received →
      t.Polls (received ++ packets l) ∧ ([] ∈ received → packets l = []) ∧
        ∀ past rest, packets l = past ++ [] :: rest → rest = [] := by
  induction hrun with
  | nil s =>
    intro received hs
    refine ⟨?_, fun _ => rfl, fun past rest heq => ?_⟩
    · rwa [packets, List.filterMap_nil, List.append_nil]
    · simp [packets] at heq
  | @cons s u t input l hstep hrest ih =>
    intro received hs
    have hu := hstep.polls hframes hroom hregisters hreports hattached hs
    have hlater := ih (fun x hx => hpolled x (List.mem_cons_of_mem _ hx))
      (hstep.received hframes hroom hreports hattached).1 hu
    obtain ⟨ht, hnone, hlast⟩ := hlater
    have hhungUp := hs.hungUp hstep (hpolled _ List.mem_cons_self)
    cases hpacket : input.packet with
    | none =>
      have hsame : packets (⟨s, input, u⟩ :: l) = packets l := by simp [packets, hpacket]
      rw [hpacket, Option.toList_none, List.append_nil] at ht hnone
      rw [hsame]
      exact ⟨ht, hnone, hlast⟩
    | some packet =>
      have hmore : packets (⟨s, input, u⟩ :: l) = packet :: packets l := by simp [packets, hpacket]
      rw [hpacket, Option.toList_some] at ht hnone
      rw [hpacket] at hhungUp
      rw [hmore]
      refine ⟨?_, fun hnil => ?_, fun past rest heq => ?_⟩
      · rwa [List.append_assoc, List.singleton_append] at ht
      · cases hhungUp hnil
      · rcases List.cons_eq_append_iff.mp heq with ⟨rfl, hrest⟩ | ⟨past', rfl, hrest⟩
        · obtain ⟨rfl, rfl⟩ := List.cons.inj hrest
          exact hnone (List.mem_append_right _ List.mem_cons_self)
        · exact hlast past' rest hrest

/-- The main loop is started with the events of the I/O state. -/
theorem Daemon.Connected.registered (hregisters : w.fdio.Registers) (h : Daemon.Connected w s) :
    registeredEvents s.io.log = some s.io.epollEvents := by
  obtain ⟨fd, -, hrun⟩ := h
  obtain ⟨connected, s₁, -, hrest⟩ := bind_eq_ok.mp hrun
  split at hrest
  · cases hrest
  obtain ⟨started, s₂, hmain, hrest⟩ := bind_eq_ok.mp hrest
  split at hrest
  · cases hrest
  cases hrest
  obtain ⟨ready, s₃, hinit, hmain⟩ := bind_eq_ok.mp hmain
  cases hinit
  rw [if_neg (by decide), get_bind_apply] at hmain
  obtain ⟨res, s₄, hadd, hmain⟩ := bind_eq_ok.mp hmain
  obtain ⟨_, io, hevents, heq⟩ := zoom_eq_ok.mp hadd
  cases heq
  obtain ⟨hres, hregistered, -, hevents⟩ := addFdEvents_ensures hregisters _ _ _ _ hevents
  rw [if_neg (Int.not_lt.mpr hres)] at hmain
  cases hmain
  exact hregistered.trans (congrArg some hevents.symm)

theorem Daemon.Connected.polls (hregisters : w.fdio.Registers) (h : Daemon.Connected w s) : s.Polls [] := by
  intro _
  have hregistered := h.registered hregisters
  obtain ⟨fd, rbuf, result, -, -, hio⟩ := h.io
  rw [hio] at hregistered ⊢
  refine ⟨⟨⟨hregistered, ?_⟩, fun hqueued => absurd rfl hqueued⟩, ?_⟩
  · dsimp only
    decide
  · unfold IoState.reading
    dsimp only
    decide

/-- In every run from the connection on, where the loop registers what it is asked to and
reports only what it was asked for, an empty packet is the last that arrives. While the
connection is open, the events registered are those of the I/O state, and they have
errors, readability unless the peer hung up, and writability while something is
queued. -/
theorem polls_until_hangUp (hframes : w.lib.Frames o) (hregisters : w.fdio.Registers)
    (hreports : w.fdio.Reports) (hconnected : Daemon.Connected w s) {l : List (Transition Daemon Input)}
    (hrun : Run (Daemon.Step w) s l t) (hpolled : ∀ x ∈ l, x.label.Polled x.before) :
    (∀ past rest, packets l = past ++ [] :: rest → rest = []) ∧
      (t.io.fd ≠ -1 → t.polled = t.io.epollEvents ∧ t.polled &&& epollErr ≠ 0 ∧
        (t.polled &&& epollIn ≠ 0 ↔ [] ∉ packets l) ∧ (t.io.sendq ≠ [] → t.polled &&& epollOut ≠ 0)) := by
  obtain ⟨rbuf, hrbuf, hcreate, -⟩ := hconnected.rbuf
  obtain ⟨ht, -, hlast⟩ := run_polls hframes (hframes.room rbuf hcreate) hregisters hreports hrun hpolled
    (fun _ => ⟨rbuf, hrbuf, rfl⟩) (hconnected.polls hregisters)
  refine ⟨hlast, fun hopen => ?_⟩
  have hpolls := ht hopen
  rw [hpolls.polled]
  refine ⟨rfl, ?_, ?_, hpolls.out⟩
  · rw [hpolls.err]
    decide
  · have hreading : t.io.epollEvents &&& epollIn = readingAfter (packets l) := hpolls.reading
    rw [hreading, readingAfter]
    split
    · next hnil => exact iff_of_false (fun h => h rfl) (not_not.mpr hnil)
    · next hnil => exact iff_of_true (by decide) hnil

end

/-! ### A peer that hung up -/

/-- The in-tree daemon on a socket that takes nothing until it was waited for. -/
def busyWorld : World := .inTree .reference busyFdio switchingDriver .lp64 fun _ _ => 0

/-- A Register command, and then the end of what the peer sends. -/
def peerLeaves : List Input := [.readable (some [0, 1, 1, 0, 1]), .readable (some [])]

/-- The daemon after these. -/
def peerLeft : Daemon := peerLeaves.foldl (Daemon.next busyWorld) (.connected busyWorld)

theorem peerLeft_run : Run (Daemon.Step busyWorld) (.connected busyWorld)
    (trace (Daemon.next busyWorld) (.connected busyWorld) peerLeaves) peerLeft :=
  Daemon.trace_run (by decide +kernel)

theorem busyFdio_reports : busyFdio.Reports := by
  intro log fd events
  change (0 : Int32).toInt ≤ 0
  decide

theorem busyWorld_connects : Daemon.Connected busyWorld (.connected busyWorld) := ⟨3, by decide, rfl⟩

/-- Nothing more is read from it, and the response to its command is waited for. -/
theorem polls_until_peerLeft : peerLeft.polled = peerLeft.io.epollEvents ∧ peerLeft.polled &&& epollErr ≠ 0 ∧
    (peerLeft.polled &&& epollIn ≠ 0 ↔ [] ∉ [[0, 1, 1, 0, 1], ([] : List UInt8)]) ∧
    (peerLeft.io.sendq ≠ [] → peerLeft.polled &&& epollOut ≠ 0) := by
  have hframes : busyWorld.lib.Frames .little := Lib.reference_frames
  have hregisters : busyWorld.fdio.Registers := busyFdio_registers
  have hpolled : ∀ x ∈ trace (Daemon.next busyWorld) (.connected busyWorld) peerLeaves,
      x.label.Polled x.before := by decide +kernel
  exact (polls_until_hangUp hframes hregisters busyFdio_reports busyWorld_connects peerLeft_run hpolled).2
    (by decide +kernel)

end Tvd

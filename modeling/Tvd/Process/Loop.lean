import Tvd.Process.Opening
import Tvd.Service.Connection
import Tvd.Service.Rules

/-! The process in its loop. While the connection request is pending nothing else happens.
From then on the process does what the daemon does, on the descriptor that it opened,
until a callback leaves the loop and what is still there is given back. -/

namespace Tvd

open Exec Ledger

variable {w : World} {p : Platform} {host : Host p} {socketName : CString}

/-! ### The connection -/

/-- The I/O state, on the descriptor that the process opened or with that one closed. -/
def IoState.Owns (host : Host p) (socketName : CString) (opening : List SysEvent) (fd : Int32) (io : IoState) : Prop :=
  io.fd = fd ∧ Asked host socketName (io.log.map .io ++ opening) {.descriptor fd, .table, .taskQueue} {fd} ∨
    io.fd = -1 ∧ Asked host socketName (io.log.map .io ++ opening) {.table, .taskQueue} {fd}

theorem IoEvent.On.ne_close {fd : Int32} {event : IoEvent} (h : event.On fd) (fd' : Int32) : event ≠ .close fd' := by
  rintro rfl
  obtain ⟨hfd | hfd, hclose⟩ := h
  · cases hfd
  · cases hfd
    exact hclose rfl

theorem IoEvent.fd_of_transfers {event : IoEvent} {fd : Int32} (h : event.transfers = some fd) :
    event.fd = some fd := by
  cases event with
  | recvmsg | sendPduWbuf => exact h
  | handlePdu | ioStateSend | destroyPduWbuf | addFdEvents | removeFd | close => cases h

theorem IoEvent.On.eq {fd fd' : Int32} {event : IoEvent} (h : event.On fd) (hfd : event.fd = some fd') : fd' = fd := by
  rcases h.1 with hnone | hsome
  · cases hnone.symm.trans hfd
  · exact Option.some_inj.mp (hfd.symm.trans hsome)

section

variable {opening : List SysEvent} {fd : Int32}

theorem owns_logged : Logged (IoState.Owns host socketName opening fd) where
  log io event hon hio := by
    rcases hio with ⟨rfl, hasked⟩ | ⟨hfd, hasked⟩
    · refine .inl ⟨rfl, hasked.io event hon.ne_close (fun r hr => ?_) fun fd' htransfers _ => ?_⟩
      · cases r with
        | descriptor fd' => exact hon.eq hr.1 ▸ Set.mem_insert _ _
        | table => exact .inr (.inl rfl)
        | taskQueue => exact hr.elim
      · exact hon.eq (IoEvent.fd_of_transfers htransfers)
    · have hnone {fd' : Int32} (h : event.fd = some fd') : fd' = -1 := (hon.eq h).trans hfd
      refine .inr ⟨hfd, hasked.io event hon.ne_close (fun r hr => ?_) fun fd' htransfers hne => ?_⟩
      · cases r with
        | descriptor fd' => exact absurd (hnone hr.1) hr.2
        | table => exact .inl rfl
        | taskQueue => exact hr.elim
      · exact absurd (hnone (IoEvent.fd_of_transfers htransfers)) hne
  frame io epollEvents rbuf sendq hio := hio

/-- Closing gives the descriptor back. -/
theorem owns_closeConnection {io : IoState} (hfd : fd ≠ -1) (hopen : io.fd = fd)
    (hio : IoState.Owns host socketName opening fd io) :
    Ensures closeConnection io fun _ io' => IoState.Owns host socketName opening fd io' := by
  have hremoved := owns_logged.log io (.removeFd io.fd) ⟨.inr rfl, nofun⟩ hio
  obtain ⟨-, hasked⟩ := hremoved.resolve_right fun h => hfd (hopen.symm.trans h.1)
  have hclosed := hasked.close (Set.mem_insert _ _)
  rw [Set.insert_sdiff_self_of_notMem (by simp)] at hclosed
  intro _ io' hrun
  cases hrun
  rw [hopen] at hclosed ⊢
  exact .inr ⟨rfl, hclosed⟩

end

/-! ### Callbacks of the connection -/

theorem Logged.invariant {J : IoState → Prop} (h : Logged J) : IoInvariant w J where
  send := h.ioStateSend
  out := h.ioStateOut
  stop := h.watch.stopWatching _
  recv s hs := h.log s _ ⟨.inr rfl, nofun⟩ hs
  handle s _ hs := h.log s _ ⟨.inl rfl, nofun⟩ hs
  rbuf _ _ _ hs := h.rbuf hs _

/-- The client hung up. -/
def Input.hangsUp : Input → Bool
  | .hup => true
  | _ => false

/-- Only a hang-up leaves the loop with success, and only receiving and sending leave it
with failure. -/
theorem callback_leaves (input : Input) (s : Daemon) : Ensures (Daemon.callback w input) s fun result _ =>
    (result = .exit → input = .hup) ∧ (result = .abort → input.OfSocket ∧ input ≠ .err) := by
  have hpure {α : Type} {m : DaemonM α} {s : Daemon} {f : α → DaemonM IoResult} {Q : IoResult → Prop}
      (hf : ∀ a t, Ensures (f a) t fun result _ => Q result) : Ensures (m >>= f) s fun result _ => Q result :=
    ensures_bind.mpr fun a t _ => hf a t
  have hfails {Q : IoResult → Prop} (habort : Q .abort) (hok : Q .ok) (c : Prop) [Decidable c] (t : Daemon) :
      Ensures (if c then return .abort else return .ok : DaemonM IoResult) t fun result _ => Q result :=
    ensures_ite.mpr ⟨fun _ => ensures_pure.mpr habort, fun _ => ensures_pure.mpr hok⟩
  cases input with
  | halEvent | channelUpdate | scanStatus | eventNfy => exact hpure fun _ _ => ensures_pure.mpr ⟨nofun, nofun⟩
  | task idx =>
    refine hpure fun s' t => ?_
    cases s'.tasks[idx]? with
    | none => exact ensures_pure.mpr ⟨nofun, nofun⟩
    | some wbuf =>
      refine hpure fun _ u => hpure fun _ _ => ensures_ite.mpr ⟨fun _ => ?_, fun _ => ?_⟩
      · exact ensures_pure.mpr ⟨nofun, nofun⟩
      · exact hpure fun _ _ => ensures_pure.mpr ⟨nofun, nofun⟩
  | readable | writable =>
    exact hpure fun _ t => hfails ⟨nofun, fun _ => ⟨trivial, nofun⟩⟩ ⟨nofun, nofun⟩ _ t
  | err => exact hpure fun _ _ => ensures_pure.mpr ⟨nofun, nofun⟩
  | hup => exact hpure fun _ _ => ensures_pure.mpr ⟨fun _ => rfl, nofun⟩

/-! ### The process and the daemon -/

/-- In the loop, once the connection is set up. -/
theorem callback_connected {s t : Process} {input : Input} {result : IoResult}
    (htable : s.epollFuncs = some .connected) (hrun : Process.callback w input s = .ok (result, t)) :
    Daemon.callback w input s.daemon = .ok (result, t.daemon) ∧
      t = { s with daemon := t.daemon, awake := t.awake } ∧ (s.awake = false → t.awake = false) ∧
      (input.OfSocket → s.daemon.io.fd = s.fd) := by
  have hdaemon {m : DaemonM IoResult} {s t : Process} (hrun : onDaemon m s = .ok (result, t)) :
      m s.daemon = .ok (result, t.daemon) ∧ t = { s with daemon := t.daemon } := by
    obtain ⟨_, daemon, hm, heq⟩ := zoom_eq_ok.mp hrun
    cases heq
    exact ⟨hm, rfl⟩
  have hconnection {m : DaemonM IoResult} {s t : Process} (hrun : onConnection m s = .ok (result, t)) :
      m s.daemon = .ok (result, t.daemon) ∧ t = { s with daemon := t.daemon } ∧ s.daemon.io.fd = s.fd := by
    rw [onConnection, get_bind_apply] at hrun
    by_cases hfd : s.daemon.io.fd = s.fd
    · rw [if_neg (not_not.mpr hfd)] at hrun
      obtain ⟨hm, ht⟩ := hdaemon hrun
      exact ⟨hm, ht, hfd⟩
    · rw [if_pos hfd] at hrun
      cases hrun
  unfold Process.callback at hrun
  by_cases hsocket : input.OfSocket
  · rw [if_pos hsocket, get_bind_apply, htable] at hrun
    cases input with
    | readable packet =>
      -- the wake lock is taken and released around the callback
      change FdCallback.call w packet .fdIoIn s = _ at hrun
      rw [FdCallback.call, modify_bind_apply] at hrun
      obtain ⟨_, u, hin, hrest⟩ := bind_eq_ok.mp hrun
      cases hrest
      obtain ⟨hm, hu, hfd⟩ := hconnection hin
      refine ⟨hm, ?_, fun _ => rfl, fun _ => hfd⟩
      rw [hu]
    | writable =>
      obtain ⟨hm, ht, hfd⟩ := hconnection (m := Io.fdIoOut w) hrun
      exact ⟨hm, by rw [ht], fun hawake => by rw [ht]; exact hawake, fun _ => hfd⟩
    | err =>
      obtain ⟨hm, ht, hfd⟩ := hconnection (m := Io.fdIoErr) hrun
      exact ⟨hm, by rw [ht], fun hawake => by rw [ht]; exact hawake, fun _ => hfd⟩
    | hup =>
      obtain ⟨hm, ht, hfd⟩ := hconnection (m := Io.fdIoHup) hrun
      exact ⟨hm, by rw [ht], fun hawake => by rw [ht]; exact hawake, fun _ => hfd⟩
    | halEvent | channelUpdate | scanStatus | eventNfy | task => exact hsocket.elim
  · rw [if_neg hsocket] at hrun
    obtain ⟨hm, ht⟩ := hdaemon hrun
    exact ⟨hm, by rw [ht], fun hawake => by rw [ht]; exact hawake, fun h => absurd h hsocket⟩

/-- The connection is set up, and the loop goes on. -/
structure Process.Connected (w : World) (host : Host p) (socketName : CString) (s : Process) : Prop where
  fd : s.fd ≠ -1
  owns : IoState.Owns host socketName s.opening s.fd s.daemon.io
  daemon : Daemon.Reachable w s.daemon
  running : s.daemon.running = true
  closing : s.closing = []
  epollFuncs : s.epollFuncs = some .connected
  awake : s.awake = false
  phase : s.phase = .looping

/-- The loop was left. The callback table is given back only with a connection that is open,
and the descriptor only once it is connected. -/
structure Process.Left (host : Host p) (socketName : CString) (s : Process) : Prop where
  asked : Asked host socketName s.history
    {r | r = .table ∧ s.daemon.io.fd = -1 ∨ r = .descriptor s.fd ∧ s.Connecting} {s.fd}
  orderly : s.phase = .exited true → s.daemon.io.fd = -1 ∧ ¬s.Connecting
  pending : s.Connecting → s.daemon.io.fd = -1
  closing : s.closing ≠ []
  awake : s.awake = false
  phase : ∃ success, s.phase = .exited success

/-! ### Leaving the loop -/

section

variable {s : Process} {R : Set Resource} {B : Set Int32}

/-- The daemon without the Registry. -/
def Daemon.uninitRegistry (s : Daemon) : Daemon :=
  { s with gServiceHandler := Function.update s.gServiceHandler serviceRegistry none, gSendPdu := none }

theorem uninit_closed (hfd : s.daemon.io.fd = -1) : uninit s =
    .ok ((), { s with closing := .uninitTaskQueue :: s.closing, daemon := s.daemon.uninitRegistry }) := by
  have hio : uninitIo s = .ok ((), { s with daemon := s.daemon.uninitRegistry }) := by
    rw [uninitIo, get_bind_apply, if_neg (not_not.mpr hfd)]
    rfl
  exact bind_ok hio _

/-- What `uninit_io` does to an open connection, the last call first. -/
def Process.closeCalls (s : Process) : List SysEvent :=
  .free :: (if s.daemon.io.rbuf.isSome then [.destroyPduRbuf] else []) ++
    [.io (.close s.daemon.io.fd), .io (.removeFd s.daemon.io.fd)]

theorem uninit_open (hfd : s.daemon.io.fd ≠ -1) (htable : s.epollFuncs.isSome = true) : uninit s = .ok ((), { s with
    closing := .uninitTaskQueue :: s.closeCalls ++ s.closing, daemon := s.daemon.uninitRegistry }) := by
  have hio : uninitIo s = .ok ((), { s with
      closing := s.closeCalls ++ s.closing, daemon := s.daemon.uninitRegistry }) := by
    rw [uninitIo, get_bind_apply, if_pos hfd, htable]
    unfold Process.closeCalls
    cases s.daemon.io.rbuf with
    | none => rfl
    | some rbuf => rfl
  exact bind_ok hio _

/-- All that an open connection holds is given back. -/
theorem closeCalls_asked {log : List SysEvent}
    (h : Asked host socketName log {.descriptor s.daemon.io.fd, .table, .taskQueue} B) :
    Asked host socketName (.uninitTaskQueue :: s.closeCalls ++ log) ∅ B := by
  have hremoved := h.io (.removeFd s.daemon.io.fd) nofun (fun r hr => ?_) nofun
  · have hclosed := hremoved.close (Set.mem_insert _ _)
    rw [Set.insert_sdiff_self_of_notMem (by simp)] at hclosed
    have hdestroyed : Asked host socketName ((if s.daemon.io.rbuf.isSome then [.destroyPduRbuf] else []) ++
        [.io (.close s.daemon.io.fd), .io (.removeFd s.daemon.io.fd)] ++ log) {.table, .taskQueue} B := by
      cases s.daemon.io.rbuf with
      | none => exact hclosed
      | some rbuf => exact hclosed.destroyPduRbuf
    have hfreed := hdestroyed.free (Set.mem_insert _ _)
    rw [Set.insert_sdiff_self_of_notMem (by simp)] at hfreed
    have hgiven := hfreed.uninitTaskQueue rfl
    rw [Set.sdiff_self] at hgiven
    exact hgiven
  cases r with
  | descriptor fd =>
    cases hr.1
    exact Set.mem_insert _ _
  | table => exact Set.mem_insert_of_mem _ (Set.mem_insert _ _)
  | taskQueue => exact hr.elim

end

/-- The loop is left with a connection that was set up. -/
theorem left_connected {s t : Process} {result : IoResult} (hfd : s.fd ≠ -1)
    (howns : IoState.Owns host socketName s.opening s.fd s.daemon.io) (hclosing : s.closing = [])
    (htable : s.epollFuncs = some .connected) (hawake : s.awake = false) (hexit : result = .exit → s.daemon.io.fd = -1)
    (hrun : (do uninit; Exec.modify fun s => { s with phase := .exited (result = IoResult.exit) }) s = .ok ((), t)) :
    Process.Left host socketName t ∧ t.phase = .exited (result = .exit) := by
  have hconnecting : ¬some FdEvents.connected = some .connecting := by decide
  have horderly {t : Process} (hphase : Phase.exited (result = IoResult.exit) = .exited true)
      (hio : t.daemon.io = s.daemon.io) (hfuncs : t.epollFuncs = s.epollFuncs) :
      t.daemon.io.fd = -1 ∧ ¬t.Connecting := by
    rw [Phase.exited.injEq, decide_eq_true_eq] at hphase
    rw [hio, Process.Connecting, hfuncs, htable]
    exact ⟨hexit hphase, hconnecting⟩
  rcases howns with ⟨hopen, hasked⟩ | ⟨hclosed, hasked⟩
  · have hne : s.daemon.io.fd ≠ -1 := hopen ▸ hfd
    rw [bind_ok (uninit_open hne (htable ▸ rfl))] at hrun
    cases hrun
    rw [← hopen] at hasked
    have hgiven := closeCalls_asked hasked
    refine ⟨⟨?_, fun hphase => horderly hphase rfl rfl, fun h => absurd (htable.symm.trans h) hconnecting, nofun,
      hawake, _, rfl⟩, rfl⟩
    have hnone : {r | r = Resource.table ∧ s.daemon.io.fd = -1 ∨ r = .descriptor s.fd ∧ s.Connecting} = ∅ := by
      ext r
      simp [hne, Process.Connecting, htable, hconnecting]
    rw [Process.history]
    change Asked host socketName (.uninitTaskQueue :: s.closeCalls ++ s.closing ++ _ ++ _)
      {r | r = Resource.table ∧ s.daemon.io.fd = -1 ∨ r = .descriptor s.fd ∧ s.Connecting} {s.fd}
    rw [hnone, hclosing, List.append_nil, List.append_assoc, ← hopen]
    exact hgiven
  · rw [bind_ok (uninit_closed hclosed)] at hrun
    cases hrun
    have hgiven := hasked.uninitTaskQueue (Set.mem_insert_of_mem _ rfl)
    refine ⟨⟨?_, fun hphase => horderly hphase rfl rfl, fun h => absurd (htable.symm.trans h) hconnecting, nofun,
      hawake, _, rfl⟩, rfl⟩
    have htable : {r | r = Resource.table ∧ s.daemon.io.fd = -1 ∨ r = .descriptor s.fd ∧ s.Connecting} =
        {Resource.table, .taskQueue} \ {.taskQueue} := by
      ext r
      simp [hclosed, Process.Connecting, htable, hconnecting]
    rw [Process.history]
    change Asked host socketName (.uninitTaskQueue :: s.closing ++ _ ++ _)
      {r | r = Resource.table ∧ s.daemon.io.fd = -1 ∨ r = .descriptor s.fd ∧ s.Connecting} {s.fd}
    rw [htable, hclosing]
    exact hgiven

/-! ### Setting up the connection -/

theorem setUpConnection_spec {s t : Process} {fd res : Int32} (hdaemon : s.daemon = .zero)
    (hrun : setUpConnection w fd s = .ok (res, t)) :
    res = -1 ∧ t = { s with daemon := { Daemon.zero with io := { IoState.initializer with log := [.removeFd fd] } } } ∨
      ∃ io, onIo (connectedSocket w.lib fd) .zero = .ok (0, { Daemon.zero with io }) ∧ res = 0 ∧
        (∃ rbuf, io = ⟨fd, epollErr ||| epollIn, some rbuf, [], [.removeFd fd]⟩) ∧
        t = { s with epollFuncs := some .connected, daemon := { Daemon.zero with io } } := by
  have hio (r : Int32) (io : IoState) (h : connectedSocket w.lib fd .initializer = .ok (r, io)) :
      onDaemon (onIo (connectedSocket w.lib fd)) s = .ok (r, { s with daemon := { Daemon.zero with io } }) := by
    refine zoom_ok (t := { Daemon.zero with io }) ?_
    change onIo (connectedSocket w.lib fd) s.daemon = _
    rw [hdaemon]
    exact zoom_ok h
  unfold setUpConnection at hrun
  cases hrbuf : w.lib.createPduRbuf pduMaxDataLength with
  | none =>
    have hsocket : connectedSocket w.lib fd .initializer =
        .ok (-1, { IoState.initializer with log := [.removeFd fd] }) := by
      unfold connectedSocket
      rw [hrbuf]
      rfl
    rw [bind_ok (hio _ _ hsocket), if_pos (by decide)] at hrun
    cases hrun
    exact .inl ⟨rfl, rfl⟩
  | some rbuf =>
    have hsocket : connectedSocket w.lib fd .initializer =
        .ok (0, ⟨fd, epollErr ||| epollIn, some rbuf, [], [.removeFd fd]⟩) := by
      unfold connectedSocket
      rw [hrbuf]
      rfl
    rw [bind_ok (hio _ _ hsocket), if_neg (by decide)] at hrun
    cases hrun
    exact .inr ⟨_, zoom_ok hsocket, rfl, ⟨rbuf, rfl⟩, rfl⟩

/-- The main loop is started, or the Registry is not. -/
theorem startMainLoop_spec {s t : Daemon} {res : Int32} (hrun : Io.startMainLoop w s = .ok (res, t)) :
    (∃ result, t.io = { s.io with log := .addFdEvents s.io.fd s.io.epollEvents result :: s.io.log }) ∧
      t.running = s.running := by
  obtain ⟨ready, u, hinit, hrun⟩ := bind_eq_ok.mp hrun
  cases hinit
  rw [if_neg (by decide), get_bind_apply] at hrun
  obtain ⟨result, v, hadd, hrun⟩ := bind_eq_ok.mp hrun
  obtain ⟨_, io, hadd, heq⟩ := zoom_eq_ok.mp hadd
  cases hadd
  cases heq
  split at hrun
  · obtain ⟨_, x, huninit, hpure⟩ := bind_eq_ok.mp hrun
    cases huninit
    cases hpure
    exact ⟨⟨_, rfl⟩, rfl⟩
  · cases hrun
    exact ⟨⟨_, rfl⟩, rfl⟩

/-- The connection is set up, and the loop may be left all the same, or nothing is. -/
theorem fdConOut_spec {s t : Process} {fd : Int32} {result : IoResult} (hdaemon : s.daemon = .zero)
    (hrun : fdConOut w fd s = .ok (result, t)) :
    result = .abort ∧
        t = { s with daemon := { Daemon.zero with io := { IoState.initializer with log := [.removeFd fd] } } } ∨
      (result = .ok → Io.fdConOut w fd .zero = .ok (.ok, t.daemon)) ∧ (result = .ok ∨ result = .abort) ∧
        t = { s with epollFuncs := some .connected, daemon := t.daemon } ∧ t.daemon.running = true ∧
        ∃ rbuf added, t.daemon.io = ⟨fd, epollErr ||| epollIn, some rbuf, [],
          [.addFdEvents fd (epollErr ||| epollIn) added, .removeFd fd]⟩ := by
  obtain ⟨res, u, hsetUp, hrun⟩ := bind_eq_ok.mp hrun
  rcases setUpConnection_spec hdaemon hsetUp with ⟨rfl, rfl⟩ | ⟨io, hsocket, rfl, ⟨rbuf, hio⟩, rfl⟩
  · rw [if_pos (by decide)] at hrun
    cases hrun
    exact .inl ⟨rfl, rfl⟩
  rw [if_neg (by decide)] at hrun
  obtain ⟨started, v, hmain, hrest⟩ := bind_eq_ok.mp hrun
  obtain ⟨_, daemon, hstart, heq⟩ := zoom_eq_ok.mp hmain
  cases heq
  have hstart : Io.startMainLoop w { Daemon.zero with io } = .ok (started, daemon) := hstart
  obtain ⟨⟨added, hlog⟩, hrunning⟩ := startMainLoop_spec hstart
  have hio' : daemon.io = ⟨fd, epollErr ||| epollIn, some rbuf, [],
      [.addFdEvents fd (epollErr ||| epollIn) added, .removeFd fd]⟩ := by
    subst hio
    exact hlog
  by_cases hneg : started.toInt < 0
  · rw [if_pos hneg] at hrest
    cases hrest
    exact .inr ⟨nofun, .inr rfl, rfl, hrunning, rbuf, added, hio'⟩
  · rw [if_neg hneg] at hrest
    cases hrest
    refine .inr ⟨fun _ => ?_, .inl rfl, rfl, hrunning, rbuf, added, hio'⟩
    unfold Io.fdConOut
    rw [bind_ok hsocket, if_neg (by decide), bind_ok hstart, if_neg hneg]
    rfl

/-! ### Steps -/

/-- The connection that was set up is on the descriptor that was opened. -/
theorem owns_setUp {opening : List SysEvent} {fd added : Int32} {rbuf : Rbuf}
    (h : Asked host socketName opening {.descriptor fd, .table, .taskQueue} {fd}) :
    IoState.Owns host socketName opening fd ⟨fd, epollErr ||| epollIn, some rbuf, [],
      [.addFdEvents fd (epollErr ||| epollIn) added, .removeFd fd]⟩ := by
  have hstart : IoState.Owns host socketName opening fd ⟨fd, epollErr ||| epollIn, some rbuf, [], []⟩ := .inl ⟨rfl, h⟩
  have hremoved := owns_logged.log _ (.removeFd fd) ⟨.inr rfl, nofun⟩ hstart
  exact owns_logged.log _ (.addFdEvents fd (epollErr ||| epollIn) added) ⟨.inr rfl, nofun⟩ hremoved

/-- While the connection request is pending, it is accepted or fails. -/
theorem Process.Entered.enabled {s : Process} {input : Input} (hs : Process.Entered host socketName s)
    (henabled : s.Enabled input) : input = .writable ∨ input = .err := by
  have hdaemon := hs.daemon
  unfold Process.Enabled at henabled
  rw [hs.epollFuncs, hdaemon] at henabled
  cases input with
  | readable | hup => exact absurd henabled.1 Bool.false_ne_true
  | writable => exact .inl rfl
  | err => exact .inr rfl
  -- no other callback was installed, and no task queued
  | halEvent => exact absurd henabled List.not_mem_nil
  | channelUpdate | scanStatus | eventNfy => exact absurd henabled Bool.false_ne_true
  | task idx => exact absurd henabled (Nat.not_lt_zero idx)

/-- With the connection still to be set up, the descriptor is left open. -/
theorem left_entered {s t : Process} (log : List IoEvent) (hs : Process.Entered host socketName s)
    (hasked : Asked host socketName (log.map .io ++ s.opening) {.descriptor s.fd, .table, .taskQueue} {s.fd})
    (hrun : (do uninit; Exec.modify fun s => { s with phase := .exited (IoResult.abort = IoResult.exit) })
      { s with daemon := { Daemon.zero with io := { IoState.initializer with log } } } = .ok ((), t)) :
    Process.Left host socketName t ∧ t.phase = .exited false := by
  rw [bind_ok (uninit_closed rfl)] at hrun
  cases hrun
  have hgiven := hasked.uninitTaskQueue (by simp)
  refine ⟨⟨?_, nofun, fun _ => rfl, nofun, hs.awake, _, rfl⟩, rfl⟩
  have hboth : {r | r = Resource.table ∧ (-1 : Int32) = -1 ∨ r = .descriptor s.fd ∧ s.Connecting} =
      {Resource.descriptor s.fd, .table, .taskQueue} \ {.taskQueue} := by
    ext r
    simp only [and_true, Process.Connecting, hs.epollFuncs, Set.mem_ofPred_eq, Set.mem_sdiff,
      Set.mem_insert_iff, Set.mem_singleton_iff]
    constructor
    · rintro (rfl | rfl) <;> simp
    · rintro ⟨rfl | rfl | rfl, hne⟩
      · exact .inr rfl
      · exact .inl rfl
      · exact absurd rfl hne
  change Asked host socketName (.uninitTaskQueue :: s.closing ++ _ ++ _)
    {r | r = Resource.table ∧ (-1 : Int32) = -1 ∨ r = .descriptor s.fd ∧ s.Connecting} {s.fd}
  rw [hboth, hs.closing]
  exact hgiven

/-- The first step sets up the connection, or leaves the loop with failure. -/
theorem Process.Entered.step {s t : Process} {input : Input} (hs : Process.Entered host socketName s)
    (hstep : Process.Step w s input t) :
    Process.Connected w host socketName t ∧ t.fd = s.fd ∧ Io.fdConOut w s.fd .zero = .ok (.ok, t.daemon) ∨
      Process.Left host socketName t ∧ t.phase = .exited false := by
  obtain ⟨-, henabled, hrun⟩ := hstep
  have hfd : s.fd ≠ -1 := by
    intro hfd
    have hpos := hs.fd
    rw [hfd] at hpos
    exact absurd hpos (by decide)
  obtain ⟨result, u, hcallback, hrest⟩ := bind_eq_ok.mp hrun
  unfold Process.callback at hcallback
  rcases hs.enabled henabled with rfl | rfl
  · rw [if_pos (show Input.writable.OfSocket from trivial), get_bind_apply, hs.epollFuncs] at hcallback
    change (do let s ← Exec.get; fdConOut w s.fd) s = _ at hcallback
    rw [get_bind_apply] at hcallback
    rcases fdConOut_spec hs.daemon hcallback with ⟨rfl, rfl⟩ | ⟨hok, hresult, hu, hrunning, rbuf, added, hio⟩
    · have hremoved := hs.asked.io (.removeFd s.fd) nofun (fun r hr => ?_) nofun
      · rw [if_pos (.inr rfl)] at hrest
        exact .inr (left_entered [.removeFd s.fd] hs hremoved hrest)
      cases r with
      | descriptor fd =>
        cases hr.1
        exact Set.mem_insert _ _
      | table => exact .inr (.inl rfl)
      | taskQueue => exact hr.elim
    have howns : IoState.Owns host socketName u.opening u.fd u.daemon.io := by
      rw [hu, hio]
      exact owns_setUp hs.asked
    have hclosing : u.closing = [] := by rw [hu]; exact hs.closing
    have htable : u.epollFuncs = some .connected := by rw [hu]
    have hawake : u.awake = false := by rw [hu]; exact hs.awake
    have hfd : u.fd ≠ -1 := by rw [hu]; exact hfd
    rcases hresult with rfl | rfl
    · rw [if_neg (by decide)] at hrest
      cases hrest
      have hphase : t.phase = .looping := by rw [hu]; exact hs.phase
      refine .inl ⟨⟨hfd, howns, ⟨_, ⟨s.fd, hs.fd, hok rfl⟩, .refl _⟩, hrunning, hclosing, htable, hawake, hphase⟩, ?_,
        hok rfl⟩
      rw [hu]
    · have hexit : IoResult.abort = .exit → u.daemon.io.fd = -1 := nofun
      rw [if_pos (.inr rfl)] at hrest
      exact .inr (left_connected hfd howns hclosing htable hawake hexit hrest)
  · rw [if_pos (show Input.err.OfSocket from trivial), get_bind_apply, hs.epollFuncs] at hcallback
    cases hcallback
    rw [if_pos (.inr rfl)] at hrest
    have hsame : s = { s with daemon := { Daemon.zero with io := { IoState.initializer with log := [] } } } := by
      have hdaemon : s.daemon = { Daemon.zero with io := { IoState.initializer with log := [] } } := hs.daemon
      rw [← hdaemon]
    rw [hsame] at hrest
    exact .inr (left_entered [] hs hs.asked hrest)

/-- What a callback keeps of the connection. -/
theorem owns_callback {opening : List SysEvent} {fd : Int32} {input : Input} {s : Daemon} (hfd : fd ≠ -1)
    (hsocket : input.OfSocket → s.io.fd = fd) (howns : IoState.Owns host socketName opening fd s.io) :
    Ensures (Daemon.callback w input) s fun _ t => IoState.Owns host socketName opening fd t.io := by
  have hclose (hopen : s.io.fd = fd) (result : IoResult) :
      Ensures (do onIo closeConnection; return result) s fun _ t => IoState.Owns host socketName opening fd t.io := by
    rw [ensures_bind, ensures_zoom]
    exact (owns_closeConnection hfd hopen howns).mono fun _ io hio => ensures_pure.mpr hio
  by_cases herr : input = .err
  · subst herr
    exact hclose (hsocket trivial) .poll
  by_cases hhup : input = .hup
  · subst hhup
    exact hclose (hsocket trivial) .exit
  exact owns_logged.invariant.callback herr hhup s howns

/-- Every later step is one of the daemon, or leaves the loop, with success if and only if
the client hung up. -/
theorem Process.Connected.step {s t : Process} {input : Input} (hs : Process.Connected w host socketName s)
    (hstep : Process.Step w s input t) :
    Process.Connected w host socketName t ∧ Daemon.Step w s.daemon input t.daemon ∨
      Process.Left host socketName t ∧ t.phase = .exited input.hangsUp := by
  obtain ⟨-, henabled, hrun⟩ := hstep
  obtain ⟨result, u, hcallback, hrest⟩ := bind_eq_ok.mp hrun
  obtain ⟨hdaemon, hu, hawake, hsocket⟩ := callback_connected hs.epollFuncs hcallback
  have howns : IoState.Owns host socketName u.opening u.fd u.daemon.io := by
    have hkept := owns_callback hs.fd hsocket hs.owns result u.daemon hdaemon
    rwa [hu]
  have hfd : u.fd ≠ -1 := by rw [hu]; exact hs.fd
  have hclosing : u.closing = [] := by rw [hu]; exact hs.closing
  have htable : u.epollFuncs = some .connected := by rw [hu]; exact hs.epollFuncs
  by_cases hleaves : result = .exit ∨ result = .abort
  · rw [if_pos hleaves] at hrest
    have hexit (hresult : result = .exit) : u.daemon.io.fd = -1 := by
      cases (callback_leaves input _ _ _ hdaemon).1 hresult
      obtain ⟨_, v, hhup, hpure⟩ := bind_eq_ok.mp hdaemon
      obtain ⟨_, io, hclose, heq⟩ := zoom_eq_ok.mp hhup
      cases hclose
      cases heq
      injection hpure with hpair
      exact congrArg (fun r : IoResult × Daemon => r.2.io.fd) hpair.symm
    obtain ⟨hleft, hphase⟩ := left_connected hfd howns hclosing htable (hawake hs.awake) hexit hrest
    refine .inr ⟨hleft, hphase.trans (congrArg _ (Bool.eq_iff_iff.mpr ?_))⟩
    rw [decide_eq_true_eq]
    constructor
    · intro hexit
      rw [(callback_leaves input _ _ _ hdaemon).1 hexit, Input.hangsUp]
    · intro hhup
      cases input with
      | hup =>
        obtain ⟨_, v, -, hpure⟩ := bind_eq_ok.mp hdaemon
        cases hpure
        rfl
      | halEvent | channelUpdate | scanStatus | eventNfy | task | readable | writable | err => cases hhup
  · rw [if_neg hleaves] at hrest
    cases hrest
    have henabled' : s.daemon.Enabled input := by
      unfold Process.Enabled Process.Connecting at henabled
      rw [hs.epollFuncs] at henabled
      have hopen (h : some FdEvents.connected = some .connecting ∨ s.daemon.io.fd ≠ -1) : s.daemon.io.fd ≠ -1 :=
        h.resolve_left (by decide)
      cases input with
      | readable | writable | err | hup => exact hopen henabled.2
      | halEvent | channelUpdate | scanStatus | eventNfy | task => exact henabled
    have hdaemonStep : Daemon.Step w s.daemon input t.daemon := by
      refine ⟨hs.running, henabled', ?_⟩
      rw [Daemon.step, bind_ok hdaemon, if_neg hleaves]
      rfl
    have hrunning : t.daemon.running = true := (running_rules.callback input _ _ _ hdaemon).trans hs.running
    refine .inl ⟨⟨hfd, howns, hs.daemon.step hdaemonStep, hrunning, hclosing, htable, hawake hs.awake, ?_⟩, hdaemonStep⟩
    rw [hu]
    exact hs.phase

end Tvd

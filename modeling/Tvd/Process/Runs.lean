import Tvd.Process.Loop

/-! Runs of the process, from its command line to its exit. In each state that it reaches,
the process has used only what it had. What it still has when it exits, what it exits
with, and where it connects to follow from how it started and how the loop was left. -/

namespace Tvd

open Exec Ledger

variable {w : World} {p : Platform} {host : Host p} {argv : List CString}

/-- The options are accepted. -/
def Accepts (argv : List CString) : Prop := (parseOpts argv ⟨defaultSocketName⟩).1 = 0

/-- The process ended with its options. -/
structure Process.Refused (argv : List CString) (s : Process) : Prop where
  refused : ¬Accepts argv
  history : s.history = []
  closing : s.closing = []
  awake : s.awake = false
  phase : s.phase = .exited ((parseOpts argv ⟨defaultSocketName⟩).1 = 1)

/-- All that a process can be. -/
inductive Process.Stage (w : World) (host : Host p) (argv : List CString) (s : Process) : Prop
  | refused (h : Process.Refused argv s)
  | failed (haccepts : Accepts argv) (h : Process.Failed host (givenOptions argv).socketName s)
  | entered (haccepts : Accepts argv) (h : Process.Entered host (givenOptions argv).socketName s)
  | connected (haccepts : Accepts argv) (h : Process.Connected w host (givenOptions argv).socketName s)
  | left (haccepts : Accepts argv) (h : Process.Left host (givenOptions argv).socketName s)

theorem Process.Started.stage (hargv : ∀ arg ∈ argv, arg.strlen ≤ p.sizeMax) {s : Process}
    (h : Process.Started host argv s) : Process.Stage w host argv s := by
  rcases h.cases hargv with ⟨hrefused, rfl⟩ | ⟨haccepts, hfailed | hentered⟩
  · refine .refused ⟨hrefused, rfl, rfl, rfl, congrArg _ (Bool.eq_iff_iff.mpr ?_)⟩
    rw [decide_eq_true_eq, decide_eq_true_eq]
    rcases (parseOpts_result argv ⟨defaultSocketName⟩).2.2 with h | h | h
    · exact absurd h hrefused
    all_goals rw [h]; decide
  · exact .failed haccepts hfailed
  · exact .entered haccepts hentered

theorem Process.Started.closing (hargv : ∀ arg ∈ argv, arg.strlen ≤ p.sizeMax) {s : Process}
    (h : Process.Started host argv s) : s.closing = [] := by
  rcases h.cases hargv with ⟨-, rfl⟩ | ⟨-, hfailed | hentered⟩
  · rfl
  · exact hfailed.closing
  · exact hentered.closing

/-- If the client hung up the loop is left with success, and else it goes on or is left
with failure. -/
theorem Process.Stage.step {s t : Process} {input : Input} (hs : Process.Stage w host argv s)
    (hstep : Process.Step w s input t) : Process.Stage w host argv t ∧
      (t.phase = .looping ∧ input.hangsUp = false ∨ t.phase = .exited input.hangsUp) := by
  have hlooping : s.phase = .looping := hstep.1
  cases hs with
  | refused h => cases hlooping.symm.trans h.phase
  | failed _ h => cases hlooping.symm.trans h.phase
  | left _ h =>
    obtain ⟨success, hphase⟩ := h.phase
    cases hlooping.symm.trans hphase
  | entered haccepts h =>
    have hinput : input.hangsUp = false := by
      rcases h.enabled hstep.2.1 with rfl | rfl <;> rfl
    rw [hinput]
    rcases h.step hstep with ⟨ht, -⟩ | ⟨ht, hphase⟩
    · exact ⟨.connected haccepts ht, .inl ⟨ht.phase, rfl⟩⟩
    · exact ⟨.left haccepts ht, .inr hphase⟩
  | connected haccepts h =>
    rcases h.step hstep with ⟨ht, hdaemon⟩ | ⟨ht, hphase⟩
    · refine ⟨.connected haccepts ht, .inl ⟨ht.phase, ?_⟩⟩
      cases input with
      | hup =>
        -- the daemon would have stopped
        obtain ⟨_, v, hcallback, hrest⟩ := bind_eq_ok.mp hdaemon.2.2
        obtain ⟨_, _, -, hpure⟩ := bind_eq_ok.mp hcallback
        cases hpure
        rw [if_pos (.inl rfl)] at hrest
        injection hrest with hpair
        cases (congrArg (fun r : Unit × Daemon => r.2.running) hpair).trans ht.running
      | halEvent | channelUpdate | scanStatus | eventNfy | task | readable | writable | err => rfl
    · exact ⟨.left haccepts ht, .inr hphase⟩

theorem Process.Reachable.stage (hargv : ∀ arg ∈ argv, arg.strlen ≤ p.sizeMax) {s : Process}
    (h : Process.Reachable w host argv s) : Process.Stage w host argv s := by
  obtain ⟨s₀, hs₀, hreach⟩ := h
  exact hreach.invariant (fun _ _ _ hstep hs => (hs.step hstep).1) (hs₀.stage hargv)

/-! ### A client that registers the service -/

/-- A system that grants everything. -/
def readyHost : Host .lp64 where
  layout := .linux .lp64
  order := .little
  addr := 16
  stack _ := 0
  addr_ne := by decide
  socket _ := 3
  fcntl _ _ _ := 0
  connect _ _ _ := 0
  addFdEventsToEpollLoop _ _ _ := 0
  calloc _ := true
  initTaskQueue _ := 0

/-- The process is told where to connect. -/
def clientArgv : List CString := [⟨[dash, optA, 0x74, 0x76], by decide⟩]

theorem clientArgv_strlen : ∀ arg ∈ clientArgv, arg.strlen ≤ Platform.lp64.sizeMax := by decide

/-- The connection is set up, a command is handled, and the client hangs up. -/
def clientInputs : List Input := [.writable, .readable (some [0, 1, 1, 0, 1]), .hup]

def clientStart : Process := .start readyHost clientArgv

def clientTrace : List (Transition Process Input) :=
  trace (Process.next (.onDriver switchingDriver)) clientStart clientInputs

def clientEnd : Process := clientInputs.foldl (Process.next (.onDriver switchingDriver)) clientStart

theorem client_started : Process.Started readyHost clientArgv clientStart := Process.started_start _ (by decide +kernel)

theorem client_run : Run (Process.Step (.onDriver switchingDriver)) clientStart clientTrace clientEnd :=
  Process.trace_run _ (by decide +kernel)

theorem client_reachable : Process.Reachable (.onDriver switchingDriver) readyHost clientArgv clientEnd :=
  ⟨_, client_started, _, client_run⟩

/-! ### What is used -/

/-- What was asked of the system so far, in each of the stages. -/
theorem Process.Stage.asked {s : Process} (hs : Process.Stage w host argv s) :
    ∃ R B, Asked host (givenOptions argv).socketName s.history R B := by
  cases hs with
  | refused h =>
    rw [h.history]
    exact ⟨_, _, asked_nil _ _⟩
  | failed _ h =>
    obtain ⟨B, hasked⟩ := h.asked
    rw [history, h.closing, h.daemon]
    exact ⟨_, B, hasked⟩
  | entered _ h =>
    rw [history, h.closing, h.daemon]
    exact ⟨_, _, h.asked⟩
  | connected _ h =>
    rw [history, h.closing]
    rcases h.owns with ⟨-, hasked⟩ | ⟨-, hasked⟩
    · exact ⟨_, _, hasked⟩
    · exact ⟨_, _, hasked⟩
  | left _ h => exact ⟨_, _, h.asked⟩

/-- Over the whole run of the process, whatever the system, the socket, the client and the
driver do, no descriptor is used before it was opened or after it was closed, none is
closed twice, the callback table is not freed twice or watched once it is freed, the task
queue is given back at most once and only if it was there, and nothing that could block is
done on a descriptor that was not made non-blocking. -/
theorem process_uses_resources (hargv : ∀ arg ∈ argv, arg.strlen ≤ p.sizeMax) {s : Process}
    (h : Process.Reachable w host argv s) :
    SysEvent.resources.Sound s.history ∧ SysEvent.nonblocking.Sound s.history := by
  obtain ⟨R, B, hasked⟩ := (h.stage hargv).asked
  exact ⟨hasked.resources.sound, hasked.nonblocking.sound⟩

theorem process_uses_client :
    SysEvent.resources.Sound clientEnd.history ∧ SysEvent.nonblocking.Sound clientEnd.history :=
  process_uses_resources clientArgv_strlen client_reachable

/-! ### What is left -/

theorem Process.Left.held {socketName : CString} {s : Process} (h : Process.Left host socketName s) :
    SysEvent.resources.held s.history =
      if s.Connecting then {.table, .descriptor s.fd} else if s.daemon.io.fd = -1 then {.table} else ∅ := by
  rw [h.asked.resources.held]
  ext r
  by_cases hconnecting : s.Connecting
  · simp [hconnecting, h.pending hconnecting]
  · by_cases hfd : s.daemon.io.fd = -1 <;> simp [hconnecting, hfd]

/-- What the process still has when it exits. If it was never in its loop, that is nothing,
but then it leaves the system awake unless its options were refused. If it left the loop
before the connection was set up, it is the callback table and the descriptor. If it left
later, it is the callback table once the connection is closed, so also after an orderly
exit, and else nothing. -/
theorem process_exits_with (hargv : ∀ arg ∈ argv, arg.strlen ≤ p.sizeMax) {s : Process} {success : Bool}
    (h : Process.Reachable w host argv s) (hexited : s.phase = .exited success) :
    (s.closing = [] → SysEvent.resources.held s.history = ∅ ∧ (s.awake = true ↔ Accepts argv)) ∧
      (s.closing ≠ [] → SysEvent.resources.held s.history =
        (if s.Connecting then {.table, .descriptor s.fd} else if s.daemon.io.fd = -1 then {.table} else ∅) ∧
        s.awake = false ∧ (success = true → SysEvent.resources.held s.history = {.table})) := by
  cases h.stage hargv with
  | refused h =>
    refine ⟨fun _ => ⟨?_, ?_⟩, fun hclosing => absurd h.closing hclosing⟩
    · rw [h.history]
      rfl
    · rw [h.awake]
      exact iff_of_false Bool.false_ne_true h.refused
  | failed haccepts h =>
    obtain ⟨B, hasked⟩ := h.asked
    refine ⟨fun _ => ⟨?_, iff_of_true h.awake haccepts⟩, fun hclosing => absurd h.closing hclosing⟩
    rw [Process.history, h.closing, h.daemon]
    exact hasked.resources.held
  | entered _ h => cases hexited.symm.trans h.phase
  | connected _ h => cases hexited.symm.trans h.phase
  | left _ h =>
    refine ⟨fun hclosing => absurd hclosing h.closing, fun _ => ⟨h.held, h.awake, ?_⟩⟩
    rintro rfl
    obtain ⟨hfd, hconnecting⟩ := h.orderly hexited
    rw [h.held, if_neg hconnecting, if_pos hfd]

/-- The client hangs up, and the table is left. If the connection request fails, so is the
descriptor. -/
theorem process_exits_client :
    clientEnd.phase = .exited true ∧ SysEvent.resources.held clientEnd.history = {.table} ∧
      ∃ s, Process.Reachable (.onDriver switchingDriver) readyHost clientArgv s ∧ s.phase = .exited false ∧
        SysEvent.resources.held s.history = {.table, .descriptor 3} := by
  have hexited : clientEnd.phase = .exited true := by decide +kernel
  have hleft := (process_exits_with clientArgv_strlen client_reachable hexited).2 (by decide +kernel)
  refine ⟨hexited, hleft.2.2 rfl, ?_⟩
  let s := Process.next (.onDriver switchingDriver) clientStart .err
  have hrun : Run (Process.Step (.onDriver switchingDriver)) clientStart
      (trace (Process.next (.onDriver switchingDriver)) clientStart [.err]) s := Process.trace_run _ (by decide +kernel)
  have hreach : Process.Reachable (.onDriver switchingDriver) readyHost clientArgv s := ⟨_, client_started, _, hrun⟩
  have hphase : s.phase = .exited false := by decide +kernel
  have hheld := ((process_exits_with clientArgv_strlen hreach hphase).2 (by decide +kernel)).1
  rw [if_pos (by decide +kernel)] at hheld
  have hfd : s.fd = 3 := by decide +kernel
  exact ⟨s, hreach, hphase, hfd ▸ hheld⟩

/-! ### Where it connects, and how it ends -/

theorem accepts_iff : Accepts argv ↔ ∃ names rest, Addresses argv names rest ∧ EndsOptions rest ∧
    givenOptions argv = Options.named ⟨defaultSocketName⟩ names := by
  rw [← (parseOpts_result argv ⟨defaultSocketName⟩).1 (givenOptions argv)]
  exact ⟨fun h => Prod.ext h rfl, fun h => congrArg Prod.fst h⟩

/-- A run in the loop ends with success if and only if the client hung up. -/
theorem exits_iff_hangsUp {s t : Process} {l : List (Transition Process Input)} (hrun : Run (Process.Step w) s l t)
    (hs : Process.Stage w host argv s) (hlooping : s.phase = .looping) {success : Bool}
    (hexited : t.phase = .exited success) : success = true ↔ ∃ x ∈ l, x.label.hangsUp = true := by
  induction hrun with
  | nil s => cases hlooping.symm.trans hexited
  | @cons s u t input l hstep hrest ih =>
    obtain ⟨hu, hphase⟩ := hs.step hstep
    rcases hphase with ⟨hphase, hinput⟩ | hphase
    · rw [ih hu hphase hexited]
      simp [hinput]
    · cases hrest with
      | nil =>
        rw [Phase.exited.inj (hexited.symm.trans hphase)]
        simp
      | cons hnext => cases hphase.symm.trans hnext.1

/-- The process connects only with options that are addresses up to their end, and only to
the last one, and it exits with success if and only if the first other option asks for
help or the client hung up. -/
theorem process_follows_options (hargv : ∀ arg ∈ argv, arg.strlen ≤ p.sizeMax) {s t : Process}
    {l : List (Transition Process Input)} (hstarted : Process.Started host argv s) (hrun : Run (Process.Step w) s l t) :
    (∀ fd address result, .connect fd address result ∈ t.history → ∃ names rest, Addresses argv names rest ∧
      EndsOptions rest ∧ host.Names (Options.named ⟨defaultSocketName⟩ names).socketName address) ∧
    ∀ success, t.phase = .exited success → (success = true ↔
      (∃ names rest, Addresses argv names rest ∧ AsksHelp rest) ∨ ∃ x ∈ l, x.label.hangsUp = true) := by
  have hs : Process.Stage w host argv s := hstarted.stage hargv
  have ht : Process.Stage w host argv t := hrun.invariant (fun _ _ hstep h => (h.step hstep).1) hs
  refine ⟨fun fd address result hmem => ?_, fun success hexited => ?_⟩
  · have haccepts : Accepts argv := by
      cases ht with
      | refused h =>
        rw [h.history] at hmem
        cases hmem
      | failed haccepts | entered haccepts | connected haccepts | left haccepts => exact haccepts
    obtain ⟨names, rest, haddresses, hends, hoptions⟩ := accepts_iff.mp haccepts
    obtain ⟨R, B, hasked⟩ := ht.asked
    exact ⟨names, rest, haddresses, hends, hoptions ▸ hasked.names fd address result hmem⟩
  · have hhelp (haccepts : Accepts argv) : ¬∃ names rest, Addresses argv names rest ∧ AsksHelp rest := by
      rw [← (parseOpts_result argv ⟨defaultSocketName⟩).2.1, haccepts]
      decide
    have hstays (h : ∃ success, s.phase = .exited success) : l = [] ∧ t = s := by
      obtain ⟨_, hphase⟩ := h
      cases hrun with
      | nil => exact ⟨rfl, rfl⟩
      | cons hstep => cases hphase.symm.trans hstep.1
    cases hs with
    | refused h =>
      obtain ⟨rfl, rfl⟩ := hstays ⟨_, h.phase⟩
      rw [Phase.exited.inj (hexited.symm.trans h.phase), decide_eq_true_eq, (parseOpts_result argv _).2.1]
      simp
    | failed haccepts h =>
      obtain ⟨rfl, rfl⟩ := hstays ⟨_, h.phase⟩
      rw [Phase.exited.inj (hexited.symm.trans h.phase), or_iff_right (hhelp haccepts)]
      simp
    | entered haccepts h =>
      rw [or_iff_right (hhelp haccepts)]
      exact exits_iff_hangsUp hrun (.entered haccepts h) h.phase hexited
    | connected haccepts h =>
      rw [or_iff_right (hhelp haccepts)]
      exact exits_iff_hangsUp hrun (.connected haccepts h) h.phase hexited
    | left haccepts h =>
      -- nothing is left before the loop was entered
      exact absurd (Process.Started.closing hargv hstarted) h.closing

theorem process_follows_client : (∀ fd address result, .connect fd address result ∈ clientEnd.history →
      ∃ names rest, Addresses clientArgv names rest ∧ EndsOptions rest ∧
        readyHost.Names (Options.named ⟨defaultSocketName⟩ names).socketName address) ∧
    ∀ success, clientEnd.phase = .exited success → (success = true ↔
      (∃ names rest, Addresses clientArgv names rest ∧ AsksHelp rest) ∨ ∃ x ∈ clientTrace, x.label.hangsUp = true) :=
  process_follows_options clientArgv_strlen client_started client_run

/-! ### The daemon in the process -/

section

variable {socketName : CString}

/-- The process connects where the daemon does. -/
theorem fdConOut_ok {s : Process} {fd : Int32} {daemon : Daemon} (hdaemon : s.daemon = .zero)
    (hrun : Io.fdConOut w fd .zero = .ok (.ok, daemon)) :
    fdConOut w fd s = .ok (.ok, { s with epollFuncs := some .connected, daemon }) := by
  obtain ⟨res, u, hsocket, hrest⟩ := bind_eq_ok.mp hrun
  split at hrest
  · cases hrest
  next hpos =>
  obtain ⟨started, v, hmain, hrest⟩ := bind_eq_ok.mp hrest
  split at hrest
  · cases hrest
  next hstarted =>
  cases hrest
  have hsetUp : setUpConnection w fd s = .ok (0, { s with epollFuncs := some .connected, daemon := u }) := by
    have hio : onDaemon (onIo (connectedSocket w.lib fd)) s = .ok (res, { s with daemon := u }) := by
      refine zoom_ok ?_
      change onIo (connectedSocket w.lib fd) s.daemon = _
      rw [hdaemon]
      exact hsocket
    rw [setUpConnection, bind_ok hio, if_neg hpos]
    rfl
  have hloop : onDaemon (Io.startMainLoop w) { s with epollFuncs := some .connected, daemon := u } =
      .ok (started, { s with epollFuncs := some .connected, daemon }) := zoom_ok hmain
  rw [fdConOut, bind_ok hsetUp, if_neg (by decide), bind_ok hloop, if_neg hstarted]
  rfl

/-- An input that can arrive finds its callback, and the callback its descriptor. -/
theorem Process.Connected.callback {s : Process} {input : Input} {result : IoResult} {daemon : Daemon}
    (hs : Process.Connected w host socketName s) (henabled : s.daemon.Enabled input)
    (hrun : Daemon.callback w input s.daemon = .ok (result, daemon)) :
    s.Enabled input ∧ Process.callback w input s = .ok (result, { s with daemon }) := by
  have hconnection {m : DaemonM IoResult} (hopen : s.daemon.io.fd ≠ -1) (hm : m s.daemon = .ok (result, daemon))
      (awake : Bool) : onConnection m { s with awake } = .ok (result, { s with daemon, awake }) := by
    have hfd : s.daemon.io.fd = s.fd := by
      rcases hs.owns with ⟨hfd, -⟩ | ⟨hfd, -⟩
      · exact hfd
      · exact absurd hfd hopen
    rw [onConnection, get_bind_apply, if_neg (not_not.mpr hfd)]
    exact zoom_ok hm
  have hentry (hsocket : input.OfSocket) {cb : FdCallback} (hcb : FdEvents.connected.entry input = some cb) :
      Process.callback w input s = cb.call w input.received s := by
    have hbind : s.epollFuncs.bind (·.entry input) = some cb := by
      rw [hs.epollFuncs]
      exact hcb
    rw [Process.callback, if_pos hsocket, get_bind_apply, hbind]
  have hexists (hcb : (FdEvents.connected.entry input).isSome = true) :
      (s.epollFuncs.bind (·.entry input)).isSome = true := by
    rw [hs.epollFuncs]
    exact hcb
  unfold Process.Enabled
  cases input with
  | readable packet =>
    refine ⟨⟨hexists rfl, .inr henabled⟩, ?_⟩
    have hcall : Process.callback w (.readable packet) s = FdCallback.call w packet .fdIoIn s := hentry trivial rfl
    have hin := hconnection (m := Io.fdIoIn w packet) henabled hrun true
    rw [hcall, FdCallback.call, modify_bind_apply, bind_ok hin, ← hs.awake]
    rfl
  | writable =>
    refine ⟨⟨hexists rfl, .inr henabled⟩, ?_⟩
    exact (hentry trivial rfl).trans (hconnection (m := Io.fdIoOut w) henabled hrun s.awake)
  | err =>
    refine ⟨⟨hexists rfl, .inr henabled⟩, ?_⟩
    exact (hentry trivial rfl).trans (hconnection (m := Io.fdIoErr) henabled hrun s.awake)
  | hup =>
    refine ⟨⟨hexists rfl, .inr henabled⟩, ?_⟩
    exact (hentry trivial rfl).trans (hconnection (m := Io.fdIoHup) henabled hrun s.awake)
  | halEvent | channelUpdate | scanStatus | eventNfy | task => exact ⟨henabled, zoom_ok hrun⟩

/-- While the daemon goes on, so does the process. -/
theorem Process.Connected.step_of_daemon {s : Process} {input : Input} {daemon : Daemon}
    (hs : Process.Connected w host socketName s) (hstep : Daemon.Step w s.daemon input daemon)
    (hrunning : daemon.running = true) : Process.Step w s input { s with daemon } := by
  obtain ⟨-, henabled, hrun⟩ := hstep
  obtain ⟨result, u, hcallback, hrest⟩ := bind_eq_ok.mp hrun
  by_cases hleaves : result = .exit ∨ result = .abort
  · rw [if_pos hleaves] at hrest
    injection hrest with hpair
    cases (congrArg (fun r : Unit × Daemon => r.2.running) hpair).trans hrunning
  · rw [if_neg hleaves] at hrest
    cases hrest
    obtain ⟨henabled, hcallback⟩ := hs.callback henabled hcallback
    refine ⟨hs.phase, henabled, ?_⟩
    rw [Process.step, bind_ok hcallback, if_neg hleaves]
    rfl

theorem Process.Connected.run_of_daemon {s : Process} {daemon : Daemon} {m : List (Transition Daemon Input)}
    (hs : Process.Connected w host socketName s) (hrun : Run (Daemon.Step w) s.daemon m daemon)
    (hrunning : daemon.running = true) :
    ∃ t, Exec.Reachable (Process.Step w) s t ∧ Process.Connected w host socketName t ∧ t.daemon = daemon := by
  generalize hd : s.daemon = d at hrun
  induction hrun generalizing s with
  | nil d => exact ⟨s, .refl s, hs, hd⟩
  | @cons d e daemon input m hstep hrest ih =>
    subst hd
    have hgoes : e.running = true := by
      cases hrest with
      | nil => exact hrunning
      | cons hnext => exact hnext.1
    have hprocess := hs.step_of_daemon hstep hgoes
    rcases hs.step hprocess with ⟨hu, -⟩ | ⟨hu, -⟩
    · obtain ⟨t, ⟨l, hl⟩, ht⟩ := ih hu hrunning rfl
      exact ⟨t, ⟨_, .cons hprocess hl⟩, ht⟩
    · obtain ⟨_, hphase⟩ := hu.phase
      cases hs.phase.symm.trans hphase

theorem Process.Connected.daemon_of_run {s t : Process} {l : List (Transition Process Input)}
    (hs : Process.Connected w host socketName s) (hrun : Run (Process.Step w) s l t) (hlooping : t.phase = .looping) :
    Exec.Reachable (Daemon.Step w) s.daemon t.daemon ∧ t.daemon.running = true := by
  induction hrun with
  | nil s => exact ⟨.refl _, hs.running⟩
  | @cons s u t input l hstep hrest ih =>
    rcases hs.step hstep with ⟨hu, hdaemon⟩ | ⟨hu, -⟩
    · obtain ⟨⟨m, hm⟩, hrunning⟩ := ih hu hlooping
      exact ⟨⟨_, .cons hdaemon hm⟩, hrunning⟩
    · obtain ⟨_, hphase⟩ := hu.phase
      cases hrest with
      | nil => cases hlooping.symm.trans hphase
      | cons hnext => cases hphase.symm.trans hnext.1

end

/-- Once it is connected, the process goes in its loop through exactly the states of the
daemon that can be reached from a connection on the descriptor that it opened. -/
theorem process_runs_daemon (hargv : ∀ arg ∈ argv, arg.strlen ≤ p.sizeMax) {s : Process}
    (hstarted : Process.Started host argv s) (hlooping : s.phase = .looping) (daemon : Daemon) :
    (∃ t l, l ≠ [] ∧ Run (Process.Step w) s l t ∧ t.phase = .looping ∧ t.daemon = daemon) ↔
      daemon.running = true ∧ ∃ connected, Io.fdConOut w s.fd .zero = .ok (.ok, connected) ∧
        Exec.Reachable (Daemon.Step w) connected daemon := by
  have hs : Process.Entered host (givenOptions argv).socketName s := by
    rcases hstarted.cases hargv with ⟨-, rfl⟩ | ⟨-, hfailed | hentered⟩
    · cases hlooping
    · cases hlooping.symm.trans hfailed.phase
    · exact hentered
  constructor
  · rintro ⟨t, l, hne, hrun, hphase, rfl⟩
    cases hrun with
    | nil => exact absurd rfl hne
    | @cons _ u _ input l hstep hrest =>
      rcases hs.step hstep with ⟨hu, -, hconnected⟩ | ⟨-, hexited⟩
      · obtain ⟨hreach, hrunning⟩ := hu.daemon_of_run hrest hphase
        exact ⟨hrunning, _, hconnected, hreach⟩
      · cases hrest with
        | nil => cases hphase.symm.trans hexited
        | cons hnext => cases hexited.symm.trans hnext.1
  · rintro ⟨hrunning, connected, hconnected, m, hm⟩
    have hcallback := fdConOut_ok hs.daemon hconnected
    have hstep : Process.Step w s .writable { s with epollFuncs := some .connected, daemon := connected } := by
      refine ⟨hlooping, ⟨by rw [hs.epollFuncs]; rfl, .inl hs.epollFuncs⟩, ?_⟩
      have hcall : Process.callback w .writable s = fdConOut w s.fd s := by
        rw [Process.callback, if_pos (show Input.writable.OfSocket from trivial), get_bind_apply, hs.epollFuncs]
        rfl
      rw [Process.step, bind_ok (hcall.trans hcallback), if_neg (by decide)]
      rfl
    rcases hs.step hstep with ⟨hu, -⟩ | ⟨-, hexited⟩
    · obtain ⟨t, ⟨l, hl⟩, ht, hdaemon⟩ := hu.run_of_daemon hm hrunning
      exact ⟨t, _, List.cons_ne_nil _ _, .cons hstep hl, ht.phase, hdaemon⟩
    · cases hlooping.symm.trans hexited

/-- The daemon that registered the service. -/
theorem process_runs_client : ∃ connected,
    Io.fdConOut (.onDriver switchingDriver) 3 .zero = .ok (.ok, connected) ∧
      Exec.Reachable (Daemon.Step (.onDriver switchingDriver)) connected
        ((clientInputs.take 2).foldl (Process.next (.onDriver switchingDriver)) clientStart).daemon := by
  have hlooping : clientStart.phase = .looping := by decide +kernel
  have hrun : Run (Process.Step (.onDriver switchingDriver)) clientStart
      (trace (Process.next (.onDriver switchingDriver)) clientStart (clientInputs.take 2))
      ((clientInputs.take 2).foldl (Process.next (.onDriver switchingDriver)) clientStart) :=
    Process.trace_run _ (by decide +kernel)
  have hreached := (process_runs_daemon clientArgv_strlen client_started hlooping _).mp
    ⟨_, _, List.cons_ne_nil _ _, hrun, by decide +kernel, rfl⟩
  exact hreached.2

end Tvd

import Tvd.Exec.Run
import Tvd.Model.Registry

/-! The daemon as a state machine: `fd_con_out` starts the main loop, and from
then on every step is one callback, of the socket, of the driver, of the DTV
interface, or of a queued task. The callbacks of one thread are not interrupted by
another's. -/

namespace Tvd

namespace Io

variable (w : World)

def startMainLoop : DaemonM Int32 := do
  if (← Registry.initRegistry .sendPdu).toInt < 0 then return -1
  let s ← Exec.get
  let res ← onIo (addFdEventsToEpollLoop w.fdio s.io.epollEvents)
  if res.toInt < 0 then
    Registry.uninitRegistry
    return -1
  return 0

def fdConOut (fd : Int32) : DaemonM IoResult := do
  if (← onIo (connectedSocket w.lib fd)).toInt < 0 then return .abort
  if (← startMainLoop w).toInt < 0 then return .abort
  return .ok

def fdIoErr : DaemonM IoResult := do
  onIo ioStateErr
  return .poll

def fdIoHup : DaemonM IoResult := do
  onIo ioStateHup
  return .exit

def fdIoIn (packet : Option (List UInt8)) : DaemonM IoResult := do
  let res ← ioStateIn w.lib w.fdio Daemon.ioLens (handlePdu w (.inTree w)) packet
  if res.toInt < 0 then return .abort
  return .ok

def fdIoOut : DaemonM IoResult := do
  let res ← onIo (ioStateOut w.fdio)
  if res.toInt < 0 then return .abort
  return .ok

end Io

/-! ### Steps -/

/-- What can happen next. `readable` carries the packet received, if any, and
`task` the index of the queued task that runs. -/
inductive Input where
  | halEvent (event : TvInputEvent)
  | channelUpdate (chStatus : UInt8) (tunerId : Option CString) (sourceType : UInt8)
      (ch : Option TvChannel)
  | scanStatus (scanStatus : UInt8) (tunerId : Option CString) (sourceType : UInt8)
  | eventNfy (tunerId : Option CString) (sourceType : UInt8) (ch : Option TvChannel)
      (progNum : UInt32) (progs : Option (Records TvProgram))
  | task (idx : ℕ)
  | readable (packet : Option (List UInt8))
  | writable
  | err
  | hup

namespace Daemon

/-- Static storage when the connection is set up. -/
def zero : Daemon where
  io := .initializer
  dtv := ⟨⟨[], .zero, []⟩, none, false⟩
  pdus := []
  gSendPdu := none
  gServiceHandler _ := none
  tasks := []
  running := true

/-- The driver was given `tv_callback`. -/
def notifiable (s : Daemon) : Prop := .initializeDevice 0 ∈ s.dtv.env.hal.calls

/-- An input that can arrive: callbacks come from where they were installed, and
socket events for a descriptor in the loop. -/
def Enabled (s : Daemon) : Input → Prop
  | .halEvent _ => s.notifiable
  | .channelUpdate .. | .scanStatus .. | .eventNfy .. => s.dtv.dtvCallbacks = true
  | .task idx => idx < s.tasks.length
  | .readable _ | .writable | .err | .hup => s.io.fd ≠ -1

/-- Take a task off the queue and run it. -/
def runTask (w : World) (idx : ℕ) : DaemonM IoResult := do
  let s ← Exec.get
  match s.tasks[idx]? with
  | none => return .ok
  | some wbuf =>
    Exec.modify fun s => { s with tasks := s.tasks.eraseIdx idx }
    DtvIo.sendNtfPdu w wbuf

/-- The callback for an input. -/
def callback (w : World) : Input → DaemonM IoResult
  | .halEvent event => do
    onEnv (onHal (deviceInitNotify w.driver event))
    return .ok
  | .channelUpdate chStatus tunerId sourceType ch => do
    DtvIo.channelUpdateNfyCb w chStatus tunerId sourceType ch
    return .ok
  | .scanStatus scanStatus tunerId sourceType => do
    DtvIo.scanStatusNfyCb w scanStatus tunerId sourceType
    return .ok
  | .eventNfy tunerId sourceType ch progNum progs => do
    DtvIo.eventNfyCb w tunerId sourceType ch progNum progs
    return .ok
  | .task idx => runTask w idx
  | .readable packet => Io.fdIoIn w packet
  | .writable => Io.fdIoOut w
  | .err => Io.fdIoErr
  | .hup => Io.fdIoHup

/-- `IO_EXIT` and `IO_ABORT` leave the loop. -/
def step (w : World) (input : Input) : DaemonM Unit := do
  let result ← callback w input
  if result = .exit ∨ result = .abort then Exec.modify fun s => { s with running := false }

/-- The step relation of the daemon; a callback that crashes leads nowhere. -/
def Step (w : World) (s : Daemon) (input : Input) (t : Daemon) : Prop :=
  s.running = true ∧ s.Enabled input ∧ step w input s = .ok ((), t)

/-- A daemon whose connection has just been established. -/
def Connected (w : World) (s : Daemon) : Prop :=
  ∃ fd : Int32, 0 ≤ fd.toInt ∧ Io.fdConOut w fd zero = .ok (.ok, s)

def Reachable (w : World) (s : Daemon) : Prop :=
  ∃ s₀, Connected w s₀ ∧ Exec.Reachable (Step w) s₀ s

/-- The daemon connected on descriptor 3. -/
def connected (w : World) : Daemon :=
  match Io.fdConOut w 3 zero with
  | .ok (_, s) => s
  | .error _ => zero

/-- The state that an input leads to. -/
def next (w : World) (s : Daemon) (input : Input) : Daemon :=
  match step w input s with
  | .ok (_, t) => t
  | .error _ => s

theorem Reachable.connected {w : World} {s : Daemon} (h : Io.fdConOut w 3 zero = .ok (.ok, s)) :
    Reachable w s := ⟨s, ⟨3, by decide, h⟩, .refl s⟩

theorem Step.next {w : World} {s : Daemon} {input : Input} (hrunning : s.running = true)
    (henabled : s.Enabled input) (hok : (step w input s).isOk = true) : Step w s input (s.next w input) := by
  refine ⟨hrunning, henabled, ?_⟩
  unfold Daemon.next
  cases hstep : step w input s with
  | ok r => rfl
  | error e =>
    rw [hstep] at hok
    cases hok

instance (s : Daemon) : (input : Input) → Decidable (s.Enabled input)
  | .halEvent _ => inferInstanceAs (Decidable (.initializeDevice 0 ∈ s.dtv.env.hal.calls))
  | .channelUpdate .. | .scanStatus .. | .eventNfy .. =>
    inferInstanceAs (Decidable (s.dtv.dtvCallbacks = true))
  | .task idx => inferInstanceAs (Decidable (idx < s.tasks.length))
  | .readable _ | .writable | .err | .hup => inferInstanceAs (Decidable (s.io.fd ≠ -1))

/-- The input can arrive, and its callback returns. -/
def Takes (w : World) (s : Daemon) (input : Input) : Prop :=
  s.running = true ∧ s.Enabled input ∧ (step w input s).isOk = true

instance (w : World) (s : Daemon) (input : Input) : Decidable (Takes w s input) :=
  inferInstanceAs (Decidable (_ ∧ _))

theorem trace_run {w : World} {s : Daemon} {inputs : List Input}
    (h : ∀ x ∈ Exec.trace (Daemon.next w) s inputs, Takes w x.before x.label) :
    Exec.Run (Step w) s (Exec.trace (Daemon.next w) s inputs) (inputs.foldl (Daemon.next w) s) :=
  Exec.trace_run (fun _ _ ⟨hrunning, henabled, hok⟩ => .next hrunning henabled hok) h

theorem Reachable.step {w : World} {s t : Daemon} {input : Input} (h : Reachable w s)
    (hstep : Step w s input t) : Reachable w t := by
  obtain ⟨s₀, hs₀, hreach⟩ := h
  exact ⟨s₀, hs₀, Exec.Reachable.step hreach hstep⟩

theorem Takes.step {w : World} {s : Daemon} {input : Input} (h : Takes w s input) :
    Step w s input (s.next w input) := .next h.1 h.2.1 h.2.2

theorem Reachable.takes {w : World} {s : Daemon} {input : Input} (h : Reachable w s)
    (htakes : Takes w s input) : Reachable w (s.next w input) := h.step htakes.step

/-- What the inputs lead to, if each of them can arrive. -/
theorem Reachable.ofInputs {w : World} (hconnected : Io.fdConOut w 3 zero = .ok (.ok, Daemon.connected w))
    (inputs : List Input)
    (h : ∀ x ∈ Exec.trace (Daemon.next w) (Daemon.connected w) inputs, Takes w x.before x.label) :
    Reachable w (inputs.foldl (Daemon.next w) (Daemon.connected w)) :=
  ⟨_, ⟨3, by decide, hconnected⟩, _, trace_run h⟩

end Daemon

end Tvd

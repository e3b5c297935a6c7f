import Tvd.Model.CommandLine
import Tvd.Model.Daemon

/-! The process: `main` of `main.c`, and what `io.c` does before the connection is set up
and after the loop is left. `Host` gives the answers of the system and of the library as
functions of all earlier calls; a call that a signal interrupted is made again, and only
the last one counts. `epoll_loop` runs `init`, and if that succeeds one callback after the
other until one of them leaves the loop, and then `uninit`. `make_daemon` does nothing
that the rest of the process depends on, and is left out. -/

namespace Tvd

/-! ### The system -/

def oCloexec : Int32 := 0x80000
def oNonblock : Int32 := 0x800

inductive Fcntl where
  | getFd
  | setFd (flags : Int32)
  | getFl
  | setFl (flags : Int32)
  deriving DecidableEq

/-- What the process asked of the system, with the answer. -/
inductive SysEvent where
  | io (event : IoEvent)
  | socket (fd : Int32)
  | fcntl (fd : Int32) (cmd : Fcntl) (result : Int32)
  | connect (fd : Int32) (address : ℤ × List UInt8) (result : Int32)
  | calloc (ok : Bool)
  | free
  | initTaskQueue (result : Int32)
  | uninitTaskQueue
  | destroyPduRbuf
  deriving DecidableEq

abbrev SysM := Exec Fault (List SysEvent)

/-- The system, and the struct on the stack that the address is built in. -/
structure Host (p : Platform) where
  layout : SockaddrUn p
  order : ByteOrder
  addr : ℕ
  stack : Memory
  addr_ne : addr ≠ 0
  socket : List SysEvent → Int32
  fcntl : List SysEvent → Int32 → Fcntl → Int32
  connect : List SysEvent → Int32 → ℤ × List UInt8 → Int32
  addFdEventsToEpollLoop : List SysEvent → Int32 → UInt32 → Int32
  calloc : List SysEvent → Bool
  initTaskQueue : List SysEvent → Int32

def logSys (event : SysEvent) : SysM Unit := Exec.modify (event :: ·)

/-- Make a call that the system answers. -/
def ask {α : Type} (answer : List SysEvent → α) (event : α → SysEvent) : SysM α := do
  let log ← Exec.get
  logSys (event (answer log))
  return answer log

/-! ### The process -/

/-- The functions that the callback table of the descriptor can point to. -/
inductive FdCallback where
  | fdConOut | fdConErr | fdIoIn | fdIoOut | fdIoErr | fdIoHup
  deriving DecidableEq

/-- `struct fd_events`, without the data pointer. -/
structure FdEvents where
  epollin : Option FdCallback
  epollout : Option FdCallback
  epollerr : Option FdCallback
  epollhup : Option FdCallback
  deriving DecidableEq

/-- The table while the connection request is pending, and from then on. -/
def FdEvents.connecting : FdEvents := ⟨none, some .fdConOut, some .fdConErr, none⟩

def FdEvents.connected : FdEvents := ⟨some .fdIoIn, some .fdIoOut, some .fdIoErr, some .fdIoHup⟩

/-- An exited process did so with success or failure. -/
inductive Phase where
  | starting
  | looping
  | exited (success : Bool)
  deriving DecidableEq

/-- The state of the process. `opening` and `closing` are what was asked of the system
before the loop and after it. `epollFuncs` is the table that the I/O state points to,
`fd` the descriptor that the loop calls it with, and `awake` the wake lock. -/
structure Process where
  opening : List SysEvent
  daemon : Daemon
  closing : List SysEvent
  epollFuncs : Option FdEvents
  fd : Int32
  awake : Bool
  phase : Phase

abbrev ProcessM := Exec Fault Process

/-- Everything asked of the system, newest first. -/
def Process.history (s : Process) : List SysEvent := s.closing ++ s.daemon.io.log.map .io ++ s.opening

namespace Process

def openingLens : Exec.Lens Process (List SysEvent) where
  get s := s.opening
  set opening s := { s with opening }
  get_set _ _ := rfl
  set_get _ := rfl
  set_set _ _ _ := rfl

def closingLens : Exec.Lens Process (List SysEvent) where
  get s := s.closing
  set closing s := { s with closing }
  get_set _ _ := rfl
  set_get _ := rfl
  set_set _ _ _ := rfl

def daemonLens : Exec.Lens Process Daemon where
  get s := s.daemon
  set daemon s := { s with daemon }
  get_set _ _ := rfl
  set_get _ := rfl
  set_set _ _ _ := rfl

end Process

variable {α : Type}

abbrev onOpening (m : SysM α) : ProcessM α := Exec.zoom Process.openingLens m

abbrev onClosing (m : SysM α) : ProcessM α := Exec.zoom Process.closingLens m

abbrev onDaemon (m : DaemonM α) : ProcessM α := Exec.zoom Process.daemonLens m

/-! ### Initialization -/

section

variable {p : Platform} (host : Host p)

/-- The common end of the error paths of `connect_socket`. -/
def closeSocket (fd : Int32) : SysM Int32 := do
  logSys (.io (.close fd))
  return -1

def connectSocket (socketName : CString) : SysM Int32 := do
  let (socklen, addr) ← Exec.lift
    (createSockaddrUn host.layout host.order socketName host.addr ⟨host.stack, []⟩)
  if socklen < 0 then return -1
  let fd ← ask host.socket .socket
  if fd.toInt < 0 then return -1
  let res ← ask (host.fcntl · fd .getFd) (.fcntl fd .getFd)
  if res.toInt < 0 then closeSocket fd else
  let flags := res ||| oCloexec
  let res ← ask (host.fcntl · fd (.setFd flags)) (.fcntl fd (.setFd flags))
  if res.toInt < 0 then closeSocket fd else
  let res ← ask (host.fcntl · fd .getFl) (.fcntl fd .getFl)
  if res.toInt < 0 then closeSocket fd else
  let flags := res ||| oNonblock
  let res ← ask (host.fcntl · fd (.setFl flags)) (.fcntl fd (.setFl flags))
  if res.toInt < 0 then closeSocket fd else
  let address := (socklen, addr.mem.load host.addr socklen.toNat)
  let res ← ask (host.connect · fd address) (.connect fd address)
  if res.toInt < 0 then closeSocket fd else
  let events := epollOut ||| epollErr
  let res ← ask (host.addFdEventsToEpollLoop · fd events) fun res => .io (.addFdEvents fd events res)
  if res.toInt < 0 then closeSocket fd else
  return fd

/-- The descriptor is known to the loop from now on. -/
def initIo (socketName : CString) : ProcessM Int32 := do
  if ¬(← onOpening (ask host.calloc .calloc)) then return -1
  Exec.modify fun s => { s with
    epollFuncs := some .connecting
    daemon := { s.daemon with io := { s.daemon.io with fd := -1, epollEvents := 0, rbuf := none, sendq := [] } } }
  let fd ← onOpening (connectSocket host socketName)
  if fd.toInt < 0 then
    onOpening (logSys .free)
    return -1
  Exec.modify fun s => { s with fd }
  return 0

/-- Without a task queue it returns a value that `enum ioresult` does not have. -/
def init (options : Options) : ProcessM (Option IoResult) := do
  if (← onOpening (ask host.initTaskQueue .initTaskQueue)).toInt < 0 then return none
  if (← initIo host options.socketName).toInt < 0 then
    onOpening (logSys .uninitTaskQueue)
    return some .abort
  Exec.modify fun s => { s with awake := false }
  return some .ok

/-- `main` up to the loop. -/
def main (argv : List CString) : ProcessM Unit := do
  Exec.modify fun s => { s with awake := true }
  let (res, options) := parseOpts argv ⟨defaultSocketName⟩
  if res ≠ 0 then
    Exec.modify fun s => { s with awake := false, phase := .exited (0 < res.toInt) }
  else
    let result ← init host options
    Exec.modify fun s => { s with phase := if result = some .ok then .looping else .exited false }

end

/-! ### The loop -/

variable (w : World)

/-- `connected_socket`, which fills the table once there is a receive buffer. -/
def setUpConnection (fd : Int32) : ProcessM Int32 := do
  let res ← onDaemon (onIo (connectedSocket w.lib fd))
  if res.toInt < 0 then return -1
  Exec.modify fun s => { s with epollFuncs := some .connected }
  return 0

def fdConOut (fd : Int32) : ProcessM IoResult := do
  if (← setUpConnection w fd).toInt < 0 then return .abort
  if (← onDaemon (Io.startMainLoop w)).toInt < 0 then return .abort
  return .ok

def fdConErr : ProcessM IoResult := return .abort

/-- The callbacks of the connection are for its descriptor. -/
def onConnection (m : DaemonM IoResult) : ProcessM IoResult := do
  let s ← Exec.get
  if s.daemon.io.fd ≠ s.fd then Exec.throw .abort
  onDaemon m

/-- Only receiving takes the wake lock. -/
def FdCallback.call (packet : Option (List UInt8)) : FdCallback → ProcessM IoResult
  | .fdConOut => do
    let s ← Exec.get
    Tvd.fdConOut w s.fd
  | .fdConErr => Tvd.fdConErr
  | .fdIoIn => do
    Exec.modify fun s => { s with awake := true }
    let result ← onConnection (Io.fdIoIn w packet)
    Exec.modify fun s => { s with awake := false }
    return result
  | .fdIoOut => onConnection (Io.fdIoOut w)
  | .fdIoErr => onConnection Io.fdIoErr
  | .fdIoHup => onConnection Io.fdIoHup

/-- The entry of the table for an event of the descriptor. -/
def FdEvents.entry (table : FdEvents) : Input → Option FdCallback
  | .readable _ => table.epollin
  | .writable => table.epollout
  | .err => table.epollerr
  | .hup => table.epollhup
  | _ => none

/-- The packet that was received. -/
def Input.received : Input → Option (List UInt8)
  | .readable packet => packet
  | _ => none

/-- An event of the descriptor. -/
def Input.OfSocket : Input → Prop
  | .readable _ | .writable | .err | .hup => True
  | _ => False

instance : DecidablePred Input.OfSocket
  | .readable _ | .writable | .err | .hup => inferInstanceAs (Decidable True)
  | .halEvent _ | .channelUpdate .. | .scanStatus .. | .eventNfy .. | .task _ => inferInstanceAs (Decidable False)

def uninitIo : ProcessM Unit := do
  let s ← Exec.get
  if s.daemon.io.fd ≠ -1 then
    onClosing (logSys (.io (.removeFd s.daemon.io.fd)))
    onClosing (logSys (.io (.close s.daemon.io.fd)))
    if s.daemon.io.rbuf.isSome then onClosing (logSys .destroyPduRbuf)
    if s.epollFuncs.isSome then onClosing (logSys .free)
  onDaemon Registry.uninitRegistry

def uninit : ProcessM Unit := do
  uninitIo
  onClosing (logSys .uninitTaskQueue)

namespace Process

/-- Static storage when the process starts. -/
def zero : Process where
  opening := []
  daemon := .zero
  closing := []
  epollFuncs := none
  fd := -1
  awake := false
  phase := .starting

/-- The connection request is pending. -/
def Connecting (s : Process) : Prop := s.epollFuncs = some .connecting

/-- An input that can arrive: events of the descriptor while it is in the loop, if the table
has a callback for them. -/
def Enabled (s : Process) (input : Input) : Prop :=
  if input.OfSocket then
    (s.epollFuncs.bind (·.entry input)).isSome ∧ (s.Connecting ∨ s.daemon.io.fd ≠ -1)
  else s.daemon.Enabled input

def callback (input : Input) : ProcessM IoResult := do
  if input.OfSocket then
    let s ← Exec.get
    match s.epollFuncs.bind (·.entry input) with
    | none => Exec.throw .nullCallback
    | some cb => cb.call w input.received
  else onDaemon (Daemon.callback w input)

/-- One iteration of the loop, and `uninit` if it is the last one. -/
def step (input : Input) : ProcessM Unit := do
  let result ← callback w input
  if result = .exit ∨ result = .abort then
    uninit
    Exec.modify fun s => { s with phase := .exited (result = .exit) }

/-- The step relation of the process; a callback that crashes leads nowhere. -/
def Step (s : Process) (input : Input) (t : Process) : Prop :=
  s.phase = .looping ∧ s.Enabled input ∧ step w input s = .ok ((), t)

variable {p : Platform} (host : Host p)

/-- What the process is when it enters the loop, or exits before that. -/
def Started (argv : List CString) (s : Process) : Prop := main host argv zero = .ok ((), s)

def Reachable (argv : List CString) (s : Process) : Prop :=
  ∃ s₀, Started host argv s₀ ∧ Exec.Reachable (Step w) s₀ s

/-! ### Runs that can be computed -/

/-- What `main` leaves. -/
def start (argv : List CString) : Process :=
  match main host argv zero with
  | .ok (_, s) => s
  | .error _ => zero

/-- The state that an input leads to. -/
def next (s : Process) (input : Input) : Process :=
  match step w input s with
  | .ok (_, t) => t
  | .error _ => s

theorem started_start {argv : List CString} (h : (main host argv zero).isOk = true) :
    Started host argv (start host argv) := by
  unfold Started start
  cases hmain : main host argv zero with
  | ok r => rfl
  | error e =>
    rw [hmain] at h
    cases h

instance (s : Process) : Decidable s.Connecting := inferInstanceAs (Decidable (_ = _))

instance (s : Process) (input : Input) : Decidable (s.Enabled input) := inferInstanceAs (Decidable (ite _ _ _))

/-- The input can arrive, and its callback returns. -/
def Takes (s : Process) (input : Input) : Prop :=
  s.phase = .looping ∧ s.Enabled input ∧ (step w input s).isOk = true

instance (s : Process) (input : Input) : Decidable (Takes w s input) := inferInstanceAs (Decidable (_ ∧ _))

theorem trace_run {s : Process} {inputs : List Input}
    (h : ∀ x ∈ Exec.trace (next w) s inputs, Takes w x.before x.label) :
    Exec.Run (Step w) s (Exec.trace (next w) s inputs) (inputs.foldl (next w) s) := by
  refine Exec.trace_run (fun s input ⟨hlooping, henabled, hok⟩ => ⟨hlooping, henabled, ?_⟩) h
  unfold next
  cases hstep : step w input s with
  | ok r => rfl
  | error e =>
    rw [hstep] at hok
    cases hok

end Process

end Tvd

import Tvd.Model.Libpdu

/-! `io.c`, the I/O state of the connection: its descriptor, the events it polls
for, its receive buffer and its send queue. `Fdio` gives the answers of the epoll
loop and of the socket as functions of all earlier calls. The log is newest
first; besides the calls it records the PDUs handled and the buffers passed to
the send queue. -/

namespace Tvd

def epollIn : UInt32 := 0x001
def epollOut : UInt32 := 0x004
def epollErr : UInt32 := 0x008

inductive IoResult where
  | ok | poll | exit | abort
  deriving DecidableEq

inductive IoEvent where
  | handlePdu (cmd : Pdu)
  | ioStateSend (wbuf : Wbuf)
  | sendPduWbuf (fd : Int32) (wbuf : Wbuf) (result : Int32)
  | destroyPduWbuf (wbuf : Wbuf)
  | recvmsg (fd : Int32)
  | addFdEvents (fd : Int32) (events : UInt32) (result : Int32)
  | removeFd (fd : Int32)
  | close (fd : Int32)
  deriving DecidableEq

/-- The answers of the epoll loop, and of `send_pdu_wbuf`: zero if it would block, and
negative if it fails. -/
structure Fdio where
  addFdEventsToEpollLoop : List IoEvent → Int32 → UInt32 → Int32
  sendPduWbuf : List IoEvent → Int32 → Wbuf → Int32

/-- A loop that registers everything, and a socket that always takes a PDU. -/
def Fdio.ready : Fdio := ⟨fun _ _ _ => 0, fun _ _ _ => 1⟩

/-- `struct io_state`, without the callback table, and the log. -/
structure IoState where
  fd : Int32
  epollEvents : UInt32
  rbuf : Option Rbuf
  sendq : List Wbuf
  log : List IoEvent

abbrev IoM := Exec Fault IoState

/-- `IO_STATE_INITIALIZER`. -/
def IoState.initializer : IoState := ⟨-1, 0, none, [], []⟩

/-- The buffer that an attempt to send took off the queue: every one that would not block,
also one that failed, as those on descriptor -1 do. -/
def IoEvent.sent : IoEvent → Option Wbuf
  | .sendPduWbuf _ wbuf result => if result ≠ 0 then some wbuf else none
  | _ => none

/-- The buffer that an event passed to `io_state_send`. -/
def IoEvent.passed : IoEvent → Option Wbuf
  | .ioStateSend wbuf => some wbuf
  | _ => none

/-- The command that an event began to handle. -/
def IoEvent.handled : IoEvent → Option Pdu
  | .handlePdu cmd => some cmd
  | _ => none

/-- What `send_pdu_wbuf` did not answer with "would block", oldest first. -/
def sentWbufs (log : List IoEvent) : List Wbuf := log.reverse.filterMap IoEvent.sent

/-- What was passed to `io_state_send`, oldest first. -/
def passedWbufs (log : List IoEvent) : List Wbuf := log.reverse.filterMap IoEvent.passed

/-- The commands handled, oldest first. -/
def handledPdus (log : List IoEvent) : List Pdu := log.reverse.filterMap IoEvent.handled

/-- The events last registered with the epoll loop. -/
def registeredEvents : List IoEvent → Option UInt32
  | [] => none
  | .addFdEvents _ events result :: log =>
    if 0 ≤ result.toInt then some events else registeredEvents log
  | .removeFd _ :: _ => none
  | _ :: log => registeredEvents log

/-! ### Calls -/

def logIo (event : IoEvent) : IoM Unit := Exec.modify fun s => { s with log := event :: s.log }

def addFdEventsToEpollLoop (fdio : Fdio) (events : UInt32) : IoM Int32 := do
  let s ← Exec.get
  let result := fdio.addFdEventsToEpollLoop s.log s.fd events
  logIo (.addFdEvents s.fd events result)
  return result

def sendPduWbuf (fdio : Fdio) (wbuf : Wbuf) : IoM Int32 := do
  let s ← Exec.get
  let result := fdio.sendPduWbuf s.log s.fd wbuf
  logIo (.sendPduWbuf s.fd wbuf result)
  return result

/-- Clear an event, and register what remains. -/
def stopWatching (fdio : Fdio) (event : UInt32) : IoM Int32 := do
  Exec.modify fun s => { s with epollEvents := s.epollEvents &&& ~~~event }
  let s ← Exec.get
  if s.epollEvents ≠ 0 then addFdEventsToEpollLoop fdio s.epollEvents
  else
    logIo (.removeFd s.fd)
    return 0

/-! ### Errors -/

/-- The common body of `io_state_err` and `io_state_hup`. -/
def closeConnection : IoM Unit := do
  let s ← Exec.get
  Exec.modify fun s => { s with rbuf := none }
  logIo (.removeFd s.fd)
  logIo (.close s.fd)
  Exec.modify fun s => { s with epollEvents := 0, fd := -1 }

def ioStateErr : IoM Unit := closeConnection

def ioStateHup : IoM Unit := closeConnection

/-! ### Sending -/

/-- Send from the head of the queue until it is empty or the socket would block. -/
def sendPending (fdio : Fdio) : ℕ → IoM Unit
  | 0 => return
  | n + 1 => do
    let s ← Exec.get
    match s.sendq with
    | [] => return
    | wbuf :: sendq =>
      let result ← sendPduWbuf fdio wbuf
      if result = 0 then return
      Exec.modify fun s => { s with sendq }
      logIo (.destroyPduWbuf wbuf)
      sendPending fdio n

/-- Each iteration that goes on takes one buffer off the queue. -/
def ioStateSendPendingWbufs (fdio : Fdio) : IoM Unit := do
  let s ← Exec.get
  sendPending fdio s.sendq.length

def ioStateOut (fdio : Fdio) : IoM Int32 := do
  ioStateSendPendingWbufs fdio
  let s ← Exec.get
  if s.sendq.isEmpty then
    let res ← stopWatching fdio epollOut
    if res.toInt < 0 then return -1
  return 0

def ioStateSend (fdio : Fdio) (wbuf : Wbuf) : IoM Int32 := do
  logIo (.ioStateSend wbuf)
  Exec.modify fun s => { s with sendq := s.sendq ++ [wbuf] }
  ioStateSendPendingWbufs fdio
  let s ← Exec.get
  if ¬s.sendq.isEmpty ∧ s.epollEvents &&& epollOut = 0 then
    let epollEvents := s.epollEvents ||| epollOut
    let res ← addFdEventsToEpollLoop fdio epollEvents
    if res.toInt < 0 then return -1
    Exec.modify fun s => { s with epollEvents }
  return 0

/-! ### Receiving -/

/-- A packet of `res` bytes overwrites the front of the buffer. -/
def Rbuf.receive (rbuf : Rbuf) (packet : List UInt8) : Rbuf :=
  { rbuf with raw := packet.take rbuf.maxlen ++ rbuf.raw.drop (packet.take rbuf.maxlen).length }

/-- `recvmsg` gets a packet, which is empty once the peer hung up, or fails.
When the peer hung up, `res` is afterwards that of the epoll loop. The PDU handler
may work on more than the I/O state. -/
def ioStateIn {σ : Type} (lib : Lib) (fdio : Fdio) (L : Exec.Lens σ IoState)
    (handlePdu : Pdu → Exec Fault σ Int32) (packet : Option (List UInt8)) : Exec Fault σ Int32 := do
  let s ← Exec.zoom L Exec.get
  match s.rbuf with
  | none => Exec.throw .nullPointer
  | some rbuf =>
    Exec.zoom L (logIo (.recvmsg s.fd))
    match packet with
    | none => return -1
    | some packet =>
      let rbuf := rbuf.receive packet
      let received := (packet.take rbuf.maxlen).length
      let res : ℤ ← if received = 0 then
          Int32.toInt <$> Exec.zoom L (stopWatching fdio epollIn)
        else pure (received : ℤ)
      if res < 0 then return -1
      let rbuf := { rbuf with len := res.toNat }
      Exec.zoom L (Exec.modify fun s => { s with rbuf := some rbuf })
      if lib.pduRbufHasPdu rbuf then
        let status ← handlePdu (lib.rbufPdu rbuf)
        if status.toInt < 0 then return -1
        Exec.zoom L (Exec.modify fun s => { s with rbuf := s.rbuf.map ({ · with len := 0 }) })
        return 0
      else if lib.pduRbufIsFull rbuf then return -1
      else return 0

/-! ### Connecting -/

/-- Set up the I/O state of a connected descriptor. -/
def connectedSocket (lib : Lib) (fd : Int32) : IoM Int32 := do
  logIo (.removeFd fd)
  let s ← Exec.get
  if s.rbuf.isSome then return -1
  match lib.createPduRbuf pduMaxDataLength with
  | none => return -1
  | some rbuf =>
    Exec.modify fun s =>
      { s with fd, epollEvents := epollErr ||| epollIn, rbuf := some rbuf, sendq := [] }
    return 0

end Tvd

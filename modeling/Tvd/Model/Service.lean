import Tvd.Model.Dtv
import Tvd.Model.DtvPdu
import Tvd.Model.Io
import Tvd.Model.Pdu

/-! The state that the files of the daemon share: the static variables of
`dtv_io.c`, `registry.c`, `service.c` and `io.c`, and the tasks queued in the I/O
loop. `World` collects everything outside the repository. -/

namespace Tvd

/-- The functions that a `send_pdu` pointer can point to. -/
inductive SendPdu where
  | sendPdu
  deriving DecidableEq

/-- The functions that a service handler can be. -/
inductive Handler where
  | registryHandler | dtvHandler
  deriving DecidableEq

/-- Static variables of `dtv_io.c`, over what the DTV interface works on. -/
structure DtvService where
  env : DtvEnv
  sendPdu : Option SendPdu
  dtvCallbacks : Bool

abbrev DtvM := Exec Fault DtvService

/-- The state of the daemon. `tasks` holds the queued notifications, and
`running` tells whether the I/O loop goes on. -/
structure Daemon where
  io : IoState
  dtv : DtvService
  pdus : List PduOp
  gSendPdu : Option SendPdu
  gServiceHandler : UInt8 → Option Handler
  tasks : List Wbuf
  running : Bool

abbrev DaemonM := Exec Fault Daemon

/-- Everything the daemon runs on. -/
structure World where
  lib : Lib
  fdio : Fdio
  driver : Driver
  platform : Platform
  dtv : DtvApi
  runTask : List PduOp → Wbuf → Int32

/-- A world whose DTV interface is that of `dtv.c`. -/
def World.inTree (lib : Lib) (fdio : Fdio) (driver : Driver) (platform : Platform)
    (runTask : List PduOp → Wbuf → Int32) : World :=
  ⟨lib, fdio, driver, platform, .inTree lib driver platform, runTask⟩

/-- The in-tree daemon on a given driver, with everything else behaving well. -/
def World.onDriver (driver : Driver) : World :=
  .inTree .reference .ready driver .lp64 fun _ _ => 0

/-! ### Parts of the state -/

namespace DtvService

def envLens : Exec.Lens DtvService DtvEnv where
  get s := s.env
  set env s := { s with env }
  get_set _ _ := rfl
  set_get _ := rfl
  set_set _ _ _ := rfl

end DtvService

namespace Daemon

def ioLens : Exec.Lens Daemon IoState where
  get s := s.io
  set io s := { s with io }
  get_set _ _ := rfl
  set_get _ := rfl
  set_set _ _ _ := rfl

def dtvLens : Exec.Lens Daemon DtvService where
  get s := s.dtv
  set dtv s := { s with dtv }
  get_set _ _ := rfl
  set_get _ := rfl
  set_set _ _ _ := rfl

def envLens : Exec.Lens Daemon DtvEnv where
  get s := s.dtv.env
  set env s := { s with dtv := { s.dtv with env } }
  get_set _ _ := rfl
  set_get _ := rfl
  set_set _ _ _ := rfl

def pdusLens : Exec.Lens Daemon (List PduOp) where
  get s := s.pdus
  set pdus s := { s with pdus }
  get_set _ _ := rfl
  set_get _ := rfl
  set_set _ _ _ := rfl

end Daemon

variable {α : Type}

abbrev onIo (m : IoM α) : DaemonM α := Exec.zoom Daemon.ioLens m

abbrev onDtv (m : DtvM α) : DaemonM α := Exec.zoom Daemon.dtvLens m

abbrev onEnv (m : EnvM α) : DaemonM α := Exec.zoom Daemon.envLens m

abbrev onPdus (m : PduM α) : DaemonM α := Exec.zoom Daemon.pdusLens m

/-- `send_pdu` of `io.c`, which ignores the result of `io_state_send`. -/
def Io.sendPdu (w : World) (wbuf : Wbuf) : DaemonM Unit := do
  let _ ← onIo (ioStateSend w.fdio wbuf)

/-- Call through a `send_pdu` pointer. -/
def SendPdu.call (w : World) (wbuf : Wbuf) : Option SendPdu → DaemonM Unit
  | none => Exec.throw .nullCallback
  | some .sendPdu => do
    onPdus (Exec.modify (.send wbuf.id :: ·))
    Io.sendPdu w wbuf

end Tvd

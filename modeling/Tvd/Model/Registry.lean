import Tvd.Model.DtvIo

/-! `service.c`, `registry.c`, and the PDU handling of `io.c`: the tables of
services, the Registry commands that use them, and the dispatch of a command to
its service with an error reply when that fails. The Registry's code is written
against `Services`, the callbacks of the tables, which `Services.inTree` fills as
`service.c` does. -/

namespace Tvd

/-! ### Services -/

/-- `g_register_service` and `g_unregister_service`. -/
structure Services where
  register : UInt8 → Option (Option SendPdu → DtvM (Option Handler))
  unregister : UInt8 → Option (DtvM Int32)

/-- Tables with entries for the DTV service only. -/
def Services.dtvOnly (register : Option SendPdu → DtvM (Option Handler)) (unregister : DtvM Int32) :
    Services where
  register service := if service = serviceDtv then some register else none
  unregister service := if service = serviceDtv then some unregister else none

def Services.inTree (w : World) : Services := .dtvOnly (DtvIo.registerDtv w) (DtvIo.unregisterDtv w)

theorem Services.dtvOnly_register {register : Option SendPdu → DtvM (Option Handler)}
    {unregister : DtvM Int32} {service : UInt8} {f : Option SendPdu → DtvM (Option Handler)}
    (h : (dtvOnly register unregister).register service = some f) :
    service = serviceDtv ∧ f = register := by
  unfold dtvOnly at h
  dsimp only at h
  split at h
  · next hservice => exact ⟨hservice, (Option.some_inj.mp h).symm⟩
  · cases h

theorem Services.dtvOnly_unregister {register : Option SendPdu → DtvM (Option Handler)}
    {unregister : DtvM Int32} {service : UInt8} {f : DtvM Int32}
    (h : (dtvOnly register unregister).unregister service = some f) :
    service = serviceDtv ∧ f = unregister := by
  unfold dtvOnly at h
  dsimp only at h
  split at h
  · next hservice => exact ⟨hservice, (Option.some_inj.mp h).symm⟩
  · cases h

/-- Store into `g_service_handler`. -/
def setServiceHandler (service : UInt8) (handler : Option Handler) : DaemonM Unit :=
  Exec.modify fun s =>
    { s with gServiceHandler := Function.update s.gServiceHandler service handler }

/-! ### The Registry service -/

namespace Registry

def opcodeRegisterModule : UInt8 := 0x01
def opcodeUnregisterModule : UInt8 := 0x02

variable (w : World) (services : Services)

/-- `send_pdu(wbuf)` through the static pointer of this file. -/
def sendPdu (wbuf : Wbuf) : DaemonM Unit := do
  let s ← Exec.get
  SendPdu.call w wbuf s.gSendPdu

def registerModule (cmd : Pdu) : DaemonM Int32 := do
  match w.lib.readPduAt cmd [.C] with
  | none => return errorParmInvalid
  | some (service, _) =>
    let s ← Exec.get
    if (s.gServiceHandler service).isSome then return errorFail
    match services.register service with
    | none => return errorFail
    | some register =>
    match ← onPdus (createPduWbuf w.lib 4 0 false) with
    | none => return errorNomem
    | some wbuf =>
    match ← onDtv (register s.gSendPdu) with
    | none =>
      onPdus (destroyPduWbuf wbuf)
      return errorFail
    | some handler =>
    setServiceHandler service (some handler)
    let wbuf := wbuf.initPdu cmd.service cmd.opcode
    match ← onPdus (appendToPdu w.lib wbuf [.I] [.int protocolVersion]) with
    | none =>
      onPdus (destroyPduWbuf wbuf)
      return errorFail
    | some wbuf =>
      sendPdu w wbuf
      return errorNone

def unregisterModule (cmd : Pdu) : DaemonM Int32 := do
  match w.lib.readPduAt cmd [.C] with
  | none => return errorParmInvalid
  | some (service, _) =>
    match ← onPdus (createPduWbuf w.lib 0 0 false) with
    | none => return errorNomem
    | some wbuf =>
    if service = serviceRegistry then
      onPdus (destroyPduWbuf wbuf)
      return errorFail
    match services.unregister service with
    | none =>
      onPdus (destroyPduWbuf wbuf)
      return errorFail
    | some unregister =>
    let result ← onDtv unregister
    if result.toInt < 0 then
      onPdus (destroyPduWbuf wbuf)
      return errorFail
    setServiceHandler service none
    sendPdu w (wbuf.initPdu cmd.service cmd.opcode)
    return errorNone

/-- The static table of `registry_handler`. -/
def commandTable (opcode : UInt8) : Option (Pdu → DaemonM Int32) :=
  if opcode = opcodeRegisterModule then some (registerModule w services)
  else if opcode = opcodeUnregisterModule then some (unregisterModule w services)
  else none

def registryHandler (cmd : Pdu) : DaemonM Int32 :=
  Dispatch.handlePduByOpcode cmd (commandTable w services)

def initRegistry (sendPduCb : SendPdu) : DaemonM Int32 := do
  Exec.modify fun s => { s with gSendPdu := some sendPduCb }
  setServiceHandler serviceRegistry (some .registryHandler)
  return 0

def uninitRegistry : DaemonM Unit := do
  setServiceHandler serviceRegistry none
  Exec.modify fun s => { s with gSendPdu := none }

end Registry

/-! ### Handling a PDU -/

/-- The function that a service handler is. -/
def Handler.call (w : World) (services : Services) : Handler → Pdu → DaemonM Int32
  | .registryHandler => Registry.registryHandler w services
  | .dtvHandler => DtvIo.dtvHandler w

namespace Io

variable (w : World) (services : Services)

/-- The daemon aborts without memory for the reply, or when the loop fails. -/
def sendErrorReply (service error : UInt8) : DaemonM Unit := do
  match ← onPdus (createPduWbuf w.lib 1 0 false) with
  | none => Exec.throw .abort
  | some wbuf =>
    let wbuf := wbuf.initPdu service DtvIo.opcodeError
    -- the result of the append is not looked at
    let appended ← onPdus (appendToPdu w.lib wbuf [.C] [uint8Arg error])
    let res ← onIo (ioStateSend w.fdio (appended.getD wbuf))
    if res.toInt < 0 then Exec.throw .abort

/-- The static `handle_pdu` of `io.c`. -/
def handlePdu (cmd : Pdu) : DaemonM Int32 := do
  onIo (logIo (.handlePdu cmd))
  let s ← Exec.get
  let status ← Dispatch.handlePduByService cmd fun service =>
    (s.gServiceHandler service).map (Handler.call w services)
  if status ≠ 0 then sendErrorReply w cmd.service status.toUInt32.toUInt8
  return 0

end Io

end Tvd

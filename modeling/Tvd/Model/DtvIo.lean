import Tvd.Model.Service

/-! `dtv_io.c`: the handlers of the DTV commands, the callbacks that turn events
of the DTV interface into notifications, and the registration of the service.
Handlers and callbacks differ in what they read, in the size they ask for and in
what they append; the way a reply or a notification is created, filled, sent and
cleaned up is the same in all of them, and is stated once. -/

namespace Tvd.DtvIo

def opcodeError : UInt8 := 0x00
def opcodeGetTuners : UInt8 := 0x01
def opcodeSetSource : UInt8 := 0x02
def opcodeStartScan : UInt8 := 0x03
def opcodeStopScan : UInt8 := 0x04
def opcodeClearCache : UInt8 := 0x05
def opcodeSetChannel : UInt8 := 0x06
def opcodeGetChannel : UInt8 := 0x07
def opcodeGetProgram : UInt8 := 0x08
def opcodeChannelScanned : UInt8 := 0x81
def opcodeScannedComplete : UInt8 := 0x82
def opcodeScanStopped : UInt8 := 0x83
def opcodeEitBroadcasted : UInt8 := 0x84

variable (w : World)

/-- `send_pdu(wbuf)` through the static pointer of this file. -/
def sendPdu (wbuf : Wbuf) : DaemonM Unit := do
  let s ← Exec.get
  SendPdu.call w wbuf s.dtv.sendPdu

/-! ### Filling a buffer -/

/-- What is appended to a new buffer; `none` when an append failed. -/
def Fill := Wbuf → PduM (Option Wbuf)

def Fill.none : Fill := fun wbuf => pure (some wbuf)

/-- One part after the other; a part that fails ends the whole. -/
def Fill.seq (f g : Fill) : Fill := fun wbuf => do
  match ← f wbuf with
  | Option.none => return Option.none
  | some wbuf => g wbuf

def appendArgs (fmt : List Fmt) (args : List Arg) : Fill := fun wbuf =>
  appendToPdu w.lib wbuf fmt args

/-- Append the records of an array, behind their number. -/
def appendRecords {α : Type} (unset : α) (append : Wbuf → Option α → PduM (Option Wbuf))
    (num : UInt32) (records : Option (Records α)) : Fill :=
  Fill.seq (appendArgs w [.I] [.int num]) fun wbuf =>
    appendEach (fun wbuf idx => do
      append wbuf (← Exec.lift (Records.ref unset idx records))) num.toNat wbuf

/-- Sum up the sizes of the records of an array. -/
def sizeRecords {α : Type} (unset : α) (size : Option α → Except Fault UInt32)
    (num : UInt32) (records : Option (Records α)) (start : UInt32) : Except Fault UInt32 :=
  (List.range num.toNat).foldlM (fun sum idx => do
    return sum + (← size (← Records.ref unset idx records))) start

/-! ### Notifications -/

/-- The task `send_ntf_pdu`: nothing is done once the service is unregistered. -/
def sendNtfPdu (wbuf : Wbuf) : DaemonM IoResult := do
  let s ← Exec.get
  if s.dtv.sendPdu.isNone then return .ok
  sendPdu w wbuf
  return .ok

/-- Create a notification, fill it, and queue the task that sends it. -/
def notify (opcode : UInt8) (capacity : ℤ) (fill : Fill) : DaemonM Unit := do
  match ← onPdus (createPduWbuf w.lib (w.platform.sizeT capacity) 0 false) with
  | none => return
  | some wbuf =>
    let wbuf := wbuf.initPdu serviceDtv opcode
    match ← onPdus (fill wbuf) with
    | none => onPdus (destroyPduWbuf wbuf)
    | some wbuf =>
      let s ← Exec.get
      let result := w.runTask s.pdus wbuf
      onPdus (Exec.modify (.runTask wbuf.id result :: ·))
      if result.toInt < 0 then onPdus (destroyPduWbuf wbuf)
      else Exec.modify fun s => { s with tasks := s.tasks ++ [wbuf] }

def channelScannedCb (tunerId : Option CString) (sourceType : UInt8) (ch : Option TvChannel) :
    DaemonM Unit := do
  match tunerId with
  | none => return
  | some tunerId =>
    let chSize ← Exec.lift (calculateChSize ch)
    notify w opcodeChannelScanned (tunerId.strlen + 1 + 1 + chSize.toNat)
      (Fill.seq (appendArgs w [.str, .C] [.ptr tunerId, uint8Arg sourceType])
        (fun wbuf => appendChannel w.lib w.platform wbuf ch))

/-- The common body of `scanned_complete_cb` and `scanned_stopped_cb`. -/
def scanEnded (opcode : UInt8) (tunerId : Option CString) (sourceType : UInt8) : DaemonM Unit := do
  match tunerId with
  | none => return
  | some tunerId =>
    notify w opcode (tunerId.strlen + 1 + 1)
      (appendArgs w [.str, .C] [.ptr tunerId, uint8Arg sourceType])

def scannedCompleteCb := scanEnded w opcodeScannedComplete

def scannedStoppedCb := scanEnded w opcodeScanStopped

def eitBroadcastedCb (tunerId : Option CString) (sourceType : UInt8) (ch : Option TvChannel)
    (progNum : UInt32) (progs : Option (Records TvProgram)) : DaemonM Unit := do
  match tunerId with
  | none => return
  | some tunerId =>
    let progSize ← Exec.lift (sizeRecords .unset calculateProgSize progNum progs 0)
    let chSize ← Exec.lift (calculateChSize ch)
    notify w opcodeEitBroadcasted (tunerId.strlen + 1 + 1 + chSize.toNat + 4 + progSize.toNat)
      (Fill.seq (appendArgs w [.str, .C] [.ptr tunerId, uint8Arg sourceType])
        (Fill.seq (fun wbuf => appendChannel w.lib w.platform wbuf ch)
          (appendRecords w .unset (appendProgram w.lib) progNum progs)))

def channelUpdateNfyCb (chStatus : UInt8) (tunerId : Option CString) (sourceType : UInt8)
    (ch : Option TvChannel) : DaemonM Unit :=
  if chStatus = dtvChannelAdd then channelScannedCb w tunerId sourceType ch else return

def scanStatusNfyCb (scanStatus : UInt8) (tunerId : Option CString) (sourceType : UInt8) :
    DaemonM Unit :=
  if scanStatus = dtvScanComplete then scannedCompleteCb w tunerId sourceType
  else if scanStatus = dtvScanStopped then scannedStoppedCb w tunerId sourceType
  else return

def eventNfyCb := eitBroadcastedCb w

/-! ### Commands -/

/-- Fill a reply that was created, send it and release what it was made of. -/
def reply (cmd : Pdu) (wbuf : Option Wbuf) (fill : Fill) (release : List HeapOp) :
    DaemonM Int32 := do
  match wbuf with
  | none => return errorNomem
  | some wbuf =>
    let wbuf := wbuf.initPdu cmd.service cmd.opcode
    match ← onPdus (fill wbuf) with
    | none =>
      onEnv (onHeap (heapOps release))
      onPdus (destroyPduWbuf wbuf)
      return errorNomem
    | some wbuf =>
      sendPdu w wbuf
      onEnv (onHeap (heapOps release))
      return errorNone

/-- Create the reply, then fill and send it. -/
def createReply (cmd : Pdu) (capacity : ℕ) (fill : Fill) (release : List HeapOp) :
    DaemonM Int32 := do
  let wbuf ← onPdus (createPduWbuf w.lib capacity 0 false)
  reply w cmd wbuf fill release

/-- A status of the driver layer as the result of a handler. -/
def statusCode (ret : UInt8) : Int32 := ret.toUInt32.toInt32

def getTuners (cmd : Pdu) : DaemonM Int32 := do
  let tunerNum ← onEnv w.dtv.dtvGetTunerNum
  let block ← onEnv (onHeap (malloc w.lib
    (w.platform.sizeT (w.platform.sizeofTvTuner * tunerNum.toNat))))
  let (ret, items) ← onEnv (w.dtv.dtvGetTuners tunerNum block)
  if ret ≠ tvStatusSuccess then return errorFail
  let tuners := block.map fun block => Records.mk block items
  let pduSize ← Exec.lift (sizeRecords .unset calculateTunerSize tunerNum tuners 4)
  createReply w cmd pduSize.toNat (appendRecords w .unset (appendTuner w.lib) tunerNum tuners)
    (releaseTuners tunerNum tuners)

/-- The buffer of a Set source reply. With descriptors, they are stored in the
tail before the allocation is checked. -/
def createSourceWbuf (handle : NativeHandle) : PduM (Option Wbuf) := do
  let p := w.platform
  let capacity := p.sizeT (4 + 4 + 4 + 4 * handle.numInts.toInt)
  if handle.numFds = 0 then createPduWbuf w.lib capacity 0 false
  else
    let fdNum := handle.numFds
    let wbuf ← createPduWbuf w.lib capacity
      (p.sizeT (p.sizeofPtr + 4 + 4 * fdNum.toInt + p.cmsgSpace (p.sizeT (4 * fdNum.toInt)))) true
    match wbuf with
    | none => Exec.throw .nullPointer
    | some wbuf =>
      let data := handle.data.take fdNum.toInt.toNat
      if data.length < fdNum.toInt then Exec.throw .outOfBounds
      return some { wbuf with tail := some ⟨fdNum, data⟩ }

/-- The payload of a Set source reply; the loop over the integers runs from
`numFds` to `numInts`. -/
def fillSource (handle : NativeHandle) : Fill :=
  Fill.seq (appendArgs w [.I, .I, .I] [.int handle.version.toUInt32, .int handle.numFds.toUInt32,
    .int handle.numInts.toUInt32]) fun wbuf =>
    appendEach (fun wbuf i => do
      let v ← Exec.lift (handle.dataAt (handle.numFds.toInt + i))
      appendToPdu w.lib wbuf [.I] [.int v.toUInt32])
      (handle.numInts.toInt - handle.numFds.toInt).toNat wbuf

def setSource (cmd : Pdu) : DaemonM Int32 := do
  match w.lib.readPduAt cmd [.str, .C] with
  | none => return errorFail
  | some (tunerId, sourceType, _) =>
    let (ret, tvStream) ← onEnv (w.dtv.dtvSetSource tunerId sourceType .unset)
    if ret ≠ tvStatusSuccess then return statusCode ret
    match tvStream.sidebandStreamSourceHandle with
    | none => Exec.throw .indeterminate
    | some handle =>
      let wbuf ← onPdus (createSourceWbuf w handle)
      reply w cmd wbuf (fillSource w handle) []

/-- The common body of `start_scan` and `stop_scan`. -/
def scanCommand (scan : CString → UInt8 → EnvM UInt8) (cmd : Pdu) : DaemonM Int32 := do
  match w.lib.readPduAt cmd [.str, .C] with
  | none => return errorFail
  | some (tunerId, sourceType, _) =>
    let ret ← onEnv (scan tunerId sourceType)
    if ret ≠ tvStatusSuccess then return statusCode ret
    createReply w cmd 0 Fill.none []

def startScan := scanCommand w w.dtv.dtvStartScanning

def stopScan := scanCommand w w.dtv.dtvStopScanning

def cleanCache (cmd : Pdu) : DaemonM Int32 := do
  let ret ← onEnv w.dtv.dtvClnScannedChannelCache
  if ret ≠ tvStatusSuccess then return statusCode ret
  createReply w cmd 0 Fill.none []

def setChannel (cmd : Pdu) : DaemonM Int32 := do
  match w.lib.readPduAt cmd [.str, .C, .str] with
  | none => return errorFail
  | some (tunerId, sourceType, chNum, _) =>
    let block ← onEnv (onHeap (malloc w.lib w.platform.sizeofTvChannel))
    let (ret, items) ← onEnv (w.dtv.dtvSetChannel tunerId sourceType chNum block)
    let ch := block.map fun block => Records.mk block items
    if ret ≠ tvStatusSuccess then
      onEnv (onHeap (heapOps (releaseChannels 1 ch)))
      return statusCode ret
    let chSize ← Exec.lift (do calculateChSize (← Records.ref .unset 0 ch))
    createReply w cmd chSize.toNat
      (fun wbuf => do appendChannel w.lib w.platform wbuf (← Exec.lift (Records.ref .unset 0 ch)))
      (releaseChannels 1 ch)

/-- On failure of `dtv_get_channels` the list is not released. -/
def getChannels (cmd : Pdu) : DaemonM Int32 := do
  match w.lib.readPduAt cmd [.str, .C] with
  | none => return errorFail
  | some (tunerId, sourceType, _) =>
    let chNum ← onEnv (w.dtv.dtvGetChannelNum tunerId sourceType)
    let block ← onEnv (onHeap (malloc w.lib
      (w.platform.sizeT (w.platform.sizeofTvChannel * chNum.toNat))))
    let (ret, items) ← onEnv (w.dtv.dtvGetChannels tunerId sourceType chNum block)
    if ret ≠ tvStatusSuccess then return statusCode ret
    let chList := block.map fun block => Records.mk block items
    let size ← Exec.lift (sizeRecords .unset calculateChSize chNum chList 4)
    createReply w cmd size.toNat
      (appendRecords w .unset (appendChannel w.lib w.platform) chNum chList)
      (releaseChannels chNum chList)

/-- On failure of `dtv_get_programs` the list is not released. -/
def getPrograms (cmd : Pdu) : DaemonM Int32 := do
  match w.lib.readPduAt cmd [.str, .C, .str, .L, .L] with
  | none => return errorFail
  | some (tunerId, sourceType, chNum, startTime, endTime, _) =>
    let progNum ← onEnv (w.dtv.dtvGetProgNum tunerId sourceType chNum startTime endTime)
    let block ← onEnv (onHeap (malloc w.lib
      (w.platform.sizeT (w.platform.sizeofTvProgram * progNum.toNat))))
    let (ret, items) ← onEnv (w.dtv.dtvGetPrograms tunerId sourceType chNum startTime endTime
      progNum block)
    if ret ≠ tvStatusSuccess then return statusCode ret
    let progList := block.map fun block => Records.mk block items
    let size ← Exec.lift (sizeRecords .unset calculateProgSize progNum progList 4)
    createReply w cmd size.toNat (appendRecords w .unset (appendProgram w.lib) progNum progList)
      (releasePrograms progNum progList)

/-- The static table of `dtv_handler`. -/
def commandTable (opcode : UInt8) : Option (Pdu → DaemonM Int32) :=
  if opcode = opcodeGetTuners then some (getTuners w)
  else if opcode = opcodeSetSource then some (setSource w)
  else if opcode = opcodeStartScan then some (startScan w)
  else if opcode = opcodeStopScan then some (stopScan w)
  else if opcode = opcodeClearCache then some (cleanCache w)
  else if opcode = opcodeSetChannel then some (setChannel w)
  else if opcode = opcodeGetChannel then some (getChannels w)
  else if opcode = opcodeGetProgram then some (getPrograms w)
  else none

def dtvHandler (cmd : Pdu) : DaemonM Int32 := Dispatch.handlePduByOpcode cmd (commandTable w)

/-! ### Registration -/

abbrev inEnv {α : Type} (m : EnvM α) : DtvM α := Exec.zoom DtvService.envLens m

def registerDtv (sendPduCb : Option SendPdu) : DtvM (Option Handler) := do
  let ret ← inEnv (onHal (tvInputHalInit w.driver))
  if ret ≠ tvStatusSuccess then
    let _ ← inEnv (onHal (tvInputHalUninit w.driver))
    return none
  Exec.modify fun s => { s with dtvCallbacks := true }
  let ret ← inEnv w.dtv.dtvInit
  if ret ≠ tvStatusSuccess then
    let _ ← inEnv w.dtv.dtvUninit
    return none
  Exec.modify fun s => { s with sendPdu := sendPduCb }
  return some .dtvHandler

def unregisterDtv : DtvM Int32 := do
  let ret ← inEnv (onHal (tvInputHalUninit w.driver))
  if ret ≠ tvStatusSuccess then return errorFail
  let ret ← inEnv w.dtv.dtvUninit
  if ret ≠ tvStatusSuccess then return errorFail
  Exec.modify fun s => { s with sendPdu := none }
  return errorNone

end Tvd.DtvIo

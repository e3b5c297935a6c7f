import Tvd.Exec.Loop
import Tvd.Model.TvUtils

/-! `tv_hal.c`: the list of available tuners and the calls to the TV-input
driver. The driver itself is outside the repository, so `Driver` gives its
answers as functions of all earlier calls. Every call is logged with its
answer, newest first; the functions of the file are code over their static
variables and that log. -/

namespace Tvd

/-! ### The driver's interface -/

inductive TvInputType where
  | tuner
  | other (code : Int32)
  deriving DecidableEq

inductive TvInputEventType where
  | deviceAvailable
  | deviceUnavailable
  | streamConfigurationsChanged
  | other (code : Int32)
  deriving DecidableEq

/-- `tv_input_event_t`: its type and the id and type of its device. -/
structure TvInputEvent where
  type : TvInputEventType
  deviceId : Int32
  deviceType : TvInputType
  deriving DecidableEq

inductive TvStreamType where
  | independentVideoSource
  | bufferProducer
  | other (code : Int32)
  deriving DecidableEq

structure TvStreamConfig where
  streamId : Int32
  type : TvStreamType
  maxVideoWidth : UInt32
  maxVideoHeight : UInt32
  deriving DecidableEq

/-- `native_handle_t`: `data` holds `numFds` descriptors, then `numInts` integers. -/
structure NativeHandle where
  version : Int32
  numFds : Int32
  numInts : Int32
  data : List Int32
  deriving DecidableEq

/-- `native_handle->data[idx]`. -/
def NativeHandle.dataAt (handle : NativeHandle) (idx : ℤ) : Except Fault Int32 :=
  match handle.data[idx.toNat]? with
  | none => .error .outOfBounds
  | some v => if idx < 0 then .error .outOfBounds else .ok v

/-- `tv_stream_t`; a field is `none` until something is stored in it. -/
structure TvStream where
  streamId : Option Int32
  type : Option TvStreamType
  bufferProducer : Option (UInt32 × UInt32)
  sidebandStreamSourceHandle : Option NativeHandle
  deriving DecidableEq

/-- A `tv_stream_t` on the stack that nothing was stored in. -/
def TvStream.unset : TvStream := ⟨none, none, none, none⟩

/-- A call to the driver and its answer. -/
inductive HalCall where
  | hwGetModule (err : Int32)
  | openModule (err : Int32)
  | initializeDevice (err : Int32)
  | getStreamConfigurations (deviceId : Int32) (result : Int32) (configs : List TvStreamConfig)
  | openStream (deviceId streamId : Int32) (result : Int32) (handle : NativeHandle)
  | closeStream (deviceId streamId : Int32) (result : Int32)
  deriving DecidableEq

/-- The driver's answers, given all earlier calls. -/
structure Driver where
  hwGetModule : List HalCall → Int32
  openModule : List HalCall → Int32
  initializeDevice : List HalCall → Int32
  getStreamConfigurations : List HalCall → Int32 → Int32 × List TvStreamConfig
  openStream : List HalCall → Int32 → Int32 → Int32 × NativeHandle
  closeStream : List HalCall → Int32 → Int32 → Int32

/-- A driver that opens the device and offers no stream. -/
def silentDriver : Driver where
  hwGetModule _ := 0
  openModule _ := 0
  initializeDevice _ := 0
  getStreamConfigurations _ _ := (0, [])
  openStream _ _ _ := (-1, ⟨0, 0, 0, []⟩)
  closeStream _ _ _ := -1

/-- A driver that always offers stream 5, and opens and closes everything. -/
def steadyDriver : Driver where
  hwGetModule _ := 0
  openModule _ := 0
  initializeDevice _ := 0
  getStreamConfigurations _ _ := (0, [⟨5, .independentVideoSource, 0, 0⟩])
  openStream _ _ _ := (0, ⟨12, 0, 0, []⟩)
  closeStream _ _ _ := 0

/-! ### State -/

def maxDeviceNum : ℕ := 100

structure DeviceInfo where
  deviceId : Int32
  type : TvInputType
  actingStreamId : Int32
  deriving DecidableEq

/-- The static variables of the file, and the log. Of the two pointers only
whether they are set is kept. -/
structure TvHal where
  module : Bool
  device : Bool
  deviceNum : UInt8
  deviceList : Vector DeviceInfo maxDeviceNum
  calls : List HalCall

abbrev HalM := Exec Fault TvHal

/-- Static storage before `tv_input_hal_init`. -/
def TvHal.zero : TvHal :=
  ⟨false, false, 0, Vector.replicate maxDeviceNum ⟨0, .other 0, 0⟩, []⟩

/-- The live entries of the device list. -/
def TvHal.live (s : TvHal) : List DeviceInfo := s.deviceList.toList.take s.deviceNum.toNat

/-- `device_list[idx]`. -/
def getDevice (idx : ℕ) : HalM DeviceInfo := do
  let s ← Exec.get
  if h : idx < maxDeviceNum then return s.deviceList[idx] else Exec.throw .outOfBounds

/-- `device_list[idx] = info`. -/
def setDevice (idx : ℕ) (info : DeviceInfo) : HalM Unit :=
  if h : idx < maxDeviceNum then
    Exec.modify fun s => { s with deviceList := s.deviceList.set idx info }
  else Exec.throw .outOfBounds

/-- `device_list[idx].acting_stream_id = streamId`. -/
def setActingStreamId (idx : ℕ) (streamId : Int32) : HalM Unit := do
  let info ← getDevice idx
  setDevice idx { info with actingStreamId := streamId }

/-! ### Calls through `device` -/

/-- Call through the function table of `device`. -/
def callDevice {α : Type} (call : List HalCall → α × HalCall) : HalM α := do
  let s ← Exec.get
  if s.device then
    let (answer, entry) := call s.calls
    Exec.modify fun s => { s with calls := entry :: s.calls }
    return answer
  else Exec.throw .nullPointer

def initializeDevice (driver : Driver) : HalM Int32 :=
  callDevice fun log =>
    let err := driver.initializeDevice log
    (err, .initializeDevice err)

def getStreamConfigurations (driver : Driver) (deviceId : Int32) :
    HalM (Int32 × List TvStreamConfig) :=
  callDevice fun log =>
    let answer := driver.getStreamConfigurations log deviceId
    (answer, .getStreamConfigurations deviceId answer.1 answer.2)

def closeStream (driver : Driver) (deviceId streamId : Int32) : HalM Int32 :=
  callDevice fun log =>
    let result := driver.closeStream log deviceId streamId
    (result, .closeStream deviceId streamId result)

/-- `device->open_stream(device, deviceId, tvStream)`: on success the driver
fills the handle. The caller has stored the stream's id. -/
def openStream (driver : Driver) (deviceId streamId : Int32) (tvStream : TvStream) :
    HalM (Int32 × TvStream) :=
  callDevice fun log =>
    let answer := driver.openStream log deviceId streamId
    let tvStream := if answer.1 = 0 then
      { tvStream with sidebandStreamSourceHandle := some answer.2 } else tvStream
    ((answer.1, tvStream), .openStream deviceId streamId answer.1 answer.2)

/-! ### Events -/

def removeDeviceByIdx (target : ℕ) : HalM Unit := do
  Exec.modify fun s => { s with deviceNum := s.deviceNum - 1 }
  let s ← Exec.get
  Exec.forRange (fun idx => do
    let next ← getDevice (idx + 1)
    setDevice idx next) (s.deviceNum.toNat - target) target

/-- The loops that stop at the first live entry of a device; `device_num` if none is. -/
def findDevice (deviceId : Int32) : HalM ℕ := do
  let s ← Exec.get
  Exec.search (fun idx => do
    let info ← getDevice idx
    return info.deviceId = deviceId) s.deviceNum.toNat 0

def deviceInitNotify (driver : Driver) (event : TvInputEvent) : HalM Unit := do
  match event.type with
  | .deviceAvailable =>
    if event.deviceType ≠ .tuner then return
    let s ← Exec.get
    if maxDeviceNum ≤ s.deviceNum.toNat then return
    setDevice s.deviceNum.toNat ⟨event.deviceId, event.deviceType, -1⟩
    Exec.modify fun s => { s with deviceNum := s.deviceNum + 1 }
  | .deviceUnavailable =>
    if event.deviceType ≠ .tuner then return
    let idx ← findDevice event.deviceId
    let s ← Exec.get
    if s.deviceNum.toNat ≤ idx then return
    let info ← getDevice idx
    let _ ← closeStream driver event.deviceId info.actingStreamId
    removeDeviceByIdx idx
  | .streamConfigurationsChanged =>
    if event.deviceType ≠ .tuner then return
    let idx ← findDevice event.deviceId
    let s ← Exec.get
    if s.deviceNum.toNat ≤ idx then return
    let info ← getDevice idx
    let _ ← closeStream driver event.deviceId info.actingStreamId
    setActingStreamId idx (-1)
  | .other _ => return

/-! ### Opening and closing the HAL -/

/-- The result of `initialize` is not looked at: `err` still holds that of `open`. -/
def tvInputHalInit (driver : Driver) : HalM UInt8 := do
  Exec.modify fun s => { s with module := false, device := false, deviceNum := 0 }
  let s ← Exec.get
  let err := driver.hwGetModule s.calls
  Exec.modify fun s => { s with module := err = 0, calls := .hwGetModule err :: s.calls }
  if err ≠ 0 then return tvStatusFail
  let s ← Exec.get
  let err := driver.openModule s.calls
  Exec.modify fun s => { s with device := err = 0, calls := .openModule err :: s.calls }
  if err ≠ 0 then return tvStatusFail
  let _ ← initializeDevice driver
  if err ≠ 0 then return tvStatusFail
  return tvStatusSuccess

def tvInputHalUninit (driver : Driver) : HalM UInt8 := do
  let s ← Exec.get
  Exec.forRange (fun idx => do
    let info ← getDevice idx
    if info.actingStreamId ≠ -1 then
      let _ ← closeStream driver info.deviceId info.actingStreamId) s.deviceNum.toNat 0
  return tvStatusSuccess

/-! ### Queries -/

def tvInputHalGetInputNumByType (type : TvInputType) : HalM UInt32 := do
  let s ← Exec.get
  let sum ← Exec.accumulate (fun idx sum => do
    let info ← getDevice idx
    return some (if info.type = type then sum + 1 else sum)) s.deviceNum.toNat 0 (0 : UInt32)
  return sum.getD 0

/-- An `int` array of the caller: NULL, or its entries, `none` where never stored. -/
abbrev IntArray := Option (List (Option Int32))

/-- `devices[idx] = v`. -/
def IntArray.store (devices : IntArray) (idx : ℕ) (v : Int32) : Except Fault IntArray :=
  match devices with
  | none => .error .nullPointer
  | some entries =>
    if idx < entries.length then .ok (some (entries.set idx (some v))) else .error .outOfBounds

/-- `input_num`, the capacity of the array, is not looked at. -/
def tvInputHalGetInputsByType (_inputNum : UInt8) (type : TvInputType) (devices : IntArray) :
    HalM (UInt8 × IntArray) := do
  let s ← Exec.get
  let filled ← Exec.accumulate (fun idx (acc : UInt8 × IntArray) => do
    let info ← getDevice idx
    if info.type = type then
      let devices ← Exec.lift (acc.2.store acc.1.toNat info.deviceId)
      return some (acc.1 + 1, devices)
    else return some acc) s.deviceNum.toNat 0 (0, devices)
  return (tvStatusSuccess, (filled.map Prod.snd).getD devices)

/-! ### Streams -/

/-- The first independent-video configuration. -/
def firstVideoConfig (configs : List TvStreamConfig) : Option TvStreamConfig :=
  configs.find? fun config => config.type = .independentVideoSource

/-- Store a configuration into the stream. -/
def TvStream.configure (tvStream : TvStream) (config : TvStreamConfig) : TvStream :=
  let tvStream := { tvStream with type := some config.type, streamId := some config.streamId }
  if config.type = .bufferProducer then
    { tvStream with bufferProducer := some (config.maxVideoWidth, config.maxVideoHeight) }
  else tvStream

/-- The end of `tv_input_hal_get_stream`: open the stream, and store its id. -/
def openAndStore (driver : Driver) (deviceId : Int32) (idx : ℕ) (streamId : Int32)
    (tvStream : TvStream) : HalM (UInt8 × TvStream) := do
  let (err, tvStream) ← openStream driver deviceId streamId tvStream
  if err ≠ 0 then return (tvStatusFail, tvStream)
  setActingStreamId idx streamId
  return (tvStatusSuccess, tvStream)

/-- A device that is not listed leaves the search loop with `idx = device_num`,
and goes on to open a stream for it all the same. -/
def tvInputHalGetStream (driver : Driver) (deviceId : Int32) (tvStream : TvStream) :
    HalM (UInt8 × TvStream) := do
  let (err, configs) ← getStreamConfigurations driver deviceId
  if err ≠ 0 then return (tvStatusFail, tvStream)
  match firstVideoConfig configs with
  | none => return (tvStatusFail, tvStream)
  | some config =>
    let tvStream := tvStream.configure config
    let idx ← findDevice deviceId
    let s ← Exec.get
    if idx < s.deviceNum.toNat then
      let info ← getDevice idx
      if info.actingStreamId ≠ -1 then
        if info.actingStreamId ≠ config.streamId then
          let result ← closeStream driver info.deviceId info.actingStreamId
          if result ≠ 0 then return (tvStatusFail, tvStream)
        else return (tvStatusSuccess, tvStream)
    openAndStore driver deviceId idx config.streamId tvStream

end Tvd

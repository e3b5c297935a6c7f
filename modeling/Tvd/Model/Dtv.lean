import Tvd.Model.TvHal
import Tvd.Numeral.Decimal

/-! `dtv.c`: the DTV interface for Android TV inputs. The interface is meant to
be replaced by a vendor's, so the service above it is written against `DtvApi`,
which the functions of this file implement. Besides the heap and the TV HAL, the
code behind the interface may keep data of its own. -/

namespace Tvd

/-- What the code behind the DTV interface works on; `vendor` is the memory of
a vendor's implementation. -/
structure DtvEnv where
  heap : List HeapOp
  hal : TvHal
  vendor : List UInt8

abbrev EnvM := Exec Fault DtvEnv

namespace DtvEnv

def heapLens : Exec.Lens DtvEnv (List HeapOp) where
  get s := s.heap
  set heap s := { s with heap }
  get_set _ _ := rfl
  set_get _ := rfl
  set_set _ _ _ := rfl

def halLens : Exec.Lens DtvEnv TvHal where
  get s := s.hal
  set hal s := { s with hal }
  get_set _ _ := rfl
  set_get _ := rfl
  set_set _ _ _ := rfl

end DtvEnv

abbrev onHeap {α : Type} (m : HeapM α) : EnvM α := Exec.zoom DtvEnv.heapLens m

abbrev onHal {α : Type} (m : HalM α) : EnvM α := Exec.zoom DtvEnv.halLens m

/-- `free(p)`: nothing is done for NULL. -/
def free (p : Option ℕ) : HeapM Unit := heapOps (p.toList.map fun block => .free (some block))

/-! ### Tuners -/

/-- The digits needed for `target`, by repeated division while it exceeds ten. -/
def getIntLength (target : UInt32) : UInt8 :=
  if 10 < target then getIntLength (target / 10) + 1 else 1
termination_by target.toNat
decreasing_by
  rename_i h
  have h : 10 < target.toNat := UInt32.lt_iff_toNat_lt.mp h
  rw [UInt32.toNat_div]
  exact Nat.div_lt_self (by omega) (by decide)

/-- What `snprintf(buf, len + 1, "%d", v)` leaves in the buffer. -/
def snprintfInt (len : ℕ) (v : Int32) : CString :=
  ⟨(Numeral.signedDecimal v.toInt).take len,
    fun h => Numeral.zero_notMem_signedDecimal _ (List.mem_of_mem_take h)⟩

/-- `devices[idx]`, where an entry that was never stored reads as anything. -/
def IntArray.load (lib : Lib) (devices : IntArray) (idx : ℕ) : HeapM Int32 := do
  let log ← Exec.get
  match devices with
  | none => Exec.throw .nullPointer
  | some entries =>
    match entries[idx]? with
    | none => Exec.throw .outOfBounds
    | some none => return lib.garbageInt log
    | some (some v) => return v

def dtvGetTunerNum : EnvM UInt32 := onHal (tvInputHalGetInputNumByType .tuner)

/-- `supported_types` of the new records is not stored. -/
def dtvGetTuners (lib : Lib) (p : Platform) (tunerNum : UInt32) (tuners : Option ℕ) :
    EnvM (UInt8 × List TvTuner) := do
  let block ← onHeap (malloc lib (p.sizeT (4 * tunerNum.toNat)))
  let tunerIdList : IntArray := block.map fun _ => List.replicate tunerNum.toNat none
  let (ret, tunerIdList) ← onHal (tvInputHalGetInputsByType tunerNum.toUInt8 .tuner tunerIdList)
  if ret ≠ tvStatusSuccess then
    onHeap (free block)
    return (tvStatusFail, [])
  let items ← Exec.accumulate (fun idx (items : List TvTuner) => do
    let id ← onHeap (tunerIdList.load lib idx)
    let len := getIntLength id.toUInt32
    let str ← onHeap (malloc lib (len.toNat + 1))
    if tuners.isNone ∨ str.isNone then Exec.throw .nullPointer
    return some (items ++ [{ TvTuner.unset with id := ⟨str, snprintfInt len.toNat id⟩, numTypes := 0 }]))
    tunerNum.toNat 0 []
  onHeap (free block)
  return (tvStatusSuccess, items.getD [])

/-- The device id that `dtv_set_source` reads off a string. -/
def parseDeviceId (p : Platform) (tunerId : CString) : UInt32 :=
  let length := UInt32.ofNat tunerId.strlen
  (tunerId.val.take length.toNat).foldl
    (fun deviceId c => deviceId * 10 + UInt32.ofInt (p.charValue c - 48)) 0

def dtvSetSource (driver : Driver) (p : Platform) (tunerId : CString) (_sourceType : UInt8)
    (tvStream : TvStream) : EnvM (UInt8 × TvStream) :=
  onHal (tvInputHalGetStream driver (parseDeviceId p tunerId).toInt32 tvStream)

/-! ### The interface -/

/-- The functions of `dtv.h`. Functions that fill records return those they stored. -/
structure DtvApi where
  dtvInit : EnvM UInt8
  dtvUninit : EnvM UInt8
  dtvGetTunerNum : EnvM UInt32
  dtvGetTuners : UInt32 → Option ℕ → EnvM (UInt8 × List TvTuner)
  dtvSetSource : CString → UInt8 → TvStream → EnvM (UInt8 × TvStream)
  dtvStartScanning : CString → UInt8 → EnvM UInt8
  dtvStopScanning : CString → UInt8 → EnvM UInt8
  dtvClnScannedChannelCache : EnvM UInt8
  dtvSetChannel : CString → UInt8 → CString → Option ℕ → EnvM (UInt8 × List TvChannel)
  dtvGetChannelNum : CString → UInt8 → EnvM UInt32
  dtvGetChannels : CString → UInt8 → UInt32 → Option ℕ → EnvM (UInt8 × List TvChannel)
  dtvGetProgNum : CString → UInt8 → CString → UInt64 → UInt64 → EnvM UInt32
  dtvGetPrograms : CString → UInt8 → CString → UInt64 → UInt64 → UInt32 → Option ℕ →
    EnvM (UInt8 × List TvProgram)

/-- The implementation in `dtv.c`; scanning and channels are not supported. -/
def DtvApi.inTree (lib : Lib) (driver : Driver) (p : Platform) : DtvApi where
  dtvInit := pure tvStatusSuccess
  dtvUninit := pure tvStatusSuccess
  dtvGetTunerNum := Tvd.dtvGetTunerNum
  dtvGetTuners := Tvd.dtvGetTuners lib p
  dtvSetSource := Tvd.dtvSetSource driver p
  dtvStartScanning _ _ := pure tvStatusNotSupported
  dtvStopScanning _ _ := pure tvStatusNotSupported
  dtvClnScannedChannelCache := pure tvStatusNotSupported
  dtvSetChannel _ _ _ _ := pure (tvStatusNotSupported, [])
  dtvGetChannelNum _ _ := pure 0
  dtvGetChannels _ _ _ _ := pure (tvStatusNotSupported, [])
  dtvGetProgNum _ _ _ _ _ := pure 0
  dtvGetPrograms _ _ _ _ _ _ _ := pure (tvStatusNotSupported, [])

end Tvd

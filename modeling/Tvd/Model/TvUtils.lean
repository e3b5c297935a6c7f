import Tvd.Model.Libpdu

/-! `tv_utils.h` and `tv_utils.c`: the status codes of the driver layer, its
records, and the functions that release them. A pointer of a record carries the
block it points to, or none when it was never stored, next to what it points to. -/

namespace Tvd

def tvStatusSuccess : UInt8 := 0
def tvStatusFail : UInt8 := 1
def tvStatusInvarg : UInt8 := 2
def tvStatusNotSupported : UInt8 := 4

theorem tvStatusFail_ne_success : tvStatusFail ≠ tvStatusSuccess := by decide

def dtvChannelAdd : UInt8 := 0

def dtvScanComplete : UInt8 := 1
def dtvScanStopped : UInt8 := 2

/-- A pointer into the heap. -/
structure Ptr (α : Type) where
  block : Option ℕ
  val : α
  deriving DecidableEq

structure TvTuner where
  id : Ptr CString
  numTypes : UInt32
  supportedTypes : Ptr (List UInt8)
  deriving DecidableEq

structure TvChannel where
  networkId : Ptr CString
  transStreamId : Ptr CString
  serviceId : Ptr CString
  type : UInt8
  number : Ptr CString
  name : Ptr CString
  isEmergency : UInt8
  isFree : UInt8
  deriving DecidableEq

structure TvProgram where
  evtId : Ptr CString
  title : Ptr CString
  startTime : UInt64
  duration : UInt64
  descpt : Ptr CString
  rating : Ptr CString
  langNum : UInt32
  langs : Ptr (List (Ptr CString))
  stlLangNum : UInt32
  stlLangs : Ptr (List (Ptr CString))
  deriving DecidableEq

/-- The empty C string. -/
def emptyString : CString := ⟨[], List.not_mem_nil⟩

/-- A string pointer that was never stored. -/
def Ptr.unset : Ptr CString := ⟨none, emptyString⟩

/-- Records of freshly allocated memory. -/
def TvTuner.unset : TvTuner := ⟨.unset, 0, ⟨none, []⟩⟩

def TvChannel.unset : TvChannel := ⟨.unset, .unset, .unset, 0, .unset, .unset, 0, 0⟩

def TvProgram.unset : TvProgram :=
  ⟨.unset, .unset, 0, 0, .unset, .unset, 0, ⟨none, []⟩, 0, ⟨none, []⟩⟩

/-- The sizes of the records; their layout has no field that straddles words. -/
def Platform.sizeofTvTuner (p : Platform) : ℕ := 3 * p.sizeofPtr

def Platform.sizeofTvChannel (p : Platform) : ℕ := 7 * p.sizeofPtr

def Platform.sizeofTvProgram (p : Platform) : ℕ := 8 * p.sizeofPtr + 16

/-- An array of records on the heap; records past `items` were never stored. -/
structure Records (α : Type) where
  block : ℕ
  items : List α

/-- `&array[idx]` for an array that may be NULL. -/
def Records.ref {α : Type} (unset : α) (idx : ℕ) (array : Option (Records α)) :
    Except Fault (Option α) :=
  match array with
  | none => if idx = 0 then .ok none else .error .nullPointer
  | some records => .ok (some (records.items.getD idx unset))

/-! ### Release -/

/-- The loads and frees of one loop iteration: each freed pointer is read out of
the array first. -/
def freeFields (array : ℕ) (fields : List (Option ℕ)) : List HeapOp :=
  fields.flatMap fun p => [.load array, .free p]

def releaseTuners (num : UInt32) : Option (Records TvTuner) → List HeapOp
  | none => []
  | some tuners =>
    (List.range num.toNat).flatMap (fun idx =>
      let tuner := tuners.items.getD idx .unset
      freeFields tuners.block [tuner.id.block, tuner.supportedTypes.block]) ++
    [.free (some tuners.block)]

def releaseChannels (num : UInt32) : Option (Records TvChannel) → List HeapOp
  | none => []
  | some channels =>
    (List.range num.toNat).flatMap (fun idx =>
      let ch := channels.items.getD idx .unset
      freeFields channels.block [ch.networkId.block, ch.transStreamId.block, ch.serviceId.block,
        ch.number.block, ch.name.block]) ++
    [.free (some channels.block)]

/-- Free the first `num` strings of a language list, then the list. -/
def releaseLangs (array : ℕ) (num : UInt32) (langs : Ptr (List (Ptr CString))) : List HeapOp :=
  (List.range num.toNat).flatMap (fun attrIdx =>
    .load array :: (langs.block.toList.map .load) ++
      [.free (langs.val.getD attrIdx .unset).block]) ++
  freeFields array [langs.block]

def releaseProgram (array : ℕ) (program : TvProgram) : List HeapOp :=
  freeFields array [program.evtId.block, program.title.block, program.descpt.block,
    program.rating.block] ++
  releaseLangs array program.langNum program.langs ++
  releaseLangs array program.stlLangNum program.stlLangs

/-- The array itself is freed inside the loop, after each program. -/
def releasePrograms (num : UInt32) : Option (Records TvProgram) → List HeapOp
  | none => []
  | some programs =>
    (List.range num.toNat).flatMap fun progIdx =>
      releaseProgram programs.block (programs.items.getD progIdx .unset) ++
      [.free (some programs.block)]

end Tvd

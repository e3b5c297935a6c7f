import Tvd.Exec.Loop
import Tvd.Memory.Bytes
import Tvd.Model.TvHal

/-! `memptr.c`, and what `set_source` and `build_ancillary_data` do in the tail of a write
buffer, at the level of addresses and bytes. `tail` is what `pdu_wbuf_tail` returns;
address arithmetic is that of `uintptr_t`. -/

namespace Tvd

/-- Code that works on memory. -/
abbrev MemM := Exec Fault Memory

namespace Platform

variable (p : Platform)

/-- `CMSG_LEN(len)`. -/
def cmsgLen (len : ℕ) : ℕ := p.cmsgAlign p.sizeofCmsghdr + len

/-- An address past another. -/
def offset (addr n : ℕ) : ℕ := p.sizeT ((addr + n : ℕ) : ℤ)

end Platform

variable (p : Platform) (o : ByteOrder)

/-- `_ceil_align`: even an aligned address is moved. -/
def ceilAlign (ptr align : ℕ) : ℕ := p.sizeT (((ptr / align + 1) * align : ℕ) : ℤ)

def alignmentPadding : ℕ := p.sizeofPtr

/-- `tail_data`, in both functions. -/
def tailData (tail : ℕ) : ℕ := ceilAlign p tail (alignmentPadding p)

/-- `&tail_data->data[idx]`. -/
def dataAddr (tailData : ℕ) (idx : ℤ) : ℕ := p.sizeT (tailData + 4 + 4 * idx)

/-! ### Loads and stores -/

/-- The `int` at an address. -/
def intAt (mem : Memory) (addr : ℕ) : Int32 := (UInt32.ofNat (Memory.loadWord o 4 mem addr)).toInt32

def loadInt (addr : ℕ) : MemM Int32 := do return intAt o (← Exec.get) addr

def storeInt (addr : ℕ) (v : Int32) : MemM Unit :=
  Exec.modify fun mem => Memory.storeWord o 4 mem addr v.toUInt32.toNat

/-- The `size_t` at an address. -/
def sizeAt (mem : Memory) (addr : ℕ) : ℕ := Memory.loadWord o p.sizeofPtr mem addr

def loadSize (addr : ℕ) : MemM ℕ := do return sizeAt p o (← Exec.get) addr

def storeSize (addr v : ℕ) : MemM Unit :=
  Exec.modify fun mem => Memory.storeWord o p.sizeofPtr mem addr v

def memcpy (dst src n : ℕ) : MemM Unit := Exec.modify fun mem => mem.store dst (mem.load src n)

/-! ### Set source -/

/-- Store the descriptors of a handle in the tail. -/
def storeAncillaryData (tail : ℕ) (nativeHandle : NativeHandle) : MemM Unit := do
  let fdNum := nativeHandle.numFds
  storeInt o (tailData p tail) fdNum
  Exec.forRange (fun idx => do
    let v ← Exec.lift (nativeHandle.dataAt idx)
    storeInt o (dataAddr p (tailData p tail) idx) v) fdNum.toInt.toNat 0

/-! ### Sending -/

/-- The fields of `struct msghdr` that `build_ancillary_data` stores. -/
structure Msghdr where
  control : ℕ
  controllen : ℕ
  deriving DecidableEq

def solSocket : Int32 := 1

def scmRights : Int32 := 1

/-- `build_ancillary_data`. The number of descriptors is read from the tail each time. -/
def buildAncillaryDataAt (tail : ℕ) : MemM Msghdr := do
  let tailData := tailData p tail
  let fdNum ← loadInt o tailData
  let control := dataAddr p tailData fdNum.toInt
  let fdNum ← loadInt o tailData
  let controllen := p.sizeT (p.cmsgSpace (p.sizeT (4 * fdNum.toInt)))
  -- `CMSG_FIRSTHDR` is NULL without room for a header
  if controllen < p.sizeofCmsghdr then Exec.throw .nullPointer
  storeInt o (p.offset control p.sizeofPtr) solSocket
  storeInt o (p.offset control (p.sizeofPtr + 4)) scmRights
  let fdNum ← loadInt o tailData
  storeSize p o control (p.sizeT (p.cmsgLen (p.sizeT (4 * fdNum.toInt))))
  let fdNum ← loadInt o tailData
  memcpy (p.offset control (p.cmsgAlign p.sizeofCmsghdr)) (dataAddr p tailData 0)
    (p.sizeT (4 * fdNum.toInt))
  let controllen ← loadSize p o control
  return ⟨control, controllen⟩

/-- A control message, as it is read out of memory when it is sent. -/
structure ControlMessage where
  level : Int32
  type : Int32
  descriptors : List Int32
  deriving DecidableEq

def Msghdr.message (mem : Memory) (msg : Msghdr) : ControlMessage :=
  let data := p.offset msg.control (p.cmsgAlign p.sizeofCmsghdr)
  ⟨intAt o mem (p.offset msg.control p.sizeofPtr), intAt o mem (p.offset msg.control (p.sizeofPtr + 4)),
    (List.range ((msg.controllen - p.cmsgAlign p.sizeofCmsghdr) / 4)).map fun idx =>
      intAt o mem (p.offset data (4 * idx))⟩

end Tvd

import Tvd.Codec.Word
import Tvd.Exec.Basic

/-! What the daemon uses of the C library and of libpdu. Neither is part of the
repository, so `Lib` takes their answers as parameters: each is a function of
everything logged before, and every call is logged, so one `Lib` stands for one
sequence of outcomes of allocations and appends and quantifying over it covers
them all. `Lib.Documented` states what libpdu's documentation says of
`append_to_pdu`; only theorems about bytes on the wire assume it. -/

namespace Tvd

/-- Ways in which C code leaves the defined behaviour, or the process;
`nullCallback` is a call of a NULL function pointer. -/
inductive Fault where
  | nullPointer
  | nullCallback
  | outOfBounds
  | indeterminate
  | badArguments
  | abort
  deriving DecidableEq

/-! ### The platform -/

/-- What the C implementation decides: the size of a pointer, which is that of
`size_t` too, and whether `char` is signed. -/
structure Platform where
  sizeofPtr : ℕ
  sizeofPtr_eq : sizeofPtr = 4 ∨ sizeofPtr = 8
  charSigned : Bool

namespace Platform

variable (p : Platform)

/-- A result of `size_t` arithmetic. -/
def sizeT (n : ℤ) : ℕ := (n % 2 ^ (8 * p.sizeofPtr)).toNat

theorem sizeT_of_lt {p : Platform} {v : ℤ} (h : 0 ≤ v) (hlt : v < 2 ^ (8 * p.sizeofPtr)) :
    p.sizeT v = v.toNat := by
  rw [sizeT, Int.emod_eq_of_lt h hlt]

theorem sizeT_natCast {p : Platform} {v : ℕ} (h : v < 2 ^ (8 * p.sizeofPtr)) : p.sizeT (v : ℤ) = v := by
  rw [sizeT_of_lt (Int.natCast_nonneg v) (by exact_mod_cast h), Int.toNat_natCast]

/-- The value of a `char` after promotion to `int`. -/
def charValue (b : UInt8) : ℤ :=
  if p.charSigned ∧ 128 ≤ b.toNat then b.toNat - 256 else b.toNat

/-- `CMSG_ALIGN`, and the size of `struct cmsghdr`. -/
def cmsgAlign (len : ℕ) : ℕ := (len + p.sizeofPtr - 1) / p.sizeofPtr * p.sizeofPtr

def sizeofCmsghdr : ℕ := p.sizeofPtr + 8

/-- `CMSG_SPACE(len)`: a control message with `len` bytes of data, padded. -/
def cmsgSpace (len : ℕ) : ℕ := p.cmsgAlign len + p.cmsgAlign p.sizeofCmsghdr

end Platform

/-! ### PDUs -/

/-- A PDU; its length field is the length of the payload. -/
structure Pdu where
  service : UInt8
  opcode : UInt8
  payload : List UInt8
  deriving DecidableEq

/-- The largest payload the 16-bit length field can announce. -/
def pduMaxDataLength : ℕ := 65535

/-- The specifiers `0`, `C`, `I` and `L` of a format string. -/
inductive Fmt where
  | str | C | I | L
  deriving DecidableEq

/-- What `read_pdu_at` stores for a specifier. -/
abbrev Fmt.Val : Fmt → Type
  | .str => CString
  | .C => UInt8
  | .I => UInt32
  | .L => UInt64

abbrev Fmt.Values : List Fmt → Type
  | [] => Unit
  | f :: fs => f.Val × Fmt.Values fs

/-- A variadic argument after the default promotions. -/
inductive Arg where
  | ptr (s : CString)
  | int (v : UInt32)
  | long (v : UInt64)
  deriving DecidableEq

/-- The bytes one specifier appends for an argument of its type. -/
def Fmt.encode (o : ByteOrder) : Fmt → Arg → Option (List UInt8)
  | .str, .ptr s => some (CString.codec.encode s)
  | .C, .int v => some (Codec.octet.encode v.toUInt8)
  | .I, .int v => some ((Codec.word32 o).encode v)
  | .L, .long v => some ((Codec.word64 o).encode v)
  | _, _ => none

/-- Read a value off the front of a payload. -/
def Fmt.decode (o : ByteOrder) : (f : Fmt) → List UInt8 → Option (f.Val × List UInt8)
  | .str => CString.codec.decode
  | .C => Codec.octet.decode
  | .I => (Codec.word32 o).decode
  | .L => (Codec.word64 o).decode

/-- Read the values of a format string off the front of a payload. -/
def decodeValues (o : ByteOrder) : (fmt : List Fmt) → List UInt8 → Option (Fmt.Values fmt)
  | [], _ => some ()
  | f :: fs, bs => do
    let (v, bs) ← f.decode o bs
    return (v, ← decodeValues o fs bs)

/-- The bytes a format string appends, if each specifier has its argument. -/
def encodeArgs (o : ByteOrder) : List Fmt → List Arg → Option (List UInt8)
  | [], [] => some []
  | f :: fs, a :: as => do return (← f.encode o a) ++ (← encodeArgs o fs as)
  | _, _ => none

/-! ### Buffers -/

/-- `struct ancillary_data`, in the tail of a write buffer. -/
structure AncillaryData where
  fdNum : Int32
  data : List Int32
  deriving DecidableEq

/-- A write buffer: the sizes it was created with, whether it was given a
builder for ancillary data, what was stored in its tail, and its PDU. -/
structure Wbuf where
  id : ℕ
  capacity : ℕ
  tailLen : ℕ
  hasBuilder : Bool
  tail : Option AncillaryData
  pdu : Pdu
  deriving DecidableEq

/-- `init_pdu(&wbuf->buf.pdu, service, opcode)`. -/
def Wbuf.initPdu (wbuf : Wbuf) (service opcode : UInt8) : Wbuf :=
  { wbuf with pdu := ⟨service, opcode, []⟩ }

/-- A read buffer: `len` of its `maxlen` bytes were received last. -/
structure Rbuf where
  maxlen : ℕ
  len : ℕ
  raw : List UInt8
  deriving DecidableEq

/-! ### Logs -/

/-- Calls of `malloc` and `free`, and the loads of the functions that release records,
which are the only ones logged; `free none` passes on a pointer that was never stored. -/
inductive HeapOp where
  | malloc (size : ℕ) (ok : Bool)
  | load (block : ℕ)
  | free (block : Option ℕ)
  deriving DecidableEq

/-- Calls on write buffers. `send` hands a buffer to the send callback, and
`runTask` queues a task for it. -/
inductive PduOp where
  | create (capacity tailLen : ℕ) (ok : Bool)
  | append (ok : Bool)
  | destroy (id : ℕ)
  | send (id : ℕ)
  | runTask (id : ℕ) (result : Int32)
  deriving DecidableEq

/-- What a call of `append_to_pdu` may do: leave the defined behaviour, report
failure, or replace the payload. -/
inductive Append where
  | trap
  | fail
  | ok (payload : List UInt8)
  deriving DecidableEq

/-- The answers of the C library and of libpdu. -/
structure Lib where
  malloc : List HeapOp → ℕ → Bool
  /-- What an `int` that was never stored reads as. -/
  garbageInt : List HeapOp → Int32
  createPduWbuf : List PduOp → ℕ → ℕ → Bool
  appendToPdu : List PduOp → Pdu → List Fmt → List Arg → Append
  readPduAt : Pdu → (fmt : List Fmt) → Option (Fmt.Values fmt)
  createPduRbuf : ℕ → Option Rbuf
  pduRbufHasPdu : Rbuf → Bool
  pduRbufIsFull : Rbuf → Bool
  rbufPdu : Rbuf → Pdu

/-- `append_to_pdu` as documented: well-typed arguments are appended in order,
and the only failure is a payload that would not fit its length field. -/
structure Lib.Documented (lib : Lib) (o : ByteOrder) : Prop where
  fits : ∀ log pdu fmt args bytes, encodeArgs o fmt args = some bytes →
    pdu.payload.length + bytes.length ≤ pduMaxDataLength →
    lib.appendToPdu log pdu fmt args = .ok (pdu.payload ++ bytes)
  full : ∀ log pdu fmt args bytes, encodeArgs o fmt args = some bytes →
    pduMaxDataLength < pdu.payload.length + bytes.length →
    lib.appendToPdu log pdu fmt args = .fail

/-! ### A library that behaves as documented -/

/-- The length that the header of a received PDU declares. -/
def Rbuf.declared (rbuf : Rbuf) : ℕ :=
  (rbuf.raw.getD 2 0).toNat + 256 * (rbuf.raw.getD 3 0).toNat

/-- A libpdu on a little-endian host that never runs out of memory. -/
def Lib.reference : Lib where
  malloc _ _ := true
  garbageInt _ := 0
  createPduWbuf _ _ _ := true
  appendToPdu _ pdu fmt args := match encodeArgs .little fmt args with
    | none => .trap
    | some bytes =>
      if pdu.payload.length + bytes.length ≤ pduMaxDataLength then .ok (pdu.payload ++ bytes)
      else .fail
  readPduAt pdu fmt := decodeValues .little fmt pdu.payload
  createPduRbuf maxlen := some ⟨4 + maxlen, 0, []⟩
  pduRbufHasPdu rbuf := 4 ≤ rbuf.len ∧ 4 + rbuf.declared ≤ rbuf.len
  pduRbufIsFull rbuf := rbuf.len = rbuf.maxlen
  rbufPdu rbuf :=
    ⟨rbuf.raw.getD 0 0, rbuf.raw.getD 1 0, (rbuf.raw.drop 4).take rbuf.declared⟩

theorem Lib.reference_documented : Lib.reference.Documented .little where
  fits _ pdu fmt args bytes hbytes hle := by
    simp [Lib.reference, hbytes, hle]
  full _ pdu fmt args bytes hbytes hlt := by
    simp [Lib.reference, hbytes, Nat.not_le.mpr hlt]

/-- A platform with 64-bit pointers and signed characters. -/
def Platform.lp64 : Platform := ⟨8, .inr rfl, true⟩

/-! ### Calls -/

/-- Code that allocates, reads and frees memory. Logs are newest first. -/
abbrev HeapM := Exec Fault (List HeapOp)

/-- Code that works on write buffers. -/
abbrev PduM := Exec Fault (List PduOp)

/-- `malloc(size)`: the block allocated, or `none` for NULL. -/
def malloc (lib : Lib) (size : ℕ) : HeapM (Option ℕ) := do
  let log ← Exec.get
  let ok := lib.malloc log size
  Exec.modify (.malloc size ok :: ·)
  return if ok then some log.length else none

/-- Log accesses to the heap, in order. -/
def heapOps (ops : List HeapOp) : HeapM Unit := Exec.modify (ops.reverse ++ ·)

/-- `create_pdu_wbuf(capacity, tailLen, builder)`. -/
def createPduWbuf (lib : Lib) (capacity tailLen : ℕ) (hasBuilder : Bool) : PduM (Option Wbuf) := do
  let log ← Exec.get
  let ok := lib.createPduWbuf log capacity tailLen
  Exec.modify (.create capacity tailLen ok :: ·)
  return if ok then some ⟨log.length, capacity, tailLen, hasBuilder, none, ⟨0, 0, []⟩⟩ else none

/-- `append_to_pdu(&wbuf->buf.pdu, fmt, args...)`; `none` is a negative result. -/
def appendToPdu (lib : Lib) (wbuf : Wbuf) (fmt : List Fmt) (args : List Arg) :
    PduM (Option Wbuf) := do
  let log ← Exec.get
  match lib.appendToPdu log wbuf.pdu fmt args with
  | .trap => Exec.throw .badArguments
  | .fail =>
    Exec.modify (.append false :: ·)
    return none
  | .ok payload =>
    Exec.modify (.append true :: ·)
    return some { wbuf with pdu := { wbuf.pdu with payload } }

def destroyPduWbuf (wbuf : Wbuf) : PduM Unit := Exec.modify (.destroy wbuf.id :: ·)

end Tvd

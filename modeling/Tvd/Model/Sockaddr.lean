import Tvd.Exec.Basic
import Tvd.Memory.Bytes
import Tvd.Model.Libpdu

/-! `create_sockaddr_un` of `io.c`. The struct is in memory, with the offset and the size
of `sun_path` as parameters, and the operations on `size_t` and `ssize_t` are logged with
their operands. -/

namespace Tvd

namespace Platform

variable (p : Platform)

/-- `SIZE_MAX` and `SSIZE_MAX`. -/
def sizeMax : ℕ := 2 ^ (8 * p.sizeofPtr) - 1

def ssizeMax : ℕ := 2 ^ (8 * p.sizeofPtr - 1) - 1

end Platform

/-! ### Arithmetic -/

/-- Sums and differences of type `size_t`, and conversions of a `size_t` to `ssize_t`. -/
inductive SizeOp where
  | add (a b : ℕ)
  | sub (a b : ℕ)
  | toSsize (n : ℕ)
  deriving DecidableEq

/-- The exact result is not one of the type. -/
def SizeOp.Wraps (p : Platform) : SizeOp → Prop
  | .add a b => p.sizeMax < a + b
  | .sub a b => a < b
  | .toSsize n => p.ssizeMax < n

instance (p : Platform) : (op : SizeOp) → Decidable (op.Wraps p)
  | .add .. | .sub .. | .toSsize _ => inferInstanceAs (Decidable (_ < _))

/-- Memory, and the operations so far. -/
structure SockState where
  mem : Memory
  sizeOps : List SizeOp

abbrev SockM := Exec Fault SockState

section

variable (p : Platform)

def logSizeOp (op : SizeOp) : SockM Unit := Exec.modify fun s => { s with sizeOps := op :: s.sizeOps }

def sizeAdd (a b : ℕ) : SockM ℕ := do
  logSizeOp (.add a b)
  return p.sizeT (a + b)

def sizeSub (a b : ℕ) : SockM ℕ := do
  logSizeOp (.sub a b)
  return p.sizeT (a - b)

def toSsize (n : ℕ) : SockM ℤ := do
  logSizeOp (.toSsize n)
  return if n ≤ p.ssizeMax then n else n - 2 ^ (8 * p.sizeofPtr)

end

/-! ### Stores -/

def storeBytes (addr : ℕ) (bytes : List UInt8) : SockM Unit :=
  Exec.modify fun s => { s with mem := s.mem.store addr bytes }

def memsetBytes (addr : ℕ) (v : UInt8) (n : ℕ) : SockM Unit := storeBytes addr (List.replicate n v)

/-- `memcpy` from a string, which ends with its NUL. -/
def memcpyString (addr : ℕ) (s : CString) (n : ℕ) : SockM Unit := do
  if s.strlen + 1 < n then Exec.throw .outOfBounds
  storeBytes addr ((CString.codec.encode s).take n)

/-! ### Socket addresses -/

/-- `struct sockaddr_un`: `sun_family`, of two bytes, comes first, and the path is behind
it. No object is larger than the largest `ssize_t`. -/
structure SockaddrUn (p : Platform) where
  offsetofSunPath : ℕ
  sizeofSunPath : ℕ
  family_le : 2 ≤ offsetofSunPath
  size_le : offsetofSunPath + sizeofSunPath ≤ p.ssizeMax

/-- The one of Linux. -/
def SockaddrUn.linux (p : Platform) : SockaddrUn p where
  offsetofSunPath := 2
  sizeofSunPath := 108
  family_le := le_rfl
  size_le := by
    rw [Platform.ssizeMax]
    rcases p.sizeofPtr_eq with h | h <;> rw [h] <;> decide

def afUnix : UInt16 := 1

/-- `DEFAULT_SOCKET_NAME` of `main.c`. -/
def defaultSocketName : CString := ⟨[116, 118, 100], by decide⟩

def nameOffset : ℕ := 1

section

variable {p : Platform} (l : SockaddrUn p) (o : ByteOrder)

/-- `addr->sun_path`. -/
def SockaddrUn.sunPath (addr : ℕ) : ℕ := addr + l.offsetofSunPath

def storeFamily (addr : ℕ) (family : UInt16) : SockM Unit :=
  Exec.modify fun s => { s with mem := Memory.storeWord o 2 s.mem addr family.toNat }

def createSockaddrUn (socketName : CString) (addr : ℕ) : SockM ℤ := do
  -- the assertion on the address, which is not a null pointer
  if addr = 0 then Exec.throw .abort
  let len := p.sizeT socketName.strlen
  if p.sizeMax ≤ len then return -1
  -- with the trailing NUL
  let siz ← sizeAdd p len 1
  if l.sizeofSunPath < siz then return -1
  let room ← sizeSub p l.sizeofSunPath siz
  if room < nameOffset then return -1
  -- with the leading NUL of an abstract socket
  let pathsiz ← sizeAdd p nameOffset siz
  if p.ssizeMax < pathsiz then return -1
  let rest ← sizeSub p p.ssizeMax pathsiz
  if rest < l.offsetofSunPath then return -1
  storeFamily o addr afUnix
  memsetBytes (l.sunPath addr) 0 nameOffset
  memcpyString (l.sunPath addr + nameOffset) socketName siz
  let front ← sizeAdd p l.offsetofSunPath nameOffset
  let size ← sizeAdd p front siz
  toSsize p size

end

end Tvd

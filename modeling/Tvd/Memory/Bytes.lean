import Tvd.Codec.Word

/-! Byte-addressed memory. Bytes that are stored are read back, and a load sees a store
only where the two overlap. Words are stored and loaded in either byte order, and a
block that was copied reads as its source. -/

/-- A byte at every address. -/
abbrev Memory := ℕ → UInt8

/-- The `size` addresses from `start` on. -/
structure Region where
  start : ℕ
  size : ℕ
  deriving DecidableEq

namespace Region

def Mem (r : Region) (addr : ℕ) : Prop := r.start ≤ addr ∧ addr < r.start + r.size

/-- All of `r` lies in `s`. -/
def Within (r s : Region) : Prop := s.start ≤ r.start ∧ r.start + r.size ≤ s.start + s.size

def Disjoint (r s : Region) : Prop := r.start + r.size ≤ s.start ∨ s.start + s.size ≤ r.start

theorem Within.mem {r s : Region} (h : r.Within s) {addr : ℕ} (hr : r.Mem addr) : s.Mem addr := by
  obtain ⟨hstart, hend⟩ := h
  obtain ⟨hle, hlt⟩ := hr
  exact ⟨by omega, by omega⟩

theorem Disjoint.symm {r s : Region} (h : r.Disjoint s) : s.Disjoint r := Or.symm h

end Region

namespace Memory

variable {mem mem' : Memory} {addr n : ℕ} {bytes : List UInt8} {r : Region}

/-- The bytes of `n` addresses. -/
def load (mem : Memory) (addr n : ℕ) : List UInt8 := (List.range n).map fun i => mem (addr + i)

def store (mem : Memory) (addr : ℕ) (bytes : List UInt8) : Memory := fun a =>
  if addr ≤ a ∧ a < addr + bytes.length then bytes.getD (a - addr) 0 else mem a

/-- Two memories that agree on a region. -/
def AgreeOn (r : Region) (mem mem' : Memory) : Prop := ∀ addr, r.Mem addr → mem addr = mem' addr

/-- Two memories that agree outside a region. -/
def AgreeOff (r : Region) (mem mem' : Memory) : Prop := ∀ addr, ¬r.Mem addr → mem addr = mem' addr

theorem AgreeOff.refl (r : Region) (mem : Memory) : AgreeOff r mem mem := fun _ _ => rfl

theorem AgreeOff.trans {mem'' : Memory} (h : AgreeOff r mem mem') (h' : AgreeOff r mem' mem'') :
    AgreeOff r mem mem'' := fun addr haddr => (h addr haddr).trans (h' addr haddr)

/-- What changes nothing outside a region changes nothing in a region apart from it. -/
theorem AgreeOff.agreeOn {s : Region} (h : AgreeOff r mem mem') (hdisjoint : s.Disjoint r) :
    AgreeOn s mem mem' := by
  refine fun addr hs => h addr fun hr => ?_
  obtain ⟨hle, hlt⟩ := hs
  obtain ⟨hle', hlt'⟩ := hr
  rcases hdisjoint with hd | hd <;> omega

theorem AgreeOff.mono {s : Region} (h : AgreeOff r mem mem') (hrs : r.Within s) : AgreeOff s mem mem' :=
  fun addr haddr => h addr fun hr => haddr (hrs.mem hr)

@[simp] theorem load_length (mem : Memory) (addr n : ℕ) : (mem.load addr n).length = n := by
  simp [load]

theorem load_add (mem : Memory) (addr m n : ℕ) :
    mem.load addr (m + n) = mem.load addr m ++ mem.load (addr + m) n := by
  unfold load
  rw [List.range_add, List.map_append, List.map_map]
  refine congrArg _ (List.map_congr_left fun i _ => ?_)
  rw [Function.comp_apply, Nat.add_assoc]

theorem load_congr (h : AgreeOn r mem mem') (hin : (⟨addr, n⟩ : Region).Within r) :
    mem.load addr n = mem'.load addr n := by
  refine List.map_congr_left fun i hi => h _ (hin.mem ⟨?_, ?_⟩)
  · exact Nat.le_add_right addr i
  · exact Nat.add_lt_add_left (List.mem_range.mp hi) addr

/-- What is stored is loaded, whole or in part. -/
theorem load_store_part (mem : Memory) (addr : ℕ) (bytes : List UInt8) {k m : ℕ}
    (h : k + m ≤ bytes.length) : (mem.store addr bytes).load (addr + k) m = (bytes.drop k).take m := by
  refine List.ext_getElem (by simp; omega) fun i hi _ => ?_
  have hlt : i < m := by simpa using hi
  have hin : addr ≤ addr + k + i ∧ addr + k + i < addr + bytes.length := by omega
  have hidx : addr + k + i - addr = k + i := by omega
  simp [load, store, hin, hidx, show k + i < bytes.length by omega]

theorem load_store (mem : Memory) (addr : ℕ) (bytes : List UInt8) :
    (mem.store addr bytes).load addr bytes.length = bytes := by
  have h := load_store_part mem addr bytes (k := 0) (m := bytes.length) (by omega)
  simpa using h

/-- A store is not seen outside of it. -/
theorem store_agreeOff (mem : Memory) (h : (⟨addr, bytes.length⟩ : Region).Within r) :
    AgreeOff r mem (mem.store addr bytes) := by
  intro a ha
  have hnot : ¬(addr ≤ a ∧ a < addr + bytes.length) := fun hin => ha (h.mem hin)
  rw [store, if_neg hnot]

theorem load_store_of_disjoint (mem : Memory) {addr' : ℕ}
    (h : (⟨addr, bytes.length⟩ : Region).Disjoint ⟨addr', n⟩) :
    (mem.store addr bytes).load addr' n = mem.load addr' n := by
  refine List.map_congr_left fun i hi => ?_
  have hlt := List.mem_range.mp hi
  have hnot : ¬(addr ≤ addr' + i ∧ addr' + i < addr + bytes.length) := by
    rcases h with h | h <;> dsimp only at h <;> omega
  rw [store, if_neg hnot]

/-- A copied block reads as its source. -/
theorem load_copy (mem : Memory) (dst src : ℕ) {k m : ℕ} (h : k + m ≤ n) :
    (mem.store dst (mem.load src n)).load (dst + k) m = mem.load (src + k) m := by
  rw [load_store_part mem dst _ (by rw [load_length]; exact h)]
  refine List.ext_getElem (by simp; omega) fun i hi _ => ?_
  simp [load, Nat.add_assoc]

/-! ### Words -/

/-- The word of `n` bytes at an address. -/
def loadWord (o : ByteOrder) (n : ℕ) (mem : Memory) (addr : ℕ) : ℕ :=
  Codec.ofLittleEndian (o.arrange (mem.load addr n))

def storeWord (o : ByteOrder) (n : ℕ) (mem : Memory) (addr v : ℕ) : Memory :=
  mem.store addr (o.arrange (Codec.littleEndian n v))

variable {o : ByteOrder} {v : ℕ}

theorem loadWord_storeWord (mem : Memory) (addr : ℕ) (h : v < 256 ^ n) :
    loadWord o n (storeWord o n mem addr v) addr = v := by
  have hlen : (o.arrange (Codec.littleEndian n v)).length = n := by simp
  have hload := load_store mem addr (o.arrange (Codec.littleEndian n v))
  rw [hlen] at hload
  rw [loadWord, storeWord, hload, o.arrange_arrange, Codec.ofLittleEndian_littleEndian n v h]

theorem loadWord_storeWord_of_disjoint (mem : Memory) {m addr' : ℕ}
    (h : (⟨addr, n⟩ : Region).Disjoint ⟨addr', m⟩) :
    loadWord o m (storeWord o n mem addr v) addr' = loadWord o m mem addr' := by
  rw [loadWord, storeWord, load_store_of_disjoint mem (by simpa using h), loadWord]

theorem loadWord_store_of_disjoint (mem : Memory) {m addr' : ℕ}
    (h : (⟨addr, bytes.length⟩ : Region).Disjoint ⟨addr', m⟩) :
    loadWord o m (mem.store addr bytes) addr' = loadWord o m mem addr' := by
  rw [loadWord, load_store_of_disjoint mem h, loadWord]

theorem loadWord_congr (h : AgreeOn r mem mem') (hin : (⟨addr, n⟩ : Region).Within r) :
    loadWord o n mem addr = loadWord o n mem' addr := by
  rw [loadWord, load_congr h hin, loadWord]

theorem loadWord_copy (mem : Memory) (dst src : ℕ) {k m : ℕ} (h : k + m ≤ n) :
    loadWord o m (mem.store dst (mem.load src n)) (dst + k) = loadWord o m mem (src + k) := by
  rw [loadWord, load_copy mem dst src h, loadWord]

theorem storeWord_agreeOff (mem : Memory) (h : (⟨addr, n⟩ : Region).Within r) :
    AgreeOff r mem (storeWord o n mem addr v) := by
  have hlen : (o.arrange (Codec.littleEndian n v)).length = n := by simp
  exact store_agreeOff mem (by rw [hlen]; exact h)

end Memory

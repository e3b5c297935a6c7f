import Tvd.Exec.Run
import Tvd.Heap.Programs
import Tvd.Model.Ancillary
import Tvd.Wire.Appends

/-! The tail of a Set source reply. `set_source` asks for enough of it to move the start
to the next aligned address, store the descriptors there, and build a control message
behind them, so building the message leaves the descriptors alone and can be repeated. -/

namespace Tvd

open Exec

/-! ### Sizes and addresses -/

section

variable {p : Platform} {tail n : ℕ}

/-- The header of a control message needs no padding. -/
theorem Platform.cmsgAlign_sizeofCmsghdr (p : Platform) :
    p.cmsgAlign p.sizeofCmsghdr = p.sizeofPtr + 8 := by
  rw [Platform.cmsgAlign, Platform.sizeofCmsghdr]
  rcases p.sizeofPtr_eq with h | h <;> rw [h]

theorem Platform.le_cmsgAlign (p : Platform) (len : ℕ) : len ≤ p.cmsgAlign len := by
  rw [Platform.cmsgAlign]
  rcases p.sizeofPtr_eq with h | h <;> rw [h] <;> omega

/-- What `set_source` needs of the tail for so many descriptors. -/
def tailSpace (p : Platform) (n : ℕ) : ℕ := p.sizeofPtr + 4 + 4 * n + p.cmsgSpace (4 * n)

/-- A tail for descriptors, at an address from which nothing wraps around. -/
structure TailFits (p : Platform) (tail n : ℕ) : Prop where
  pos : 1 ≤ n
  noWrap : tail + tailSpace p n ≤ 2 ^ (8 * p.sizeofPtr)

theorem TailFits.space (h : TailFits p tail n) :
    tail + (p.sizeofPtr + 4 + 4 * n + p.cmsgSpace (4 * n)) ≤ 2 ^ (8 * p.sizeofPtr) := h.noWrap

/-- The start is moved by at least a byte and at most the padding. -/
theorem TailFits.tailData (h : TailFits p tail n) :
    tail < tailData p tail ∧ tailData p tail ≤ tail + p.sizeofPtr := by
  have hspace := h.space
  have hpos : 0 < p.sizeofPtr := by rcases p.sizeofPtr_eq with hp | hp <;> omega
  have hmod := Nat.div_add_mod tail p.sizeofPtr
  have hlt := Nat.mod_lt tail hpos
  have hnext : (tail / p.sizeofPtr + 1) * p.sizeofPtr = tail - tail % p.sizeofPtr + p.sizeofPtr := by
    rw [Nat.add_mul, Nat.one_mul, Nat.mul_comm]
    omega
  rw [Tvd.tailData, ceilAlign, alignmentPadding, hnext, p.sizeT_natCast (by omega)]
  omega

theorem TailFits.dataAddr (h : TailFits p tail n) {idx : ℕ} (hidx : idx ≤ n) :
    dataAddr p (Tvd.tailData p tail) idx = Tvd.tailData p tail + 4 + 4 * idx := by
  have hspace := h.space
  have hdata := h.tailData
  have hcmsg : 0 < p.cmsgSpace (4 * n) := by
    rw [Platform.cmsgSpace, p.cmsgAlign_sizeofCmsghdr]
    omega
  have hcast : ((Tvd.tailData p tail : ℤ) + 4 + 4 * (idx : ℤ)) =
      ((Tvd.tailData p tail + 4 + 4 * idx : ℕ) : ℤ) := by push_cast; rfl
  rw [Tvd.dataAddr, hcast, p.sizeT_natCast (by omega)]

/-- Past the control message nothing wraps around. -/
theorem TailFits.control (h : TailFits p tail n) :
    Tvd.tailData p tail + 4 + 4 * n + p.cmsgSpace (4 * n) ≤ 2 ^ (8 * p.sizeofPtr) := by
  have hspace := h.space
  have hdata := h.tailData
  omega

theorem TailFits.offset (h : TailFits p tail n) {k : ℕ} (hk : k < p.cmsgSpace (4 * n)) :
    p.offset (Tvd.tailData p tail + 4 + 4 * n) k = Tvd.tailData p tail + 4 + 4 * n + k := by
  have hcontrol := h.control
  rw [Platform.offset, p.sizeT_natCast (by omega)]

/-- The size of the tail fits a `size_t`, even at address zero. -/
theorem TailFits.tailSpace_lt (h : TailFits p tail n) : tailSpace p n < 2 ^ (8 * p.sizeofPtr) := by
  have hspace := h.noWrap
  have hne : tailSpace p n ≠ 2 ^ (8 * p.sizeofPtr) := by
    rw [tailSpace, Platform.cmsgSpace, p.cmsgAlign_sizeofCmsghdr, Platform.cmsgAlign]
    rcases p.sizeofPtr_eq with hp | hp <;> rw [hp] <;> omega
  omega

/-- Sizes of so many descriptors fit a `size_t`. -/
theorem TailFits.sizeT (h : TailFits p tail n) {v : ℕ} (hv : v ≤ p.cmsgSpace (4 * n)) :
    p.sizeT (v : ℤ) = v := by
  have hspace := h.space
  exact p.sizeT_natCast (by omega)

end

/-! ### The layout -/

/-- The fields of the tail: the number, the descriptors and the control message. -/
def numRegion (p : Platform) (tail : ℕ) : Region := ⟨tailData p tail, 4⟩

def dataRegion (p : Platform) (tail idx : ℕ) : Region := ⟨dataAddr p (tailData p tail) idx, 4⟩

def controlRegion (p : Platform) (tail n : ℕ) : Region :=
  ⟨dataAddr p (tailData p tail) n, p.cmsgSpace (4 * n)⟩

/-- Everything that is stored lies in the tail, and apart from everything else. -/
structure AncillaryLayout (p : Platform) (tail tailLen n : ℕ) : Prop where
  num : (numRegion p tail).Within ⟨tail, tailLen⟩
  data : ∀ idx < n, (dataRegion p tail idx).Within ⟨tail, tailLen⟩
  control : (controlRegion p tail n).Within ⟨tail, tailLen⟩
  num_data : ∀ idx < n, (numRegion p tail).Disjoint (dataRegion p tail idx)
  data_data : ∀ idx < n, ∀ jdx < n, idx ≠ jdx →
    (dataRegion p tail idx).Disjoint (dataRegion p tail jdx)
  num_control : (numRegion p tail).Disjoint (controlRegion p tail n)
  data_control : ∀ idx < n, (dataRegion p tail idx).Disjoint (controlRegion p tail n)

theorem TailFits.layout {p : Platform} {tail n : ℕ} (h : TailFits p tail n) :
    AncillaryLayout p tail (tailSpace p n) n := by
  have hdata := h.tailData
  have hn := h.dataAddr le_rfl
  have haddr {idx : ℕ} (hidx : idx < n) := h.dataAddr hidx.le
  refine ⟨⟨?_, ?_⟩, fun idx hidx => ⟨?_, ?_⟩, ⟨?_, ?_⟩, fun idx hidx => .inl ?_, fun idx hidx jdx hjdx hne => ?_,
    .inl ?_, fun idx hidx => .inl ?_⟩
  · exact hdata.1.le
  · dsimp only [numRegion, tailSpace]
    omega
  · dsimp only [dataRegion]
    rw [haddr hidx]
    omega
  · dsimp only [dataRegion, tailSpace]
    rw [haddr hidx]
    omega
  · dsimp only [controlRegion]
    rw [hn]
    omega
  · dsimp only [controlRegion, tailSpace]
    rw [hn]
    omega
  · dsimp only [numRegion, dataRegion]
    rw [haddr hidx]
    omega
  · unfold Region.Disjoint
    dsimp only [dataRegion]
    rw [haddr hidx, haddr hjdx]
    omega
  · dsimp only [numRegion, controlRegion]
    rw [hn]
    omega
  · dsimp only [dataRegion, controlRegion]
    rw [haddr hidx, hn]
    omega

/-! ### Storing the descriptors -/

section

variable {p : Platform} {o : ByteOrder} {tail : ℕ} {mem mem' : Memory} {fds : List Int32}

theorem intAt_congr {r : Region} {addr : ℕ} (h : Memory.AgreeOn r mem mem')
    (hin : (⟨addr, 4⟩ : Region).Within r) : intAt o mem addr = intAt o mem' addr := by
  rw [intAt, Memory.loadWord_congr h hin, intAt]

theorem intAt_storeInt (mem : Memory) (addr : ℕ) (v : Int32) :
    intAt o (Memory.storeWord o 4 mem addr v.toUInt32.toNat) addr = v := by
  rw [intAt, Memory.loadWord_storeWord mem addr (by exact v.toUInt32.toNat_lt), UInt32.ofNat_toNat]
  rfl

theorem intAt_storeWord_of_disjoint (mem : Memory) {addr addr' n v : ℕ}
    (h : (⟨addr, n⟩ : Region).Disjoint ⟨addr', 4⟩) :
    intAt o (Memory.storeWord o n mem addr v) addr' = intAt o mem addr' := by
  rw [intAt, Memory.loadWord_storeWord_of_disjoint mem h, intAt]

/-- The tail holds the number of descriptors and the first ones of them. -/
structure HoldsDescriptors (p : Platform) (o : ByteOrder) (tail : ℕ) (num : Int32) (fds : List Int32)
    (k : ℕ) (mem : Memory) : Prop where
  num : intAt o mem (numRegion p tail).start = num
  data : ∀ idx < k, intAt o mem (dataRegion p tail idx).start = fds.getD idx 0

theorem HoldsDescriptors.congr {num : Int32} {n : ℕ} (hfits : TailFits p tail n)
    (h : HoldsDescriptors p o tail num fds n mem)
    (hagree : Memory.AgreeOff (controlRegion p tail n) mem mem') :
    HoldsDescriptors p o tail num fds n mem' where
  num := by
    rw [← h.num]
    exact (intAt_congr (hagree.agreeOn hfits.layout.num_control) ⟨le_rfl, le_rfl⟩).symm
  data idx hidx := by
    rw [← h.data idx hidx]
    exact (intAt_congr (hagree.agreeOn (hfits.layout.data_control idx hidx)) ⟨le_rfl, le_rfl⟩).symm

/-- `set_source` leaves the descriptors in the tail, and stores nothing outside of it. -/
theorem storeAncillaryData_ok {handle : NativeHandle} (hdata : handle.numFds.toInt.toNat ≤ handle.data.length)
    (hfits : TailFits p tail handle.numFds.toInt.toNat) (mem : Memory) :
    ∃ mem', storeAncillaryData p o tail handle mem = .ok ((), mem') ∧
      HoldsDescriptors p o tail handle.numFds handle.data handle.numFds.toInt.toNat mem' ∧
      Memory.AgreeOff ⟨tail, tailSpace p handle.numFds.toInt.toNat⟩ mem mem' := by
  have hlayout := hfits.layout
  let inv : ℕ → Memory → Prop := fun k t => HoldsDescriptors p o tail handle.numFds handle.data k t ∧
    Memory.AgreeOff ⟨tail, tailSpace p handle.numFds.toInt.toNat⟩ mem t
  have hloop : ∃ t, forRange (fun idx => do
      let v ← Exec.lift (handle.dataAt idx)
      storeInt o (dataAddr p (tailData p tail) idx) v) handle.numFds.toInt.toNat 0
        (Memory.storeWord o 4 mem (tailData p tail) handle.numFds.toUInt32.toNat) = .ok ((), t) ∧
      inv (0 + handle.numFds.toInt.toNat) t := by
    refine forRange_total inv _ 0 _ ⟨⟨intAt_storeInt mem _ _, fun idx hidx => ?_⟩, ?_⟩ ?_
    · exact absurd hidx (Nat.not_lt_zero _)
    · exact Memory.storeWord_agreeOff mem hlayout.num
    · rintro j t - hj ⟨hholds, hoff⟩
      rw [Nat.zero_add] at hj
      have hlt : j < handle.data.length := by omega
      have hread : handle.dataAt j = .ok (handle.data.getD j 0) := by
        rw [NativeHandle.dataAt, Int.toNat_natCast, List.getElem?_eq_getElem hlt]
        dsimp only
        rw [if_neg (by omega), List.getD_eq_getElem?_getD, List.getElem?_eq_getElem hlt, Option.getD_some]
      refine ⟨Memory.storeWord o 4 t (dataRegion p tail j).start (handle.data.getD j 0).toUInt32.toNat,
        by rw [hread]; rfl, ⟨?_, fun idx hidx => ?_⟩, hoff.trans (Memory.storeWord_agreeOff t (hlayout.data j hj))⟩
      · exact (intAt_storeWord_of_disjoint t (hlayout.num_data j hj).symm).trans hholds.num
      · by_cases hidxj : idx = j
        · subst hidxj
          exact intAt_storeInt t _ _
        · have hapart := hlayout.data_data j hj idx (by omega) (Ne.symm hidxj)
          exact (intAt_storeWord_of_disjoint t hapart).trans (hholds.data idx (by omega))
  obtain ⟨mem', hrun, hholds, hoff⟩ := hloop
  rw [Nat.zero_add] at hholds
  exact ⟨mem', hrun, hholds, hoff⟩

/-! ### Building the message -/

theorem loadInt_ok {addr : ℕ} {v : Int32} (h : intAt o mem addr = v) : loadInt o addr mem = .ok (v, mem) := by
  subst h
  rfl

theorem storeInt_bind {α : Type} (addr : ℕ) (v : Int32) (f : Unit → MemM α) (mem : Memory) :
    (storeInt o addr v >>= f) mem = f () (Memory.storeWord o 4 mem addr v.toUInt32.toNat) := rfl

theorem storeSize_bind {α : Type} (addr v : ℕ) (f : Unit → MemM α) (mem : Memory) :
    (storeSize p o addr v >>= f) mem = f () (Memory.storeWord o p.sizeofPtr mem addr v) := rfl

theorem memcpy_bind {α : Type} (dst src n : ℕ) (f : Unit → MemM α) (mem : Memory) :
    (memcpy dst src n >>= f) mem = f () (mem.store dst (mem.load src n)) := rfl

/-- The memory with the level and the type of the message. -/
def typeMemory (p : Platform) (o : ByteOrder) (control : ℕ) (mem : Memory) : Memory :=
  Memory.storeWord o 4
    (Memory.storeWord o 4 mem (control + p.sizeofPtr) solSocket.toUInt32.toNat)
    (control + (p.sizeofPtr + 4)) scmRights.toUInt32.toNat

/-- The memory with the header of the message. -/
def headerMemory (p : Platform) (o : ByteOrder) (control n : ℕ) (mem : Memory) : Memory :=
  Memory.storeWord o p.sizeofPtr (typeMemory p o control mem) control (p.sizeofPtr + 8 + 4 * n)

/-- The memory with the whole message. -/
def messageMemory (p : Platform) (o : ByteOrder) (control src n : ℕ) (mem : Memory) : Memory :=
  (headerMemory p o control n mem).store (control + (p.sizeofPtr + 8))
    ((headerMemory p o control n mem).load src (4 * n))

section

variable {n : ℕ}

theorem cmsgSpace_eq (p : Platform) (n : ℕ) :
    p.cmsgSpace (4 * n) = p.cmsgAlign (4 * n) + (p.sizeofPtr + 8) := by
  rw [Platform.cmsgSpace, p.cmsgAlign_sizeofCmsghdr]

/-- A part of the control message. -/
theorem TailFits.inControl (hfits : TailFits p tail n) {k m : ℕ} (hk : k + m ≤ p.cmsgSpace (4 * n)) :
    (⟨Tvd.tailData p tail + 4 + 4 * n + k, m⟩ : Region).Within (controlRegion p tail n) := by
  unfold Region.Within
  dsimp only [controlRegion]
  rw [hfits.dataAddr le_rfl]
  omega

theorem typeMemory_agreeOff (hfits : TailFits p tail n) (mem : Memory) :
    Memory.AgreeOff (controlRegion p tail n) mem (typeMemory p o (tailData p tail + 4 + 4 * n) mem) := by
  have hspace := cmsgSpace_eq p n
  have hlevel := hfits.inControl (k := p.sizeofPtr) (m := 4) (by omega)
  have htype := hfits.inControl (k := p.sizeofPtr + 4) (m := 4) (by omega)
  exact (Memory.storeWord_agreeOff mem hlevel).trans (Memory.storeWord_agreeOff _ htype)

theorem headerMemory_agreeOff (hfits : TailFits p tail n) (mem : Memory) :
    Memory.AgreeOff (controlRegion p tail n) mem
      (headerMemory p o (tailData p tail + 4 + 4 * n) n mem) := by
  have hspace := cmsgSpace_eq p n
  have hlen := hfits.inControl (k := 0) (m := p.sizeofPtr) (by omega)
  exact (typeMemory_agreeOff hfits mem).trans (Memory.storeWord_agreeOff _ hlen)

theorem messageMemory_agreeOff (hfits : TailFits p tail n) (src : ℕ) (mem : Memory) :
    Memory.AgreeOff (controlRegion p tail n) mem
      (messageMemory p o (tailData p tail + 4 + 4 * n) src n mem) := by
  have hspace := cmsgSpace_eq p n
  have halign := p.le_cmsgAlign (4 * n)
  have hdata := hfits.inControl (k := p.sizeofPtr + 8) (m := 4 * n) (by omega)
  refine (headerMemory_agreeOff hfits mem).trans (Memory.store_agreeOff _ ?_)
  rw [Memory.load_length]
  exact hdata

/-- What the message reads as. -/
theorem messageMemory_fields (p : Platform) (o : ByteOrder) (control src n : ℕ) (mem : Memory)
    (hlen : p.sizeofPtr + 8 + 4 * n < 2 ^ (8 * p.sizeofPtr)) :
    sizeAt p o (messageMemory p o control src n mem) control = p.sizeofPtr + 8 + 4 * n ∧
      intAt o (messageMemory p o control src n mem) (control + p.sizeofPtr) = solSocket ∧
      intAt o (messageMemory p o control src n mem) (control + (p.sizeofPtr + 4)) = scmRights := by
  have hword : p.sizeofPtr + 8 + 4 * n < 256 ^ p.sizeofPtr := by
    rw [show (256 : ℕ) = 2 ^ 8 from rfl, ← pow_mul]
    exact hlen
  have hfields {k m : ℕ} (hk : k + m ≤ p.sizeofPtr + 8) :
      Memory.loadWord o m (messageMemory p o control src n mem) (control + k) =
        Memory.loadWord o m (headerMemory p o control n mem) (control + k) :=
    Memory.loadWord_store_of_disjoint _ (.inr (by dsimp only; omega))
  refine ⟨?_, ?_, ?_⟩
  · have hsize := hfields (k := 0) (m := p.sizeofPtr) (by omega)
    exact hsize.trans (Memory.loadWord_storeWord _ _ hword)
  · rw [intAt, hfields (by omega), ← intAt, headerMemory, intAt_storeWord_of_disjoint _ (.inl le_rfl), typeMemory,
      intAt_storeWord_of_disjoint _ (.inr (by dsimp only; omega)), intAt_storeInt]
  · rw [intAt, hfields (by omega), ← intAt, headerMemory,
      intAt_storeWord_of_disjoint _ (.inl (by dsimp only; omega)), typeMemory, intAt_storeInt]

/-- The descriptors of the message are those it was made from. -/
theorem messageMemory_data (p : Platform) (o : ByteOrder) {control src n idx : ℕ} (mem : Memory) (hidx : idx < n) :
    intAt o (messageMemory p o control src n mem) (control + (p.sizeofPtr + 8) + 4 * idx) =
      intAt o (headerMemory p o control n mem) (src + 4 * idx) := by
  rw [intAt, messageMemory, Memory.loadWord_copy _ _ _ (by omega), ← intAt]

/-- Building the message leaves it in the memory behind the descriptors. -/
theorem buildAncillaryDataAt_run {num : Int32} (hnum : num.toInt = n) (hfits : TailFits p tail n)
    (h : HoldsDescriptors p o tail num fds n mem) :
    buildAncillaryDataAt p o tail mem =
      .ok (⟨tailData p tail + 4 + 4 * n, p.sizeofPtr + 8 + 4 * n⟩,
        messageMemory p o (tailData p tail + 4 + 4 * n) (tailData p tail + 4) n mem) := by
  have hspace := cmsgSpace_eq p n
  have halign := p.le_cmsgAlign (4 * n)
  have hpos := hfits.pos
  have hlen : p.sizeofPtr + 8 + 4 * n < 2 ^ (8 * p.sizeofPtr) := by
    have hwrap := hfits.control
    omega
  have hsize : p.sizeT (4 * (n : ℤ)) = 4 * n := by
    exact_mod_cast hfits.sizeT (show 4 * n ≤ p.cmsgSpace (4 * n) by omega)
  have hroom : ¬p.cmsgSpace (4 * n) < p.sizeofCmsghdr := by
    rw [Platform.sizeofCmsghdr]
    omega
  have hcmsgLen : p.sizeT (p.cmsgLen (4 * n) : ℤ) = p.sizeofPtr + 8 + 4 * n := by
    rw [Platform.cmsgLen, p.cmsgAlign_sizeofCmsghdr]
    exact hfits.sizeT (by omega)
  have hfirst : dataAddr p (tailData p tail) 0 = tailData p tail + 4 := hfits.dataAddr (Nat.zero_le n)
  have hcontrol : dataAddr p (tailData p tail) num.toInt = tailData p tail + 4 + 4 * n := by
    rw [hnum, hfits.dataAddr le_rfl]
  have hlevel := hfits.offset (show p.sizeofPtr < p.cmsgSpace (4 * n) by omega)
  have htype := hfits.offset (show p.sizeofPtr + 4 < p.cmsgSpace (4 * n) by omega)
  have hdata := hfits.offset (show p.sizeofPtr + 8 < p.cmsgSpace (4 * n) by omega)
  -- the number is still there behind each store
  have hread {mem' : Memory} (hoff : Memory.AgreeOff (controlRegion p tail n) mem mem') :
      loadInt o (tailData p tail) mem' = .ok (num, mem') := loadInt_ok (h.congr hfits hoff).num
  unfold buildAncillaryDataAt
  dsimp only
  rw [bind_ok (hread (.refl _ _)), bind_ok (hread (.refl _ _)), hcontrol, hnum, hsize,
    hfits.sizeT le_rfl, if_neg hroom, hlevel, htype, storeInt_bind, storeInt_bind, ← typeMemory,
    bind_ok (hread (typeMemory_agreeOff hfits mem)), hnum, hsize, hcmsgLen, storeSize_bind, ← headerMemory,
    bind_ok (hread (headerMemory_agreeOff hfits mem)), hnum, hsize, p.cmsgAlign_sizeofCmsghdr, hdata, hfirst,
    memcpy_bind, ← messageMemory]
  have hread := (messageMemory_fields p o (tailData p tail + 4 + 4 * n) (tailData p tail + 4) n mem hlen).1
  change Except.ok (Msghdr.mk _ (sizeAt p o _ _), _) = _
  rw [hread]

/-- The message that is built is the same from whatever memory holds the descriptors. -/
theorem messageMemory_message (hfits : TailFits p tail n) {num : Int32} (hlen : fds.length = n)
    (h : HoldsDescriptors p o tail num fds n mem) :
    Msghdr.message p o (messageMemory p o (tailData p tail + 4 + 4 * n) (tailData p tail + 4) n mem)
      ⟨tailData p tail + 4 + 4 * n, p.sizeofPtr + 8 + 4 * n⟩ = ⟨solSocket, scmRights, fds⟩ := by
  have hspace := cmsgSpace_eq p n
  have halign := p.le_cmsgAlign (4 * n)
  have hpos := hfits.pos
  have hwrap := hfits.control
  obtain ⟨-, hlevel, htype⟩ := messageMemory_fields p o (tailData p tail + 4 + 4 * n)
    (tailData p tail + 4) n mem (by omega)
  have hcount : (p.sizeofPtr + 8 + 4 * n - (p.sizeofPtr + 8)) / 4 = n := by omega
  have hdata : ∀ idx < n, intAt o (messageMemory p o (tailData p tail + 4 + 4 * n) (tailData p tail + 4) n mem)
      (p.offset (tailData p tail + 4 + 4 * n + (p.sizeofPtr + 8)) (4 * idx)) = fds.getD idx 0 := by
    intro idx hidx
    have haddr : p.offset (tailData p tail + 4 + 4 * n + (p.sizeofPtr + 8)) (4 * idx) =
        tailData p tail + 4 + 4 * n + (p.sizeofPtr + 8) + 4 * idx := p.sizeT_natCast (by omega)
    rw [haddr, messageMemory_data p o mem hidx, ← hfits.dataAddr hidx.le]
    exact (h.congr hfits (headerMemory_agreeOff hfits mem)).data idx hidx
  rw [Msghdr.message]
  dsimp only
  rw [p.cmsgAlign_sizeofCmsghdr, hfits.offset (by omega), hfits.offset (by omega), hfits.offset (by omega),
    hlevel, htype, hcount]
  congr 1
  rw [← map_getD_range fds 0, hlen]
  exact List.map_congr_left fun idx hidx => hdata idx (List.mem_range.mp hidx)

end

/-! ### Attempts to send -/

/-- An attempt to send builds the message, with anything outside of the tail changed since
the last. -/
def Attempt (p : Platform) (o : ByteOrder) (tail tailLen : ℕ) (before : Memory) (msg : Msghdr)
    (after : Memory) : Prop :=
  ∃ mem, Memory.AgreeOn ⟨tail, tailLen⟩ before mem ∧ buildAncillaryDataAt p o tail mem = .ok (msg, after)

section

variable {num : Int32} {n : ℕ}

theorem HoldsDescriptors.agree (hfits : TailFits p tail n) (h : HoldsDescriptors p o tail num fds n mem)
    (hagree : Memory.AgreeOn ⟨tail, tailSpace p n⟩ mem mem') : HoldsDescriptors p o tail num fds n mem' where
  num := by
    rw [← h.num]
    exact (intAt_congr hagree hfits.layout.num).symm
  data idx hidx := by
    rw [← h.data idx hidx]
    exact (intAt_congr hagree (hfits.layout.data idx hidx)).symm

theorem HoldsDescriptors.take (h : HoldsDescriptors p o tail num fds n mem) :
    HoldsDescriptors p o tail num (fds.take n) n mem where
  num := h.num
  data idx hidx := by
    rw [h.data idx hidx, List.getD_eq_getElem?_getD, List.getD_eq_getElem?_getD, List.getElem?_take_of_lt hidx]

/-- An attempt sends the message of the descriptors, and leaves them in the tail. -/
theorem Attempt.spec (hnum : num.toInt = n) (hfits : TailFits p tail n) (hlen : fds.length = n)
    (h : HoldsDescriptors p o tail num fds n mem) {msg : Msghdr}
    (hattempt : Attempt p o tail (tailSpace p n) mem msg mem') :
    msg.control = dataAddr p (tailData p tail) n ∧ msg.message p o mem' = ⟨solSocket, scmRights, fds⟩ ∧
      HoldsDescriptors p o tail num fds n mem' := by
  obtain ⟨mem₁, hagree, hrun⟩ := hattempt
  have hholds := h.agree hfits hagree
  rw [buildAncillaryDataAt_run hnum hfits hholds] at hrun
  cases hrun
  exact ⟨(hfits.dataAddr le_rfl).symm, messageMemory_message hfits hlen hholds,
    hholds.congr hfits (messageMemory_agreeOff hfits _ _)⟩

end

end

/-! ### The reply -/

/-- The buffer that is created has the tail that is needed, and its descriptors are the
first of the handle. -/
theorem createSourceWbuf_tail {w : World} {handle : NativeHandle} {log log' : List PduOp} {wbuf : Wbuf}
    (h : DtvIo.createSourceWbuf w handle log = .ok (some wbuf, log')) {n : ℕ}
    (hnum : handle.numFds.toInt = n) {tail : ℕ} (hfits : TailFits w.platform tail n) :
    wbuf.tailLen = tailSpace w.platform n ∧ n ≤ handle.data.length ∧
      buildAncillaryData wbuf = .ok (handle.data.take n) := by
  have hpos := hfits.pos
  have hfds : handle.numFds ≠ 0 := by
    intro hzero
    rw [hzero, Int32.toInt_zero] at hnum
    omega
  have hspace := hfits.tailSpace_lt
  have hsize : w.platform.sizeT (4 * (n : ℤ)) = 4 * n := by
    exact_mod_cast hfits.sizeT (show 4 * n ≤ w.platform.cmsgSpace (4 * n) by
      rw [cmsgSpace_eq]
      exact (w.platform.le_cmsgAlign (4 * n)).trans (Nat.le_add_right _ _))
  have htail : w.platform.sizeT (w.platform.sizeofPtr + 4 + 4 * (n : ℤ) + w.platform.cmsgSpace (4 * n)) =
      tailSpace w.platform n := by
    exact_mod_cast w.platform.sizeT_natCast hspace
  unfold DtvIo.createSourceWbuf at h
  dsimp only at h
  rw [if_neg hfds, hnum, hsize, htail, Int.toNat_natCast] at h
  obtain ⟨r, log₁, hcreate, hrest⟩ := bind_eq_ok.mp h
  rcases createPduWbuf_ensures _ _ _ _ r log₁ hcreate with ⟨-, rfl, -⟩ | ⟨-, rfl, -⟩
  · cases hrest
  · dsimp only at hrest
    split at hrest
    · cases hrest
    · next hdata =>
      cases hrest
      have hle : n ≤ handle.data.length := by
        rw [List.length_take] at hdata
        omega
      have hlen : (handle.data.take n).length = n := List.length_take_of_le hle
      refine ⟨rfl, hle, ?_⟩
      rw [buildAncillaryData]
      dsimp only
      rw [hnum, Int.toNat_natCast, if_pos hlen.ge, List.take_take, min_self]

/-- What `set_source` stores lies in the tail that it asks for, each thing apart from the
others, and every attempt to send the reply builds the same message, of the descriptors
of the handle in their order. No attempt faults or stores anything outside the tail. -/
theorem ancillaryData_survives {w : World} (o : ByteOrder) {handle : NativeHandle} {log log' : List PduOp}
    {wbuf : Wbuf} (hcreate : DtvIo.createSourceWbuf w handle log = .ok (some wbuf, log')) {n : ℕ}
    (hnum : handle.numFds.toInt = n) (hpos : 1 ≤ n) {tail : ℕ}
    (hwrap : tail + tailSpace w.platform n ≤ 2 ^ (8 * w.platform.sizeofPtr)) :
    AncillaryLayout w.platform tail wbuf.tailLen n ∧ ∀ mem, ∃ stored,
      storeAncillaryData w.platform o tail handle mem = .ok ((), stored) ∧
      Memory.AgreeOff ⟨tail, wbuf.tailLen⟩ mem stored ∧
      ∀ l last, Exec.Run (Attempt w.platform o tail wbuf.tailLen) stored l last →
        (∀ x ∈ l, x.label.control = dataAddr w.platform (tailData w.platform tail) n ∧
          x.label.message w.platform o x.after = ⟨solSocket, scmRights, handle.data.take n⟩) ∧
        ∀ mem', Memory.AgreeOn ⟨tail, wbuf.tailLen⟩ last mem' → ∃ msg built,
          buildAncillaryDataAt w.platform o tail mem' = .ok (msg, built) ∧
          Memory.AgreeOff ⟨tail, wbuf.tailLen⟩ mem' built := by
  have hfits : TailFits w.platform tail n := ⟨hpos, hwrap⟩
  obtain ⟨htail, hdata, -⟩ := createSourceWbuf_tail hcreate hnum hfits
  have htoNat : handle.numFds.toInt.toNat = n := by rw [hnum, Int.toNat_natCast]
  rw [htail]
  refine ⟨hfits.layout, fun mem => ?_⟩
  obtain ⟨stored, hstore, hholds, hoff⟩ := storeAncillaryData_ok (o := o) (htoNat.symm ▸ hdata)
    (htoNat.symm ▸ hfits) mem
  rw [htoNat] at hholds hoff
  refine ⟨stored, hstore, hoff, fun l last hrun => ?_⟩
  have hlen : (handle.data.take n).length = n := List.length_take_of_le hdata
  have hkeep : ∀ x ∈ l, Attempt w.platform o tail (tailSpace w.platform n) x.before x.label x.after →
      HoldsDescriptors w.platform o tail handle.numFds (handle.data.take n) n x.before →
      HoldsDescriptors w.platform o tail handle.numFds (handle.data.take n) n x.after :=
    fun x _ hattempt hbefore => (hattempt.spec hnum hfits hlen hbefore).2.2
  have hall := hrun.invariant_mem hkeep hholds.take
  refine ⟨fun x hx => ?_, fun mem' hagree => ?_⟩
  · have hspec := (hrun.step_of_mem x hx).spec hnum hfits hlen (hall x hx).1
    exact ⟨hspec.1, hspec.2.1⟩
  · have hlast := (hrun.invariant hkeep hholds.take).agree hfits hagree
    refine ⟨_, _, buildAncillaryDataAt_run hnum hfits hlast, ?_⟩
    exact (messageMemory_agreeOff hfits _ _).mono hfits.layout.control

/-- A reply with three descriptors and an integer, whose tail starts at an odd address. -/
theorem ancillaryData_survives_odd :
    AncillaryLayout .lp64 4099 56 3 ∧ ∀ mem, ∃ stored,
      storeAncillaryData .lp64 .little 4099 ⟨12, 3, 1, [5, 6, 9, 7]⟩ mem = .ok ((), stored) ∧
      Memory.AgreeOff ⟨4099, 56⟩ mem stored ∧
      ∀ l last, Exec.Run (Attempt .lp64 .little 4099 56) stored l last →
        (∀ x ∈ l, x.label.control = dataAddr .lp64 (tailData .lp64 4099) (3 : ℕ) ∧
          x.label.message .lp64 .little x.after = ⟨solSocket, scmRights, [5, 6, 9]⟩) ∧
        ∀ mem', Memory.AgreeOn ⟨4099, 56⟩ last mem' → ∃ msg built,
          buildAncillaryDataAt .lp64 .little 4099 mem' = .ok (msg, built) ∧
          Memory.AgreeOff ⟨4099, 56⟩ mem' built := by
  have hcreate : DtvIo.createSourceWbuf (.onDriver steadyDriver) ⟨12, 3, 1, [5, 6, 9, 7]⟩ [] =
    .ok (some ⟨0, 16, 56, true, some ⟨3, [5, 6, 9]⟩, ⟨0, 0, []⟩⟩, [.create 16 56 true]) := rfl
  exact ancillaryData_survives .little hcreate rfl (by decide) (by decide)

end Tvd

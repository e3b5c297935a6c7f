import Tvd.Model.Sockaddr

/-! Addresses of sockets. Each guard of `create_sockaddr_un` keeps the next operation in
range, so nothing wraps around for a name of any length, and the name has its place in
`sun_path` between two NUL bytes, up to the last length that fits. -/

namespace Tvd

open Exec

/-! ### Operations in range -/

section

variable {p : Platform} {a b n : ℕ}

theorem Platform.sizeMax_succ (p : Platform) : p.sizeMax + 1 = 2 ^ (8 * p.sizeofPtr) :=
  Nat.sub_add_cancel (Nat.two_pow_pos _)

theorem Platform.ssizeMax_lt_sizeMax (p : Platform) : p.ssizeMax < p.sizeMax := by
  rw [ssizeMax, sizeMax]
  rcases p.sizeofPtr_eq with h | h <;> rw [h] <;> decide

theorem Platform.sizeT_of_le (h : n ≤ p.sizeMax) : p.sizeT (n : ℤ) = n := by
  have hmax := p.sizeMax_succ
  exact p.sizeT_natCast (by omega)

/-- The state once these operations were made. -/
def SockState.logged (s : SockState) (ops : List SizeOp) : SockState := { s with sizeOps := ops ++ s.sizeOps }

theorem sizeAdd_ok (h : ¬(SizeOp.add a b).Wraps p) (s : SockState) :
    sizeAdd p a b s = .ok (a + b, s.logged [.add a b]) := by
  have hsum : p.sizeT (a + b) = a + b := by
    rw [← Nat.cast_add]
    exact Platform.sizeT_of_le (Nat.not_lt.mp h)
  change Except.ok (p.sizeT (a + b), _) = _
  rw [hsum]
  rfl

theorem sizeSub_ok (h : ¬(SizeOp.sub a b).Wraps p) (ha : a ≤ p.sizeMax) (s : SockState) :
    sizeSub p a b s = .ok (a - b, s.logged [.sub a b]) := by
  have hdiff : p.sizeT (a - b) = a - b := by
    rw [← Nat.cast_sub (Nat.not_lt.mp h)]
    exact Platform.sizeT_of_le ((Nat.sub_le a b).trans ha)
  change Except.ok (p.sizeT (a - b), _) = _
  rw [hdiff]
  rfl

theorem toSsize_ok (h : ¬(SizeOp.toSsize n).Wraps p) (s : SockState) :
    toSsize p n s = .ok ((n : ℤ), s.logged [.toSsize n]) := by
  change Except.ok (if n ≤ p.ssizeMax then (n : ℤ) else _, _) = _
  rw [if_pos (Nat.not_lt.mp h)]
  rfl

end

/-! ### The two outcomes -/

section

variable {p : Platform} {l : SockaddrUn p} {o : ByteOrder} {name : CString}

/-- The state of the address once it is built. -/
def SockaddrUn.built (l : SockaddrUn p) (o : ByteOrder) (name : CString) (addr : ℕ) (mem : Memory) : Memory :=
  ((Memory.storeWord o 2 mem addr afUnix.toNat).store (l.sunPath addr) [0]).store
    (l.sunPath addr + 1) (CString.codec.encode name)

/-- A name that does not fit is rejected before anything is stored. -/
theorem createSockaddrUn_rejects (hname : name.strlen ≤ p.sizeMax) (hlong : l.sizeofSunPath < name.strlen + 2)
    {addr : ℕ} (haddr : addr ≠ 0) (s : SockState) :
    ∃ ops, createSockaddrUn l o name addr s = .ok (-1, s.logged ops) ∧ ∀ op ∈ ops, ¬op.Wraps p := by
  have hobject := l.size_le
  have hmax := p.ssizeMax_lt_sizeMax
  unfold createSockaddrUn
  rw [if_neg haddr, Platform.sizeT_of_le hname]
  beta_reduce
  by_cases hlen : p.sizeMax ≤ name.strlen
  · rw [if_pos hlen]
    exact ⟨[], rfl, List.forall_mem_nil _⟩
  have hsiz : ¬(SizeOp.add name.strlen 1).Wraps p := by
    unfold SizeOp.Wraps
    omega
  rw [if_neg hlen, bind_ok (sizeAdd_ok hsiz s)]
  by_cases hpath : l.sizeofSunPath < name.strlen + 1
  · rw [if_pos hpath]
    exact ⟨[_], rfl, List.forall_mem_singleton.mpr hsiz⟩
  -- only the leading NUL is left without room
  have hroom : ¬(SizeOp.sub l.sizeofSunPath (name.strlen + 1)).Wraps p := hpath
  have hnone : l.sizeofSunPath - (name.strlen + 1) < nameOffset := by
    unfold nameOffset
    omega
  rw [if_neg hpath, bind_ok (sizeSub_ok hroom (by omega) _), if_pos hnone]
  refine ⟨[_, _], rfl, List.forall_mem_cons.mpr ⟨hroom, List.forall_mem_singleton.mpr hsiz⟩⟩

/-- What is computed for a name that fits, the last operation first. -/
def SockaddrUn.buildOps (l : SockaddrUn p) (name : CString) : List SizeOp :=
  let siz := name.strlen + 1
  [.toSsize (l.offsetofSunPath + nameOffset + siz), .add (l.offsetofSunPath + nameOffset) siz,
    .add l.offsetofSunPath nameOffset, .sub p.ssizeMax (nameOffset + siz), .add nameOffset siz,
    .sub l.sizeofSunPath siz, .add name.strlen 1]

/-- Each guard keeps what comes next in range. -/
theorem buildOps_inRange (hfits : name.strlen + 2 ≤ l.sizeofSunPath) :
    ∀ op ∈ l.buildOps name, ¬op.Wraps p := by
  have hobject := l.size_le
  have hmax := p.ssizeMax_lt_sizeMax
  simp only [SockaddrUn.buildOps, List.forall_mem_cons, SizeOp.Wraps, nameOffset]
  refine ⟨by omega, by omega, by omega, by omega, by omega, by omega, by omega, List.forall_mem_nil _⟩

theorem memcpyString_ok (addr : ℕ) (name : CString) (s : SockState) :
    memcpyString addr name (name.strlen + 1) s =
      .ok ((), { s with mem := s.mem.store addr (CString.codec.encode name) }) := by
  have hall : (CString.codec.encode name).take (name.strlen + 1) = CString.codec.encode name :=
    List.take_of_length_le (CString.codec_encode_length name).le
  unfold memcpyString
  rw [if_neg (Nat.lt_irrefl _), hall]
  rfl

/-- Any other name is stored between two NUL bytes. -/
theorem createSockaddrUn_accepts (hfits : name.strlen + 2 ≤ l.sizeofSunPath) {addr : ℕ} (haddr : addr ≠ 0)
    (s : SockState) : createSockaddrUn l o name addr s = .ok ((l.offsetofSunPath + name.strlen + 2 : ℕ),
      ⟨l.built o name addr s.mem, l.buildOps name ++ s.sizeOps⟩) := by
  have hobject := l.size_le
  have hmax := p.ssizeMax_lt_sizeMax
  obtain ⟨hresult, hsize, hfront, hrest, hpathsiz, hroom, hsiz, -⟩ := by
    simpa only [SockaddrUn.buildOps, List.forall_mem_cons] using buildOps_inRange hfits
  have hlen : ¬p.sizeMax ≤ name.strlen := by omega
  have hpath : ¬l.sizeofSunPath < name.strlen + 1 := hroom
  have hnone : ¬l.sizeofSunPath - (name.strlen + 1) < nameOffset := by
    unfold nameOffset
    omega
  have hlarge : ¬p.ssizeMax < nameOffset + (name.strlen + 1) := hrest
  have hbehind : ¬p.ssizeMax - (nameOffset + (name.strlen + 1)) < l.offsetofSunPath := by
    unfold nameOffset
    omega
  have htotal : l.offsetofSunPath + name.strlen + 2 = l.offsetofSunPath + nameOffset + (name.strlen + 1) := by
    unfold nameOffset
    omega
  rw [htotal]
  unfold createSockaddrUn
  rw [if_neg haddr, Platform.sizeT_of_le (Nat.le_of_not_le hlen)]
  beta_reduce
  rw [if_neg hlen, bind_ok (sizeAdd_ok hsiz _), if_neg hpath, bind_ok (sizeSub_ok hroom (by omega) _), if_neg hnone,
    bind_ok (sizeAdd_ok hpathsiz _), if_neg hlarge, bind_ok (sizeSub_ok hrest hmax.le _), if_neg hbehind]
  have hfamily (t : SockState) : storeFamily o addr afUnix t =
      .ok ((), { t with mem := Memory.storeWord o 2 t.mem addr afUnix.toNat }) := rfl
  have hlead (t : SockState) : memsetBytes (l.sunPath addr) 0 nameOffset t =
      .ok ((), { t with mem := t.mem.store (l.sunPath addr) [0] }) := rfl
  rw [bind_ok (hfamily _), bind_ok (hlead _), bind_ok (memcpyString_ok _ _ _), bind_ok (sizeAdd_ok hfront _),
    bind_ok (sizeAdd_ok hsize _), toSsize_ok hresult]
  rfl

/-! ### The address -/

/-- The fields of the struct. -/
def SockaddrUn.familyRegion (_ : SockaddrUn p) (addr : ℕ) : Region := ⟨addr, 2⟩

def SockaddrUn.pathRegion (l : SockaddrUn p) (addr : ℕ) : Region := ⟨l.sunPath addr, l.sizeofSunPath⟩

theorem built_path (l : SockaddrUn p) (o : ByteOrder) (name : CString) (addr : ℕ) (mem : Memory) :
    (l.built o name addr mem).load (l.sunPath addr) (name.strlen + 2) = 0 :: (name.val ++ [0]) := by
  have hlen : name.strlen + 2 = 1 + (CString.codec.encode name).length := by
    rw [CString.codec_encode_length]
    omega
  have hlead : (⟨l.sunPath addr + 1, (CString.codec.encode name).length⟩ : Region).Disjoint ⟨l.sunPath addr, 1⟩ :=
    .inr le_rfl
  have hzero (mem : Memory) : (mem.store (l.sunPath addr) [0]).load (l.sunPath addr) 1 = [0] :=
    Memory.load_store mem (l.sunPath addr) [0]
  rw [hlen, Memory.load_add, SockaddrUn.built, Memory.load_store_of_disjoint _ hlead, hzero, Memory.load_store]
  rfl

/-- Only the two fields are stored to. -/
theorem built_agree (hfits : name.strlen + 2 ≤ l.sizeofSunPath) (addr : ℕ) (mem : Memory) {a : ℕ}
    (hfamily : ¬(l.familyRegion addr).Mem a) (hpath : ¬(l.pathRegion addr).Mem a) :
    mem a = l.built o name addr mem a := by
  have hlead : (⟨l.sunPath addr, [(0 : UInt8)].length⟩ : Region).Within (l.pathRegion addr) :=
    ⟨le_rfl, Nat.add_le_add_left (show 1 ≤ l.sizeofSunPath by omega) _⟩
  have hname : (⟨l.sunPath addr + 1, (CString.codec.encode name).length⟩ : Region).Within (l.pathRegion addr) := by
    rw [CString.codec_encode_length]
    exact ⟨Nat.le_add_right _ 1, by dsimp only [SockaddrUn.pathRegion]; omega⟩
  have hword : Memory.AgreeOff (l.familyRegion addr) mem (Memory.storeWord o 2 mem addr afUnix.toNat) :=
    Memory.storeWord_agreeOff mem ⟨le_rfl, le_rfl⟩
  calc mem a = Memory.storeWord o 2 mem addr afUnix.toNat a := hword a hfamily
    _ = (Memory.storeWord o 2 mem addr afUnix.toNat).store (l.sunPath addr) [0] a :=
      Memory.store_agreeOff _ hlead a hpath
    _ = l.built o name addr mem a := Memory.store_agreeOff _ hname a hpath

theorem built_family (l : SockaddrUn p) (o : ByteOrder) (name : CString) (addr : ℕ) (mem : Memory) :
    Memory.loadWord o 2 (l.built o name addr mem) addr = afUnix.toNat := by
  have hle := l.family_le
  have hlead : (⟨l.sunPath addr, [(0 : UInt8)].length⟩ : Region).Disjoint ⟨addr, 2⟩ :=
    .inr (Nat.add_le_add_left hle addr)
  have hname : (⟨l.sunPath addr + 1, (CString.codec.encode name).length⟩ : Region).Disjoint ⟨addr, 2⟩ :=
    .inr (Nat.add_le_add_left hle addr |>.trans (Nat.le_add_right _ 1))
  rw [SockaddrUn.built, Memory.loadWord_store_of_disjoint _ hname, Memory.loadWord_store_of_disjoint _ hlead,
    Memory.loadWord_storeWord _ _ (by decide)]

/-- What `connect` is passed: the length, and so many bytes of the address. -/
def SockState.address (s : SockState) (addr : ℕ) (res : ℤ) : ℤ × List UInt8 := (res, s.mem.load addr res.toNat)

/-- A name can be read off the address that was built for it. -/
theorem built_injective {other : CString} {addr addr' : ℕ} {mem mem' : Memory}
    (hbytes : (l.built o name addr mem).load addr (l.offsetofSunPath + (name.strlen + 2)) =
      (l.built o other addr' mem').load addr' (l.offsetofSunPath + (other.strlen + 2))) : name = other := by
  rw [Memory.load_add (l.built o name addr mem), Memory.load_add (l.built o other addr' mem')] at hbytes
  have hpath := List.append_inj_right hbytes (by simp)
  have hname : 0 :: (name.val ++ [0]) = 0 :: (other.val ++ [0]) :=
    (built_path l o name addr mem).symm.trans (hpath.trans (built_path l o other addr' mem'))
  exact Subtype.ext (List.append_cancel_right (List.cons.inj hname).2)

/-! ### Every name -/

/-- The address is built from the name, or the name is too long for it. -/
structure BuildsAddress (l : SockaddrUn p) (name : CString) (addr : ℕ) (s t : SockState) (res : ℤ) : Prop where
  noWrap : ∃ ops, t.sizeOps = ops ++ s.sizeOps ∧ ∀ op ∈ ops, ¬op.Wraps p
  rejects : res = -1 ↔ l.sizeofSunPath < name.strlen + 2
  untouched : res = -1 → t.mem = s.mem
  path : res ≠ -1 → t.mem.load (l.sunPath addr) (name.strlen + 2) = 0 :: (name.val ++ [0])
  size : res ≠ -1 → res = l.offsetofSunPath + name.strlen + 2

/-- Besides the path only the family is stored to, and it is `AF_UNIX`. -/
structure StoresFields (l : SockaddrUn p) (o : ByteOrder) (addr : ℕ) (s t : SockState) (res : ℤ) : Prop where
  family : res ≠ -1 → Memory.loadWord o 2 t.mem addr = afUnix.toNat
  outside : ∀ a, ¬(l.familyRegion addr).Mem a → ¬(l.pathRegion addr).Mem a → s.mem a = t.mem a

/-- What every run of `create_sockaddr_un` does. -/
theorem createSockaddrUn_builds (hname : name.strlen ≤ p.sizeMax) {addr : ℕ} (haddr : addr ≠ 0) (s : SockState) :
    ∃ res t, createSockaddrUn l o name addr s = .ok (res, t) ∧ BuildsAddress l name addr s t res ∧
      StoresFields l o addr s t res := by
  by_cases hlong : l.sizeofSunPath < name.strlen + 2
  · obtain ⟨ops, hrun, hops⟩ := createSockaddrUn_rejects (o := o) hname hlong haddr s
    refine ⟨-1, _, hrun, ⟨⟨ops, rfl, hops⟩, iff_of_true rfl hlong, fun _ => rfl, ?_, ?_⟩, ?_, fun _ _ _ => rfl⟩
    all_goals exact fun hne => absurd rfl hne
  · have hfits : name.strlen + 2 ≤ l.sizeofSunPath := Nat.not_lt.mp hlong
    have hne : ((l.offsetofSunPath + name.strlen + 2 : ℕ) : ℤ) ≠ -1 := by omega
    refine ⟨_, _, createSockaddrUn_accepts hfits haddr s, ⟨⟨_, rfl, buildOps_inRange hfits⟩,
      iff_of_false hne hlong, fun h => absurd h hne, fun _ => built_path l o name addr s.mem, fun _ => ?_⟩,
      fun _ => built_family l o name addr s.mem, fun a => built_agree hfits addr s.mem⟩
    push_cast
    rfl

/-- A name that is accepted fits, and its address is as it was built. -/
theorem createSockaddrUn_accepted (hname : name.strlen ≤ p.sizeMax) {addr : ℕ} (haddr : addr ≠ 0)
    {s t : SockState} {res : ℤ}
    (hrun : createSockaddrUn l o name addr s = .ok (res, t)) (hres : res ≠ -1) :
    res = (l.offsetofSunPath + (name.strlen + 2) : ℕ) ∧ t.mem = l.built o name addr s.mem := by
  have hfits : name.strlen + 2 ≤ l.sizeofSunPath := by
    by_contra hlong
    obtain ⟨ops, hreject, -⟩ := createSockaddrUn_rejects (o := o) hname (Nat.not_le.mp hlong) haddr s
    cases hreject.symm.trans hrun
    exact hres rfl
  cases (createSockaddrUn_accepts hfits haddr s).symm.trans hrun
  exact ⟨rfl, rfl⟩

/-- For every name that a `size_t` can count and every address but NULL, nothing wraps
around, the name is rejected with the address untouched exactly when it does not fit,
and otherwise it is stored in the path, with nothing else stored to but the family; and
two names that are accepted, wherever their addresses are, have different addresses. -/
theorem sockaddr_built (hname : name.strlen ≤ p.sizeMax) {addr : ℕ} (haddr : addr ≠ 0) (s : SockState) :
    (∃ res t, createSockaddrUn l o name addr s = .ok (res, t) ∧ BuildsAddress l name addr s t res ∧
      StoresFields l o addr s t res) ∧
    ∀ (other : CString) (addr' : ℕ) (s' t t' : SockState) (res res' : ℤ), other.strlen ≤ p.sizeMax → addr' ≠ 0 →
      createSockaddrUn l o name addr s = .ok (res, t) → createSockaddrUn l o other addr' s' = .ok (res', t') →
      res ≠ -1 → res' ≠ -1 → name ≠ other → t.address addr res ≠ t'.address addr' res' := by
  refine ⟨createSockaddrUn_builds hname haddr s, ?_⟩
  intro other addr' s' t t' res res' hother haddr' hrun hrun' hres hres' hne hsame
  obtain ⟨rfl, hmem⟩ := createSockaddrUn_accepted hname haddr hrun hres
  obtain ⟨rfl, hmem'⟩ := createSockaddrUn_accepted hother haddr' hrun' hres'
  have hbytes := (Prod.mk.inj hsame).2
  rw [Int.toNat_natCast, Int.toNat_natCast, hmem, hmem'] at hbytes
  exact hne (built_injective hbytes)

end

/-! ### The default name, and a front of it -/

/-- Memory that was never written, and no operations. -/
def SockState.zero : SockState := ⟨fun _ => 0, []⟩

def shortSocketName : CString := ⟨[116, 118], by decide⟩

/-- The two addresses differ. -/
theorem sockaddr_built_default :
    (∃ res t, createSockaddrUn (.linux .lp64) .little defaultSocketName 16 .zero = .ok (res, t) ∧
      BuildsAddress (.linux .lp64) defaultSocketName 16 .zero t res ∧
      StoresFields (.linux .lp64) .little 16 .zero t res) ∧
    ∃ res res' t t', createSockaddrUn (.linux .lp64) .little defaultSocketName 16 .zero = .ok (res, t) ∧
      createSockaddrUn (.linux .lp64) .little shortSocketName 32 .zero = .ok (res', t') ∧
      t.address 16 res ≠ t'.address 32 res' := by
  have hname : defaultSocketName.strlen ≤ Platform.lp64.sizeMax := by decide
  have haddr : 16 ≠ 0 := by decide
  obtain ⟨hbuilds, hdiffer⟩ := sockaddr_built (l := .linux .lp64) (o := .little) hname haddr .zero
  refine ⟨hbuilds, _, _, _, _, rfl, rfl, ?_⟩
  exact hdiffer shortSocketName 32 .zero _ _ _ _ (by decide) (by decide) rfl rfl (by decide) (by decide) (by decide)

/-- The family is not part of the path. -/
theorem sockaddr_stores_family : ¬∀ (p : Platform) (l : SockaddrUn p) (o : ByteOrder) (name : CString) (addr : ℕ)
    (s : SockState), name.strlen ≤ p.sizeMax → addr ≠ 0 → ∃ res t, createSockaddrUn l o name addr s = .ok (res, t) ∧
      BuildsAddress l name addr s t res ∧ Memory.AgreeOff (l.pathRegion addr) s.mem t.mem := by
  intro h
  obtain ⟨res, t, hrun, -, houtside⟩ := h .lp64 (.linux .lp64) .little defaultSocketName 16 .zero
    (by decide) (by decide)
  cases hrun
  have hfamily := houtside 16 fun hpath => absurd hpath.1 (by decide)
  exact absurd hfamily (by decide)

end Tvd

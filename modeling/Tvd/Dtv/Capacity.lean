import Tvd.Dtv.TunerIds
import Tvd.Hal.Arrivals

/-! The array that `dtv_get_tuners` has filled with the ids of the tuners. It is sized
by an earlier count, and the function that fills it does not look at its size: it
stores one id for each listed device. So the array is filled, and nothing is stored
outside it, exactly while the count is still that of the list. -/

namespace Tvd

open Exec

variable {lib : Lib} {p : Platform}

/-! ### The capacity that is passed in -/

/-- Nothing is stored outside the array, and on success it is filled with ids of
devices of the type, in the order of the list. -/
structure RespectsCapacity (type : TvInputType) (s : TvHal) (inputNum : UInt8)
    (entries : List (Option Int32)) : Prop where
  inBounds : tvInputHalGetInputsByType inputNum type (some entries) s ≠ .error .outOfBounds
  filled : ∀ devices t,
    tvInputHalGetInputsByType inputNum type (some entries) s = .ok ((tvStatusSuccess, devices), t) →
      inputNum.toNat ≤ (idsOfType type s.live).length ∧
        devices = some (((idsOfType type s.live).take inputNum.toNat).map some)

section

variable {type : TvInputType} {s : TvHal}

/-- What the array holds afterwards, if there is room for every id. -/
theorem getInputsByType_room (hfit : s.Fits) (inputNum : UInt8) {entries : List (Option Int32)}
    (hroom : (idsOfType type s.live).length ≤ entries.length) :
    tvInputHalGetInputsByType inputNum type (some entries) s =
      .ok ((tvStatusSuccess, some ((idsOfType type s.live).map some ++
        entries.drop (idsOfType type s.live).length)), s) := by
  have hlen : (idsOfType type s.live).length ≤ 100 :=
    (idsOfType_length_le s.live).trans hfit.live_le
  have hzero : (0 : UInt8).toNat = 0 := rfl
  obtain ⟨cnt, hfold⟩ : ∃ cnt, s.live.foldlM (fillStep type) (0, some entries) = .ok (cnt, some _) :=
    fill_ok s.live 0 entries (by omega) (by omega)
  rw [tvInputHalGetInputsByType_eq hfit, hfold, hzero, List.take_zero, List.nil_append, Nat.zero_add]
  rfl

theorem getInputsByType_overrun (hfit : s.Fits) (inputNum : UInt8) {entries : List (Option Int32)}
    (hfull : entries.length < (idsOfType type s.live).length) :
    tvInputHalGetInputsByType inputNum type (some entries) s = .error .outOfBounds := by
  have hlen : (idsOfType type s.live).length ≤ 100 :=
    (idsOfType_length_le s.live).trans hfit.live_le
  have hzero : (0 : UInt8).toNat = 0 := rfl
  rw [tvInputHalGetInputsByType_eq hfit, fill_overrun s.live 0 entries (by omega) (by omega) (by omega)]
  rfl

theorem respectsCapacity_iff (hfit : s.Fits) {inputNum : UInt8} {entries : List (Option Int32)}
    (hentries : entries.length = inputNum.toNat) :
    RespectsCapacity type s inputNum entries ↔ (idsOfType type s.live).length = inputNum.toNat := by
  rcases Nat.lt_or_ge entries.length (idsOfType type s.live).length with hfull | hroom
  · refine iff_of_false (fun h => h.inBounds (getInputsByType_overrun hfit inputNum hfull)) ?_
    omega
  have hrun := getInputsByType_room hfit inputNum hroom
  constructor
  · intro h
    have hle := (h.filled _ _ hrun).1
    omega
  · intro hcount
    refine ⟨fun h => ?_, fun devices t h => ?_⟩
    · rw [hrun] at h
      cases h
    · rw [hrun] at h
      cases h
      refine ⟨hcount.ge, ?_⟩
      rw [← hcount, List.take_length, List.drop_of_length_le (by omega), List.append_nil]

end

/-! ### The array of the tuners -/

/-- The first part of `dtv_get_tuners`: allocate the array and have it filled. -/
def fillTunerIds (lib : Lib) (p : Platform) (tunerNum : UInt32) : EnvM (Option ℕ × UInt8 × IntArray) := do
  let block ← onHeap (malloc lib (p.sizeT (4 * tunerNum.toNat)))
  let (ret, tunerIdList) ← onHal (tvInputHalGetInputsByType tunerNum.toUInt8 .tuner
    (block.map fun _ => List.replicate tunerNum.toNat none))
  return (block, ret, tunerIdList)

/-- The second part: read its entries from the first to the last. -/
def readTunerIds (lib : Lib) (tunerNum : UInt32) (tuners : Option ℕ) (block : Option ℕ) (ret : UInt8)
    (tunerIdList : IntArray) : EnvM (UInt8 × List TvTuner) := do
  if ret ≠ tvStatusSuccess then
    onHeap (free block)
    return (tvStatusFail, [])
  let items ← accumulate (tunerBody lib tuners tunerIdList) tunerNum.toNat 0 []
  onHeap (free block)
  return (tvStatusSuccess, items.getD [])

theorem dtvGetTuners_eq (tunerNum : UInt32) (tuners : Option ℕ) :
    dtvGetTuners lib p tunerNum tuners = (do
      let (block, ret, tunerIdList) ← fillTunerIds lib p tunerNum
      readTunerIds lib tunerNum tuners block ret tunerIdList) := by
  rw [dtvGetTuners, fillTunerIds, bind_assoc]
  refine congrArg _ (funext fun block => ?_)
  rw [bind_assoc]
  rfl

/-- The entry was stored. -/
def IntArray.Stored (devices : IntArray) (idx : ℕ) : Prop :=
  ∃ entries v, devices = some entries ∧ entries[idx]? = some (some v)

/-- Nothing is stored outside the array, and every entry that is read was stored. -/
def FillsTunerIds (lib : Lib) (p : Platform) (tunerNum : UInt32) (s : DtvEnv) : Prop :=
  ∃ block tunerIdList t, fillTunerIds lib p tunerNum s = .ok ((block, tvStatusSuccess, tunerIdList), t) ∧
    ∀ idx < tunerNum.toNat, tunerIdList.Stored idx

/-- The array is there. -/
def AllocatesTunerIds (lib : Lib) (p : Platform) (tunerNum : UInt32) (s : DtvEnv) : Prop :=
  lib.malloc s.heap (p.sizeT (4 * tunerNum.toNat)) = true

section

variable {s : DtvEnv} {tunerNum : UInt32}

/-- What the array has to hold after the call that fills it. -/
theorem fillsTunerIds_of_call {devices : IntArray}
    (hdevices : devices = if lib.malloc s.heap (p.sizeT (4 * tunerNum.toNat)) = true then
      some (List.replicate tunerNum.toNat none) else none) :
    FillsTunerIds lib p tunerNum s ↔ ∃ tunerIdList hal,
      tvInputHalGetInputsByType tunerNum.toUInt8 .tuner devices s.hal =
        .ok ((tvStatusSuccess, tunerIdList), hal) ∧ ∀ idx < tunerNum.toNat, tunerIdList.Stored idx := by
  obtain ⟨heap, hmalloc⟩ : ∃ heap, onHeap (malloc lib (p.sizeT (4 * tunerNum.toNat))) s = .ok
      (if lib.malloc s.heap (p.sizeT (4 * tunerNum.toNat)) = true then some s.heap.length else none,
        { s with heap }) := ⟨_, rfl⟩
  have hblock : (if lib.malloc s.heap (p.sizeT (4 * tunerNum.toNat)) = true then some s.heap.length
      else none).map (fun _ => List.replicate tunerNum.toNat (none : Option Int32)) = devices := by
    rw [hdevices]
    split
    · rfl
    · rfl
  unfold FillsTunerIds
  rw [fillTunerIds, bind_ok hmalloc]
  dsimp only
  rw [hblock]
  constructor
  · rintro ⟨block, tunerIdList, t, hrun, hstored⟩
    obtain ⟨⟨ret, filled⟩, u, hfill, hpure⟩ := bind_eq_ok.mp hrun
    obtain ⟨r, hal, hcall, heq⟩ := zoom_eq_ok.mp hfill
    cases heq
    cases hpure
    exact ⟨_, _, hcall, hstored⟩
  · rintro ⟨tunerIdList, hal, hcall, hstored⟩
    rw [bind_ok (zoom_ok (L := DtvEnv.halLens) (s := { s with heap }) hcall)]
    exact ⟨_, _, _, rfl, hstored⟩

/-- An array is filled where it has one entry for each listed tuner. -/
theorem fillsTunerIds_of_allocates (hfit : s.hal.Fits) (halloc : AllocatesTunerIds lib p tunerNum s) :
    FillsTunerIds lib p tunerNum s ↔ s.tunerIds.length = tunerNum.toNat := by
  let entries : List (Option Int32) := List.replicate tunerNum.toNat none
  have hlen : entries.length = tunerNum.toNat := List.length_replicate
  rw [fillsTunerIds_of_call (if_pos halloc).symm]
  change (∃ tunerIdList hal, tvInputHalGetInputsByType tunerNum.toUInt8 .tuner (some entries) s.hal = _ ∧ _) ↔ _
  rcases Nat.lt_or_ge entries.length s.tunerIds.length with hfull | hroom
  · have hrun : tvInputHalGetInputsByType tunerNum.toUInt8 .tuner (some entries) s.hal =
        .error .outOfBounds := getInputsByType_overrun hfit _ hfull
    rw [hrun]
    refine iff_of_false ?_ (by omega)
    rintro ⟨_, _, h, -⟩
    cases h
  have hrun : tvInputHalGetInputsByType tunerNum.toUInt8 .tuner (some entries) s.hal =
      .ok ((tvStatusSuccess, some (s.tunerIds.map some ++ entries.drop s.tunerIds.length)), s.hal) :=
    getInputsByType_room hfit _ hroom
  rw [hrun]
  constructor
  · rintro ⟨_, _, h, hstored⟩
    cases h
    -- the entry behind the ids is as it was allocated
    by_contra hne
    obtain ⟨_, v, heq, hv⟩ := hstored s.tunerIds.length (by omega)
    cases heq
    rw [List.getElem?_append_right (by rw [List.length_map]), List.length_map, Nat.sub_self,
      List.getElem?_drop, Nat.add_zero] at hv
    have hnone := List.eq_of_mem_replicate (List.mem_of_getElem? hv)
    cases hnone
  · intro hcount
    refine ⟨_, _, rfl, fun idx hidx => ?_⟩
    have hlisted : idx < s.tunerIds.length := by omega
    refine ⟨_, s.tunerIds[idx], rfl, ?_⟩
    rw [List.getElem?_append_left (by rwa [List.length_map]), List.getElem?_map,
      List.getElem?_eq_getElem hlisted, Option.map_some]

/-- Without an array there must be nothing to store and nothing to read. -/
theorem fillsTunerIds_of_null (hfit : s.hal.Fits) (hnull : ¬AllocatesTunerIds lib p tunerNum s) :
    FillsTunerIds lib p tunerNum s ↔ s.tunerIds = [] ∧ tunerNum.toNat = 0 := by
  rw [fillsTunerIds_of_call (if_neg hnull).symm, tvInputHalGetInputsByType_eq hfit, fill_null]
  change (∃ tunerIdList hal, (if s.tunerIds = [] then _ else _ : Except Fault _).map _ = _ ∧ _) ↔ _
  by_cases hids : s.tunerIds = []
  · rw [if_pos hids]
    constructor
    · rintro ⟨_, _, h, hstored⟩
      cases h
      refine ⟨hids, Nat.eq_zero_of_not_pos fun hpos => ?_⟩
      obtain ⟨_, _, heq, -⟩ := hstored 0 hpos
      cases heq
    · rintro ⟨-, hzero⟩
      exact ⟨_, _, rfl, fun idx hidx => by omega⟩
  · rw [if_neg hids]
    refine iff_of_false ?_ fun h => hids h.1
    rintro ⟨_, _, h, -⟩
    cases h

theorem fillsTunerIds_iff (hfit : s.hal.Fits) : FillsTunerIds lib p tunerNum s ↔
    s.tunerIds.length = tunerNum.toNat ∧ (AllocatesTunerIds lib p tunerNum s ∨ tunerNum.toNat = 0) := by
  by_cases halloc : AllocatesTunerIds lib p tunerNum s
  · rw [fillsTunerIds_of_allocates hfit halloc, and_iff_left (.inl halloc)]
  · rw [fillsTunerIds_of_null hfit halloc, or_iff_right halloc, ← List.length_eq_zero_iff]
    constructor
    · rintro ⟨hlen, hzero⟩
      exact ⟨hlen.trans hzero.symm, hzero⟩
    · rintro ⟨hlen, hzero⟩
      exact ⟨hlen.trans hzero, hzero⟩

end

/-- The array that is passed in is filled and nothing is stored outside it exactly when
it has one entry for each listed device of the type. The array of `dtv_get_tuners`,
sized by an earlier count, is such an array exactly when as many tuners are listed as
were counted, whatever events arrived in between, and it could be allocated. -/
theorem inputs_capacity_iff (lib : Lib) (p : Platform) (driver : Driver) :
    (∀ (type : TvInputType) (s : TvHal) (inputNum : UInt8) (entries : List (Option Int32)), s.Fits →
      entries.length = inputNum.toNat →
      (RespectsCapacity type s inputNum entries ↔
        (idsOfType type s.live).length = inputNum.toNat)) ∧
    ∀ (s u t : DtvEnv) (tunerNum : UInt32) (events : List TvInputEvent), s.hal.Fits →
      dtvGetTunerNum s = .ok (tunerNum, u) →
      deviceInitNotifyAll driver events s.hal = .ok ((), t.hal) →
      (FillsTunerIds lib p tunerNum t ↔ t.tunerIds.length = s.tunerIds.length ∧
        (AllocatesTunerIds lib p tunerNum t ∨ s.tunerIds.length = 0)) := by
  refine ⟨fun type s inputNum entries hfit hentries => respectsCapacity_iff hfit hentries, ?_⟩
  intro s u t tunerNum events hfit hcount hevents
  have hnum : tunerNum.toNat = s.tunerIds.length := by
    obtain ⟨m, hal, hrun, heq⟩ := zoom_eq_ok.mp hcount
    have hfit' : (DtvEnv.halLens.get s).Fits := hfit
    rw [tvInputHalGetInputNumByType_ok hfit'] at hrun
    cases hrun
    cases heq
    have hlen : s.tunerIds.length ≤ 100 :=
      (idsOfType_length_le s.hal.live).trans hfit.live_le
    exact UInt32.toNat_ofNat_of_lt' (hlen.trans_lt (by decide))
  have hfit' : t.hal.Fits := by
    rcases deviceInitNotifyAll_spec driver events hfit with ⟨-, hcrash⟩ | ⟨v, hrun, -, hv⟩
    · rw [hcrash] at hevents
      cases hevents
    · rw [hrun] at hevents
      cases hevents
      exact hv
  rw [fillsTunerIds_iff hfit', hnum]

theorem listing_fits (deviceId : Int32) : (listing deviceId).hal.Fits :=
  TvHal.pushEntry_fits (by decide) _

/-- The device is open, and lists tuners 7 and 8. -/
def twoListed : DtvEnv :=
  ⟨[], (TvHal.pushEntry { TvHal.zero with device := true } ⟨7, .tuner, -1⟩).pushEntry ⟨8, .tuner, -1⟩, []⟩

/-- Between the count and the call, tuner 7 leaves and tuner 9 arrives. -/
theorem inputs_capacity_exchanged : ∃ hal,
    deviceInitNotifyAll steadyDriver [departure 7, arrival 9] twoListed.hal = .ok ((), hal) ∧
      FillsTunerIds .reference .lp64 2 ⟨[], hal, []⟩ := by
  have hfit : twoListed.hal.Fits := TvHal.pushEntry_fits (by decide) _
  obtain ⟨hal, hevents, hids⟩ : ∃ hal,
      deviceInitNotifyAll steadyDriver [departure 7, arrival 9] twoListed.hal = .ok ((), hal) ∧
        (idsOfType .tuner hal.live).length = 2 := ⟨_, rfl, by decide +kernel⟩
  exact ⟨hal, hevents, ((inputs_capacity_iff .reference .lp64 steadyDriver).2 twoListed _ ⟨[], hal, []⟩ 2 _
    hfit rfl hevents).mpr ⟨hids.trans (by decide +kernel), .inl rfl⟩⟩

/-- A tuner arrives between the count and the call: the array has no entry for it. -/
theorem inputs_capacity_overrun :
    ¬((∀ (type : TvInputType) (s : TvHal) (inputNum : UInt8) (entries : List (Option Int32)), s.Fits →
        entries.length = inputNum.toNat → RespectsCapacity type s inputNum entries) ∧
      ∀ (lib : Lib) (p : Platform) (driver : Driver) (s u t : DtvEnv) (tunerNum : UInt32)
        (events : List TvInputEvent), s.hal.Fits → dtvGetTunerNum s = .ok (tunerNum, u) →
        deviceInitNotifyAll driver events s.hal = .ok ((), t.hal) →
        AllocatesTunerIds lib p tunerNum t → FillsTunerIds lib p tunerNum t) := by
  rintro ⟨-, hall⟩
  have halloc : AllocatesTunerIds .reference .lp64 0 (listing 7) := rfl
  have hfills := hall .reference .lp64 silentDriver ⟨[], .zero, []⟩ _ (listing 7) 0 [arrival 7]
    (Nat.zero_le _) rfl rfl halloc
  have hcount := (fillsTunerIds_of_allocates (listing_fits 7) halloc).mp hfills
  exact absurd hcount (by decide)

end Tvd

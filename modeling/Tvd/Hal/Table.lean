import Tvd.Model.TvHal
import Mathlib.Data.List.Basic

/-! What the operations on the device table do to its live entries. While at
most 100 entries are live every access is in bounds, the search loop finds the
first entry of a device, and the shift loop erases one entry. -/

namespace Tvd

/-- The live entries fit into the array. -/
def TvHal.Fits (s : TvHal) : Prop := s.deviceNum.toNat ≤ maxDeviceNum

/-- The state after a logged call. -/
def TvHal.withCall (s : TvHal) (call : HalCall) : TvHal := { s with calls := call :: s.calls }

/-- The state after a store into the table. -/
def TvHal.setEntry (s : TvHal) (idx : ℕ) (info : DeviceInfo) : TvHal :=
  { s with deviceList := s.deviceList.setIfInBounds idx info }

/-- The index of the first entry of a device, or the length of the table. -/
def firstIdx (deviceId : Int32) (table : List DeviceInfo) : ℕ :=
  table.findIdx fun info => info.deviceId = deviceId

def TvHal.indexOf (s : TvHal) (deviceId : Int32) : ℕ := firstIdx deviceId s.live

section simp

variable (s : TvHal) (call : HalCall) (idx : ℕ) (info : DeviceInfo)

@[simp] theorem TvHal.withCall_live : (s.withCall call).live = s.live := rfl
@[simp] theorem TvHal.withCall_calls : (s.withCall call).calls = call :: s.calls := rfl
@[simp] theorem TvHal.withCall_device : (s.withCall call).device = s.device := rfl
@[simp] theorem TvHal.withCall_deviceNum : (s.withCall call).deviceNum = s.deviceNum := rfl
@[simp] theorem TvHal.withCall_deviceList : (s.withCall call).deviceList = s.deviceList := rfl
@[simp] theorem TvHal.withCall_indexOf (deviceId : Int32) :
    (s.withCall call).indexOf deviceId = s.indexOf deviceId := rfl
@[simp] theorem TvHal.withCall_fits : (s.withCall call).Fits ↔ s.Fits := Iff.rfl
@[simp] theorem TvHal.setEntry_calls : (s.setEntry idx info).calls = s.calls := rfl
@[simp] theorem TvHal.setEntry_device : (s.setEntry idx info).device = s.device := rfl
@[simp] theorem TvHal.setEntry_deviceNum : (s.setEntry idx info).deviceNum = s.deviceNum := rfl
@[simp] theorem TvHal.setEntry_fits : (s.setEntry idx info).Fits ↔ s.Fits := Iff.rfl

end simp

variable {s : TvHal}

/-! ### Live entries -/

theorem TvHal.Fits.live_length (h : s.Fits) : s.live.length = s.deviceNum.toNat := by
  unfold TvHal.Fits at h
  rw [TvHal.live, List.length_take, Vector.length_toList]
  omega

theorem TvHal.Fits.live_le (h : s.Fits) : s.live.length ≤ maxDeviceNum := by
  rw [h.live_length]
  exact h

theorem TvHal.Fits.lt_max (h : s.Fits) {idx : ℕ} {info : DeviceInfo} (hentry : s.live[idx]? = some info) :
    idx < maxDeviceNum := by
  obtain ⟨hlt, -⟩ := List.getElem?_eq_some_iff.mp hentry
  exact hlt.trans_le h.live_le

theorem TvHal.live_getElem? {idx : ℕ} (h : idx < s.deviceNum.toNat) :
    s.live[idx]? = s.deviceList[idx]? := by
  rw [TvHal.live, List.getElem?_take_of_lt h, Vector.getElem?_toList]

@[simp] theorem TvHal.setEntry_live (idx : ℕ) (info : DeviceInfo) :
    (s.setEntry idx info).live = s.live.set idx info := by
  simp [TvHal.setEntry, TvHal.live, List.take_set]

theorem firstIdx_le (deviceId : Int32) (table : List DeviceInfo) :
    firstIdx deviceId table ≤ table.length := List.findIdx_le_length

theorem firstIdx_lt_iff {deviceId : Int32} {table : List DeviceInfo} :
    firstIdx deviceId table < table.length ↔ ∃ info ∈ table, info.deviceId = deviceId := by
  rw [firstIdx, List.findIdx_lt_length]
  simp

theorem getElem_firstIdx {deviceId : Int32} {table : List DeviceInfo}
    (h : firstIdx deviceId table < table.length) :
    table[firstIdx deviceId table].deviceId = deviceId := by
  unfold firstIdx at h ⊢
  have hp := List.findIdx_getElem (w := h)
  simpa using hp

theorem ne_of_lt_firstIdx {deviceId : Int32} {table : List DeviceInfo} {i : ℕ}
    (hi : i < firstIdx deviceId table) (h : i < table.length) : table[i].deviceId ≠ deviceId := by
  have hp := List.not_of_lt_findIdx hi
  simpa using hp

/-! ### Accesses -/

theorem getDevice_ok {idx : ℕ} (h : idx < maxDeviceNum) :
    getDevice idx s = .ok (s.deviceList[idx], s) := by
  simp [getDevice, h]

theorem getDevice_live (hfit : s.Fits) {idx : ℕ} (h : idx < s.live.length) :
    getDevice idx s = .ok (s.live[idx], s) := by
  have hidx : idx < s.deviceNum.toNat := by rwa [hfit.live_length] at h
  have hmax : idx < maxDeviceNum := lt_of_lt_of_le hidx hfit
  have hget := s.live_getElem? hidx
  rw [List.getElem?_eq_getElem h, Vector.getElem?_eq_getElem hmax, Option.some_inj] at hget
  rw [getDevice_ok hmax, hget]

theorem setDevice_ok {idx : ℕ} (h : idx < maxDeviceNum) (info : DeviceInfo) :
    setDevice idx info s = .ok ((), s.setEntry idx info) := by
  have hset : s.deviceList.set idx info h = s.deviceList.setIfInBounds idx info := by
    apply Vector.ext
    intro i hi
    rw [Vector.getElem_set, Vector.getElem_setIfInBounds]
  simp [setDevice, h, TvHal.setEntry, hset]

theorem setActingStreamId_ok {idx : ℕ} (h : idx < maxDeviceNum) (streamId : Int32) :
    setActingStreamId idx streamId s =
      .ok ((), s.setEntry idx { s.deviceList[idx] with actingStreamId := streamId }) := by
  rw [setActingStreamId, Exec.bind_ok (getDevice_ok h), setDevice_ok h]

theorem setActingStreamId_live (hfit : s.Fits) {idx : ℕ} (h : idx < s.live.length)
    (streamId : Int32) : setActingStreamId idx streamId s =
      .ok ((), s.setEntry idx { s.live[idx] with actingStreamId := streamId }) := by
  have hmax : idx < maxDeviceNum := h.trans_le hfit.live_le
  rw [setActingStreamId, Exec.bind_ok (getDevice_live hfit h), setDevice_ok hmax]

theorem setActingStreamId_error {idx : ℕ} (h : maxDeviceNum ≤ idx) (streamId : Int32) :
    setActingStreamId idx streamId s = .error .outOfBounds := by
  simp [setActingStreamId, Exec.bind_apply, getDevice, Nat.not_lt.mpr h]

/-! ### Loops -/

/-- The search loops stop at the first live entry of the device. -/
theorem findDevice_ok (hfit : s.Fits) (deviceId : Int32) :
    findDevice deviceId s = .ok (s.indexOf deviceId, s) := by
  let q : ℕ → Bool := fun j => (s.live[j]?).any fun info => info.deviceId = deviceId
  have htest : ∀ j, 0 ≤ j → j < 0 + s.deviceNum.toNat →
      (do let info ← getDevice j; return decide (info.deviceId = deviceId)) s = .ok (q j, s) := by
    intro j _ hj
    have hlen : j < s.live.length := by rw [hfit.live_length]; omega
    rw [Exec.bind_ok (getDevice_live hfit hlen)]
    simp [q, hlen]
  obtain ⟨k, hk, -, hkn, hno, hyes⟩ := Exec.search_ok s.deviceNum.toNat 0 htest
  have hindex : s.indexOf deviceId = k := by
    rw [Nat.zero_add, ← hfit.live_length] at hkn hyes
    rw [TvHal.indexOf, firstIdx]
    rcases Nat.lt_or_ge k s.live.length with hlt | hge
    · rw [List.findIdx_eq hlt]
      have hq := hyes hlt
      refine ⟨by simpa [q, hlt] using hq, fun j hj => ?_⟩
      have hlen : j < s.live.length := hj.trans hlt
      simpa [q, hlen] using hno j (Nat.zero_le j) hj
    · rw [le_antisymm hkn hge, List.findIdx_eq_length]
      intro info hinfo
      obtain ⟨j, hj, rfl⟩ := List.getElem_of_mem hinfo
      simpa [q, hj] using hno j (Nat.zero_le j) (by omega)
  rw [hindex]
  exact hk

/-- Shift `n` entries down by one, from `idx` on. -/
theorem shift_ok (n : ℕ) : ∀ (idx : ℕ) (s : TvHal), idx + n < maxDeviceNum →
    ∃ list : Vector DeviceInfo maxDeviceNum,
      Exec.forRange (fun idx => do let next ← getDevice (idx + 1); setDevice idx next) n idx s =
        .ok ((), { s with deviceList := list }) ∧
      ∀ i : ℕ, list[i]? = if idx ≤ i ∧ i < idx + n then s.deviceList[i + 1]? else s.deviceList[i]? := by
  induction n with
  | zero =>
    intro idx s _
    refine ⟨s.deviceList, rfl, fun i => ?_⟩
    rw [if_neg (by omega)]
  | succ n ih =>
    intro idx s h
    have hnext : idx + 1 < maxDeviceNum := by omega
    obtain ⟨list, hrun, hlist⟩ := ih (idx + 1) (s.setEntry idx s.deviceList[idx + 1]) (by omega)
    refine ⟨list, ?_, fun i => ?_⟩
    · have hbody : (do let next ← getDevice (idx + 1); setDevice idx next) s =
          .ok ((), s.setEntry idx s.deviceList[idx + 1]) := by
        rw [Exec.bind_ok (getDevice_ok hnext), setDevice_ok (by omega)]
      rw [Exec.forRange, Exec.bind_ok hbody]
      exact hrun
    · rw [hlist i, TvHal.setEntry]
      simp only [Vector.getElem?_setIfInBounds]
      by_cases hi : idx = i
      · subst hi
        have hidx : idx < maxDeviceNum := by omega
        rw [if_neg (by omega), if_pos rfl, if_pos hidx, if_pos (by omega),
          Vector.getElem?_eq_getElem hnext]
      · have hiff : (idx + 1 ≤ i ∧ i < idx + 1 + n) ↔ (idx ≤ i ∧ i < idx + (n + 1)) := by omega
        by_cases hin : idx + 1 ≤ i ∧ i < idx + 1 + n
        · rw [if_pos hin, if_pos (hiff.mp hin), if_neg (by omega)]
        · rw [if_neg hin, if_neg (mt hiff.mpr hin), if_neg hi]

/-- Removing a live entry keeps the others in order. -/
theorem removeDeviceByIdx_ok (hfit : s.Fits) {idx : ℕ} (h : idx < s.deviceNum.toNat) :
    ∃ t, removeDeviceByIdx idx s = .ok ((), t) ∧ t.live = s.live.eraseIdx idx ∧
      t.calls = s.calls ∧ t.device = s.device ∧ t.Fits := by
  have hnum : (s.deviceNum - 1).toNat = s.deviceNum.toNat - 1 := by
    rw [UInt8.toNat_sub_of_le _ _ (by rw [UInt8.le_iff_toNat_le]; simpa using Nat.one_le_of_lt h)]
    rfl
  unfold TvHal.Fits at hfit
  obtain ⟨list, hrun, hlist⟩ := shift_ok ((s.deviceNum - 1).toNat - idx) idx
    { s with deviceNum := s.deviceNum - 1 } (by omega)
  refine ⟨{ s with deviceNum := s.deviceNum - 1, deviceList := list }, ?_, ?_, rfl, rfl, ?_⟩
  · rw [removeDeviceByIdx, Exec.modify_bind_apply, Exec.get_bind_apply]
    exact hrun
  · have hlen : s.live.length = s.deviceNum.toNat := TvHal.Fits.live_length hfit
    apply List.ext_getElem?
    intro i
    rw [List.getElem?_eraseIdx]
    by_cases hi : i < s.deviceNum.toNat - 1
    · rw [TvHal.live_getElem? (by simpa [hnum] using hi), hlist i]
      by_cases hidx : i < idx
      · rw [if_neg (by omega), if_pos hidx, TvHal.live_getElem? (by omega)]
      · rw [if_pos (by omega), if_neg hidx, TvHal.live_getElem? (by omega)]
    · have hnone : s.live[i + 1]? = none := by rw [List.getElem?_eq_none_iff]; omega
      rw [if_neg (by omega), hnone, List.getElem?_eq_none_iff, TvHal.live, List.length_take]
      dsimp only
      omega
  · unfold TvHal.Fits
    dsimp only
    omega

end Tvd

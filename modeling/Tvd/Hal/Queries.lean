import Tvd.Hal.Table

/-! What the queries of the TV HAL return. Counting devices of a type returns
their number; filling an array stores their ids in the order of the list, whatever
its capacity, and crashes where it does not fit. -/

namespace Tvd

variable {s : TvHal} {type : TvInputType}

/-- The ids of the entries of a type. -/
def idsOfType (type : TvInputType) (table : List DeviceInfo) : List Int32 :=
  (table.filter fun info => info.type = type).map DeviceInfo.deviceId

theorem idsOfType_cons (info : DeviceInfo) (table : List DeviceInfo) :
    idsOfType type (info :: table) =
      if info.type = type then info.deviceId :: idsOfType type table else idsOfType type table := by
  by_cases h : info.type = type
  · simp [idsOfType, h]
  · simp [idsOfType, h]

theorem idsOfType_length_le (table : List DeviceInfo) :
    (idsOfType type table).length ≤ table.length := by
  rw [idsOfType, List.length_map]
  exact List.length_filter_le ..

/-! ### Counting -/

theorem count_foldlM (table : List DeviceInfo) (sum : UInt32) :
    table.foldlM (fun sum info => (.ok (if info.type = type then sum + 1 else sum) : Except Fault UInt32))
      sum = .ok (sum + UInt32.ofNat (idsOfType type table).length) := by
  induction table generalizing sum with
  | nil => simp [idsOfType, pure, Except.pure]
  | cons info table ih =>
    rw [List.foldlM_cons, idsOfType_cons]
    by_cases h : info.type = type
    · rw [if_pos h, if_pos h, List.length_cons]
      change List.foldlM _ (sum + 1) table = _
      rw [ih, UInt32.ofNat_add, UInt32.add_assoc, UInt32.add_comm 1]
      rfl
    · rw [if_neg h, if_neg h]
      exact ih sum

theorem tvInputHalGetInputNumByType_ok (hfit : s.Fits) :
    tvInputHalGetInputNumByType type s =
      .ok (UInt32.ofNat (idsOfType type s.live).length, s) := by
  have hlen := hfit.live_length
  have hloop := Exec.accumulate_foldlM (l := s.live) (s := s)
    (fun idx sum => do
      let info ← getDevice idx
      return some (if info.type = type then sum + 1 else sum))
    (f := fun sum info => (.ok (if info.type = type then sum + 1 else sum) : Except Fault UInt32))
    (fun j hj a => by rw [Exec.bind_ok (getDevice_live hfit hj)]; rfl)
    s.deviceNum.toNat 0 0 (by omega)
  rw [List.drop_zero, count_foldlM] at hloop
  rw [tvInputHalGetInputNumByType, Exec.get_bind_apply, Exec.bind_ok hloop]
  simp

/-- Counting crashes on a list that does not fit. -/
theorem fits_of_getInputNum {r : UInt32 × TvHal}
    (h : tvInputHalGetInputNumByType type s = .ok r) : s.Fits := by
  by_contra hfit
  rw [tvInputHalGetInputNumByType, Exec.get_bind_apply] at h
  obtain ⟨a, t, hloop, -⟩ := Exec.bind_eq_ok.mp h
  have hgo (j : ℕ) (b : UInt32) (t : TvHal) (r : Option UInt32 × TvHal)
      (hbody : (do
        let info ← getDevice j
        return some (if info.type = type then b + 1 else b)) t = .ok r) : r.1 ≠ none := by
    obtain ⟨info, u, -, hpure⟩ := Exec.bind_eq_ok.mp hbody
    cases hpure
    exact Option.some_ne_none _
  unfold TvHal.Fits at hfit
  obtain ⟨b, t, r, hbody⟩ := Exec.accumulate_reaches hgo _ _ _ _ _ hloop maxDeviceNum
    (Nat.zero_le _) (by omega)
  obtain ⟨info, u, hget, -⟩ := Exec.bind_eq_ok.mp hbody
  simp [getDevice, Exec.bind_apply] at hget

/-! ### Filling -/

/-- One iteration of the loop that fills an array. -/
def fillStep (type : TvInputType) (acc : UInt8 × IntArray) (info : DeviceInfo) :
    Except Fault (UInt8 × IntArray) :=
  if info.type = type then
    (acc.2.store acc.1.toNat info.deviceId).map fun devices => (acc.1 + 1, devices)
  else .ok acc

theorem tvInputHalGetInputsByType_eq (hfit : s.Fits) (inputNum : UInt8) (devices : IntArray) :
    tvInputHalGetInputsByType inputNum type devices s =
      (s.live.foldlM (fillStep type) (0, devices)).map fun acc => ((tvStatusSuccess, acc.2), s) := by
  have hlen := hfit.live_length
  have hloop := Exec.accumulate_foldlM (l := s.live) (s := s)
    (fun idx (acc : UInt8 × IntArray) => do
      let info ← getDevice idx
      if info.type = type then
        let devices ← Exec.lift (acc.2.store acc.1.toNat info.deviceId)
        return some (acc.1 + 1, devices)
      else return some acc)
    (f := fillStep type)
    (fun j hj a => by
      rw [Exec.bind_ok (getDevice_live hfit hj), fillStep]
      split
      · cases hstore : a.2.store a.1.toNat s.live[j].deviceId with
        | error e => rfl
        | ok devices => rfl
      · rfl)
    s.deviceNum.toNat 0 (0, devices) (by omega)
  rw [List.drop_zero] at hloop
  rw [tvInputHalGetInputsByType, Exec.get_bind_apply]
  cases hfold : s.live.foldlM (fillStep type) (0, devices) with
  | error e =>
    rw [hfold] at hloop
    exact Exec.bind_error hloop _
  | ok acc =>
    rw [hfold] at hloop
    rw [Exec.bind_ok hloop]
    rfl

/-- With room for them, the ids go behind the entries already filled. -/
theorem fill_ok (table : List DeviceInfo) (cnt : UInt8) (entries : List (Option Int32))
    (hroom : cnt.toNat + (idsOfType type table).length ≤ entries.length)
    (hcnt : cnt.toNat + (idsOfType type table).length < 256) :
    ∃ cnt', table.foldlM (fillStep type) (cnt, some entries) = .ok (cnt',
      some (entries.take cnt.toNat ++ (idsOfType type table).map some ++
        entries.drop (cnt.toNat + (idsOfType type table).length))) := by
  induction table generalizing cnt entries with
  | nil => exact ⟨cnt, by simp [idsOfType, pure, Except.pure]⟩
  | cons info table ih =>
    rw [idsOfType_cons] at hroom hcnt ⊢
    rw [List.foldlM_cons, fillStep]
    by_cases h : info.type = type
    · rw [if_pos h, List.length_cons] at hroom hcnt
      have hlt : cnt.toNat < entries.length := by omega
      have hnum : (cnt + 1).toNat = cnt.toNat + 1 := by
        rw [UInt8.toNat_add, show (1 : UInt8).toNat = 1 by rfl]
        omega
      have hstore : IntArray.store (some entries) cnt.toNat info.deviceId =
          .ok (some (entries.set cnt.toNat (some info.deviceId))) := by
        rw [IntArray.store, if_pos hlt]
      obtain ⟨cnt', hfold⟩ := ih (cnt + 1) (entries.set cnt.toNat (some info.deviceId))
        (by rw [List.length_set]; omega) (by omega)
      refine ⟨cnt', ?_⟩
      rw [if_pos h, if_pos h, hstore, List.length_cons]
      change List.foldlM _ (cnt + 1, some (entries.set cnt.toNat (some info.deviceId))) table = _
      rw [hfold, hnum, List.take_add_one, List.getElem?_set_self hlt, List.take_set_of_le le_rfl,
        List.drop_set_of_lt (by omega), List.map_cons]
      simp [Nat.add_assoc, Nat.add_comm 1]
    · rw [if_neg h] at hroom hcnt
      rw [if_neg h, if_neg h]
      exact ih cnt entries hroom hcnt

/-- Filling NULL works only when there is nothing to store. -/
theorem fill_null (table : List DeviceInfo) (cnt : UInt8) :
    table.foldlM (fillStep type) (cnt, none) =
      if idsOfType type table = [] then .ok (cnt, none) else .error .nullPointer := by
  induction table with
  | nil => rfl
  | cons info table ih =>
    rw [List.foldlM_cons, fillStep, idsOfType_cons]
    by_cases h : info.type = type
    · rw [if_pos h, if_pos h, if_neg (List.cons_ne_nil _ _)]
      rfl
    · rw [if_neg h, if_neg h]
      exact ih

/-- Without room for them, some id is stored outside the array. -/
theorem fill_overrun (table : List DeviceInfo) (cnt : UInt8) (entries : List (Option Int32))
    (hcnt : cnt.toNat ≤ entries.length) (hsmall : cnt.toNat + (idsOfType type table).length < 256)
    (hfull : entries.length < cnt.toNat + (idsOfType type table).length) :
    table.foldlM (fillStep type) (cnt, some entries) = .error .outOfBounds := by
  induction table generalizing cnt entries with
  | nil =>
    have hnone : (idsOfType type []).length = 0 := rfl
    omega
  | cons info table ih =>
    rw [idsOfType_cons] at hsmall hfull
    rw [List.foldlM_cons, fillStep]
    by_cases h : info.type = type
    · rw [if_pos h, List.length_cons] at hsmall hfull
      rw [if_pos h, IntArray.store]
      by_cases hlt : cnt.toNat < entries.length
      · have hnum : (cnt + 1).toNat = cnt.toNat + 1 := by
          rw [UInt8.toNat_add, show (1 : UInt8).toNat = 1 by rfl]
          omega
        rw [if_pos hlt]
        refine ih (cnt + 1) (entries.set cnt.toNat (some info.deviceId)) ?_ ?_ ?_
        all_goals
          rw [hnum]
          try rw [List.length_set]
          omega
      · rw [if_neg hlt]
        rfl
    · rw [if_neg h] at hsmall hfull
      rw [if_neg h]
      exact ih cnt entries hcnt hsmall hfull

/-- An array with as many entries as there are devices of the type ends up with
their ids; one that could not be allocated is fine where there are none. -/
theorem tvInputHalGetInputsByType_ensures (hfit : s.Fits) (inputNum : UInt8) (block : Option ℕ) :
    Exec.Ensures (tvInputHalGetInputsByType inputNum type
      (block.map fun _ => List.replicate (idsOfType type s.live).length none)) s fun r _ =>
      r.1 = tvStatusSuccess ∧
        (r.2 = some ((idsOfType type s.live).map some) ∨ idsOfType type s.live = []) := by
  intro r t h
  rw [tvInputHalGetInputsByType_eq hfit] at h
  cases block with
  | none =>
    rw [Option.map_none, fill_null] at h
    split at h
    · next hnone =>
      cases h
      exact ⟨rfl, .inr hnone⟩
    · cases h
  | some b =>
    have hlen : (idsOfType type s.live).length ≤ s.live.length := idsOfType_length_le s.live
    have hmax : s.live.length ≤ 100 := hfit.live_le
    have hzero : (0 : UInt8).toNat = 0 := rfl
    obtain ⟨cnt, hfold⟩ : ∃ cnt, s.live.foldlM (fillStep type)
        (0, some (List.replicate (idsOfType type s.live).length none)) = .ok (cnt, some _) :=
      fill_ok s.live 0 _ (by rw [List.length_replicate, hzero, Nat.zero_add]) (by omega)
    rw [Option.map_some, hfold] at h
    cases h
    refine ⟨rfl, .inl ?_⟩
    simp

end Tvd

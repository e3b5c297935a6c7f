import Tvd.Hal.Operations
import Mathlib.Data.Set.Card

/-! The device table over whole histories of events. Whatever events arrive, the live
entries are those of an ordered list on which every event acts in turn; no access
leaves the array and the count does not wrap. Where a tuner becomes available only
while it is not, and not too many are at a time, the list holds the available tuners in
the order of their arrival. -/

namespace Tvd

variable {driver : Driver}

/-! ### Histories -/

/-- The driver delivers events, one after the other. -/
def deviceInitNotifyAll (driver : Driver) : List TvInputEvent → HalM Unit
  | [] => return
  | event :: events => do
    deviceInitNotify driver event
    deviceInitNotifyAll driver events

/-- The list that events make of another. -/
def applyAll (events : List TvInputEvent) (table : List DeviceInfo) : List DeviceInfo :=
  events.foldl (fun table event => event.apply table) table

/-- The events are delivered, or the first that needs the device crashes without it. -/
theorem deviceInitNotifyAll_spec (driver : Driver) (events : List TvInputEvent) : ∀ {s : TvHal}, s.Fits →
    (s.device = false ∧ deviceInitNotifyAll driver events s = .error .nullPointer) ∨
    ∃ t, deviceInitNotifyAll driver events s = .ok ((), t) ∧ t.live = applyAll events s.live ∧
      t.Fits := by
  induction events with
  | nil => exact fun {s} hfit => .inr ⟨s, rfl, rfl, hfit⟩
  | cons event events ih =>
    intro s hfit
    by_cases hdev : event.closes s.live ≠ none → s.device = true
    · obtain ⟨t, hrun, hlive, -, hdevice, hfit'⟩ : ∃ t, Notifies driver event s t :=
        deviceInitNotify_ok hfit event hdev
      have hnext : deviceInitNotifyAll driver (event :: events) s = deviceInitNotifyAll driver events t :=
        Exec.bind_ok hrun _
      rw [hnext, ← hdevice]
      rcases ih hfit' with hcrash | ⟨u, hrest, hlive', hfit''⟩
      · exact .inl hcrash
      · refine .inr ⟨u, hrest, ?_, hfit''⟩
        rw [hlive', hlive]
        rfl
    · rw [Classical.not_imp] at hdev
      have hclosed : s.device = false := by simpa using hdev.2
      exact .inl ⟨hclosed, Exec.bind_error (deviceInitNotify_error hfit hdev.1 hclosed) _⟩

/-! ### Available tuners -/

/-- The event of a tuner that becomes available, and of one that goes away. -/
def arrival (deviceId : Int32) : TvInputEvent := ⟨.deviceAvailable, deviceId, .tuner⟩

def departure (deviceId : Int32) : TvInputEvent := ⟨.deviceUnavailable, deviceId, .tuner⟩

/-- The tuner arrived with the event at this index and did not depart since. -/
def Arrived (events : List TvInputEvent) (deviceId : Int32) (i : ℕ) : Prop :=
  events[i]? = some (arrival deviceId) ∧ ∀ j, i < j → events[j]? ≠ some (departure deviceId)

/-- The tuners that are available after the events. -/
def available (events : List TvInputEvent) : Set Int32 := {deviceId | ∃ i, Arrived events deviceId i}

/-- A tuner arrives only while it is not available, and at most 100 are at a time. -/
structure Orderly (events : List TvInputEvent) : Prop where
  fresh : ∀ past deviceId, past ++ [arrival deviceId] <+: events → deviceId ∉ available past
  few : ∀ past, past <+: events → (available past).ncard ≤ maxDeviceNum

/-- The list holds the available tuners, each once, in the order of their arrival. -/
structure ListsArrivals (events : List TvInputEvent) (ids : List Int32) : Prop where
  nodup : ids.Nodup
  mem_iff : ∀ deviceId, deviceId ∈ ids ↔ deviceId ∈ available events
  order : ids.Pairwise fun a b => ∀ i j, Arrived events a i → Arrived events b j → i < j

section

variable {events : List TvInputEvent} {event : TvInputEvent} {deviceId : Int32} {i : ℕ}

theorem Arrived.lt_length (h : Arrived events deviceId i) : i < events.length :=
  (List.getElem?_eq_some_iff.mp h.1).1

theorem arrived_concat : Arrived (events ++ [event]) deviceId i ↔
    (Arrived events deviceId i ∧ event ≠ departure deviceId) ∨
      (i = events.length ∧ event = arrival deviceId) := by
  have hold {j : ℕ} (hj : j < events.length) : (events ++ [event])[j]? = events[j]? :=
    List.getElem?_append_left hj
  have hlast : (events ++ [event])[events.length]? = some event := List.getElem?_concat_length
  have hbeyond {j : ℕ} (hj : events.length < j) : (events ++ [event])[j]? = none := by
    rw [List.getElem?_eq_none_iff, List.length_append, List.length_singleton]
    omega
  constructor
  · rintro ⟨harrival, hstays⟩
    rcases Nat.lt_trichotomy i events.length with hi | rfl | hi
    · rw [hold hi] at harrival
      refine .inl ⟨⟨harrival, fun j hj hdeparts => ?_⟩, fun hdeparts => ?_⟩
      · have hlt : j < events.length := (List.getElem?_eq_some_iff.mp hdeparts).1
        exact hstays j hj ((hold hlt).trans hdeparts)
      · exact hstays _ hi (hlast.trans (congrArg some hdeparts))
    · rw [hlast, Option.some_inj] at harrival
      exact .inr ⟨rfl, harrival⟩
    · rw [hbeyond hi] at harrival
      cases harrival
  · rintro (⟨harrived, hne⟩ | ⟨rfl, rfl⟩)
    · refine ⟨(hold harrived.lt_length).trans harrived.1, fun j hj hdeparts => ?_⟩
      rcases Nat.lt_trichotomy j events.length with hlt | rfl | hlt
      · exact harrived.2 j hj ((hold hlt).symm.trans hdeparts)
      · rw [hlast, Option.some_inj] at hdeparts
        exact hne hdeparts
      · rw [hbeyond hlt] at hdeparts
        cases hdeparts
    · refine ⟨hlast, fun j hj hdeparts => ?_⟩
      rw [hbeyond hj] at hdeparts
      cases hdeparts

theorem mem_available_concat : deviceId ∈ available (events ++ [event]) ↔
    (deviceId ∈ available events ∧ event ≠ departure deviceId) ∨ event = arrival deviceId := by
  constructor
  · rintro ⟨i, hi⟩
    rcases arrived_concat.mp hi with ⟨harrived, hne⟩ | ⟨-, heq⟩
    · exact .inl ⟨⟨i, harrived⟩, hne⟩
    · exact .inr heq
  · rintro (⟨⟨i, harrived⟩, hne⟩ | heq)
    · exact ⟨i, arrived_concat.mpr (.inl ⟨harrived, hne⟩)⟩
    · exact ⟨events.length, arrived_concat.mpr (.inr ⟨rfl, heq⟩)⟩

theorem Orderly.of_concat (h : Orderly (events ++ [event])) : Orderly events where
  fresh past deviceId hpast := h.fresh past deviceId (hpast.trans (List.prefix_append _ _))
  few past hpast := h.few past (hpast.trans (List.prefix_append _ _))

/-! ### What an event does to the list -/

theorem map_eraseIdx_firstIdx (table : List DeviceInfo) :
    (table.eraseIdx (firstIdx deviceId table)).map DeviceInfo.deviceId =
      (table.map DeviceInfo.deviceId).erase deviceId := by
  induction table with
  | nil => rfl
  | cons info table ih =>
    unfold firstIdx
    rw [List.findIdx_cons, List.map_cons, List.erase_cons]
    by_cases h : info.deviceId = deviceId
    · simp [h]
    · simpa [h, firstIdx] using ih

theorem apply_arrival (table : List DeviceInfo) : (arrival deviceId).apply table =
    if table.length < maxDeviceNum then table ++ [⟨deviceId, .tuner, -1⟩] else table := by
  simp [TvInputEvent.apply, arrival]

theorem apply_departure (table : List DeviceInfo) :
    (departure deviceId).apply table = table.eraseIdx (firstIdx deviceId table) := by
  simp [TvInputEvent.apply, departure]

/-- An event that is neither leaves the devices of the list alone. -/
theorem map_apply (harrival : ∀ deviceId, event ≠ arrival deviceId)
    (hdeparture : ∀ deviceId, event ≠ departure deviceId) (table : List DeviceInfo) :
    (event.apply table).map DeviceInfo.deviceId = table.map DeviceInfo.deviceId := by
  obtain ⟨type, deviceId, deviceType⟩ := event
  by_cases htuner : deviceType = .tuner
  · subst htuner
    cases type with
    | deviceAvailable => exact absurd rfl (harrival deviceId)
    | deviceUnavailable => exact absurd rfl (hdeparture deviceId)
    | streamConfigurationsChanged =>
      simp only [TvInputEvent.apply, ne_eq, not_true_eq_false, if_false]
      apply List.ext_getElem?
      intro i
      rw [List.getElem?_map, List.getElem?_map, List.getElem?_modify]
      cases table[i]? with
      | none => rfl
      | some info =>
        simp only [Option.map_some, Option.map_eq_map, Option.some_inj]
        split
        · rfl
        · rfl
    | other code => simp [TvInputEvent.apply]
  · simp [TvInputEvent.apply, htuner]

/-! ### The list of arrivals -/

theorem listsArrivals_nil : ListsArrivals [] [] where
  nodup := List.nodup_nil
  mem_iff deviceId := by
    refine iff_of_false List.not_mem_nil ?_
    rintro ⟨i, harrived, -⟩
    cases harrived
  order := List.Pairwise.nil

variable {ids : List Int32}

/-- The list is as long as there are available tuners. -/
theorem ListsArrivals.length (h : ListsArrivals events ids) : ids.length = (available events).ncard := by
  have hset : available events = (ids.toFinset : Set Int32) := by
    ext deviceId
    rw [Finset.mem_coe, List.mem_toFinset, h.mem_iff]
  rw [hset, Set.ncard_coe_finset, List.toFinset_card_of_nodup h.nodup]

theorem ListsArrivals.arrive (h : ListsArrivals events ids) (hfresh : deviceId ∉ available events) :
    ListsArrivals (events ++ [arrival deviceId]) (ids ++ [deviceId]) where
  nodup := by
    rw [List.nodup_append]
    refine ⟨h.nodup, by simp, fun id hid other hother heq => ?_⟩
    rw [List.mem_singleton] at hother
    subst hother heq
    exact hfresh ((h.mem_iff _).mp hid)
  mem_iff id := by
    rw [List.mem_append, List.mem_singleton, h.mem_iff, mem_available_concat]
    have hne : arrival deviceId ≠ departure id := by simp [arrival, departure]
    have heq : arrival deviceId = arrival id ↔ id = deviceId := by
      simp [arrival, eq_comm]
    rw [and_iff_left hne, heq]
  order := by
    rw [List.pairwise_append]
    have hold {id : Int32} (hid : id ∈ ids) {i : ℕ}
        (hi : Arrived (events ++ [arrival deviceId]) id i) : Arrived events id i := by
      rcases arrived_concat.mp hi with ⟨harrived, -⟩ | ⟨-, heq⟩
      · exact harrived
      · have hsame : deviceId = id := congrArg TvInputEvent.deviceId heq
        subst hsame
        exact absurd ((h.mem_iff _).mp hid) hfresh
    refine ⟨?_, List.pairwise_singleton _ _, fun a ha b hb i j hi hj => ?_⟩
    · refine h.order.imp_of_mem fun {a b} ha hb hab i j hi hj => ?_
      exact hab i j (hold ha hi) (hold hb hj)
    · rw [List.mem_singleton] at hb
      subst hb
      rcases arrived_concat.mp hj with ⟨harrived, -⟩ | ⟨rfl, -⟩
      · exact absurd ⟨j, harrived⟩ hfresh
      · exact (hold ha hi).lt_length

theorem ListsArrivals.depart (h : ListsArrivals events ids) :
    ListsArrivals (events ++ [departure deviceId]) (ids.erase deviceId) where
  nodup := h.nodup.erase deviceId
  mem_iff id := by
    rw [h.nodup.mem_erase_iff, h.mem_iff, mem_available_concat]
    have hne : departure deviceId ≠ arrival id := by simp [departure, arrival]
    have hother : departure deviceId ≠ departure id ↔ id ≠ deviceId := by
      simp [departure, eq_comm]
    rw [or_iff_left hne, hother, and_comm]
  order := by
    have hold {id : Int32} {i : ℕ} (hi : Arrived (events ++ [departure deviceId]) id i) :
        Arrived events id i := by
      rcases arrived_concat.mp hi with ⟨harrived, -⟩ | ⟨-, heq⟩
      · exact harrived
      · cases heq
    exact (h.order.sublist List.erase_sublist).imp fun hab i j hi hj => hab i j (hold hi) (hold hj)

theorem ListsArrivals.stay (h : ListsArrivals events ids)
    (harrival : ∀ deviceId, event ≠ arrival deviceId)
    (hdeparture : ∀ deviceId, event ≠ departure deviceId) :
    ListsArrivals (events ++ [event]) ids where
  nodup := h.nodup
  mem_iff id := by
    rw [h.mem_iff, mem_available_concat, or_iff_left (harrival id), and_iff_left (hdeparture id)]
  order := by
    have hold {id : Int32} {i : ℕ} (hi : Arrived (events ++ [event]) id i) : Arrived events id i := by
      rcases arrived_concat.mp hi with ⟨harrived, -⟩ | ⟨-, heq⟩
      · exact harrived
      · exact absurd heq (harrival id)
    exact h.order.imp fun hab i j hi hj => hab i j (hold hi) (hold hj)

/-- Orderly events leave the arrivals in the list. -/
theorem listsArrivals_applyAll (events : List TvInputEvent) (horderly : Orderly events) :
    ListsArrivals events ((applyAll events []).map DeviceInfo.deviceId) := by
  induction events using List.reverseRecOn with
  | nil => exact listsArrivals_nil
  | append_singleton events event ih =>
    have hlist := ih horderly.of_concat
    have hlast : applyAll (events ++ [event]) [] = event.apply (applyAll events []) := by
      rw [applyAll, List.foldl_append, applyAll]
      rfl
    rw [hlast]
    by_cases harrival : ∃ deviceId, event = arrival deviceId
    · obtain ⟨deviceId, rfl⟩ := harrival
      have hfresh := horderly.fresh events deviceId (List.prefix_refl _)
      have hnext := hlist.arrive hfresh
      have hfew := horderly.few _ (List.prefix_refl _)
      rw [← hnext.length, List.length_append, List.length_map, List.length_singleton] at hfew
      rw [apply_arrival, if_pos (Nat.lt_of_succ_le hfew), List.map_append]
      exact hnext
    by_cases hdeparture : ∃ deviceId, event = departure deviceId
    · obtain ⟨deviceId, rfl⟩ := hdeparture
      rw [apply_departure, map_eraseIdx_firstIdx]
      exact hlist.depart
    · have hnoArrival (deviceId : Int32) (h : event = arrival deviceId) : False := harrival ⟨_, h⟩
      have hnoDeparture (deviceId : Int32) (h : event = departure deviceId) : False := hdeparture ⟨_, h⟩
      rw [map_apply hnoArrival hnoDeparture]
      exact hlist.stay hnoArrival hnoDeparture

/-- Whatever events arrive at an empty table, no access leaves the array and all are
served while the device is open; the live entries are those of the list on which the
events act, of which there are at most 100. Orderly events leave the available tuners
in the list, in the order of their arrival. -/
theorem events_refine_list {s : TvHal} (hempty : s.deviceNum = 0) (events : List TvInputEvent) :
    deviceInitNotifyAll driver events s ≠ .error .outOfBounds ∧
      (s.device = true → ∃ t, deviceInitNotifyAll driver events s = .ok ((), t)) ∧
      ∀ t, deviceInitNotifyAll driver events s = .ok ((), t) →
        t.live = applyAll events [] ∧ t.deviceNum.toNat = (applyAll events []).length ∧
        t.deviceNum.toNat ≤ maxDeviceNum ∧
        (Orderly events → ListsArrivals events (t.live.map DeviceInfo.deviceId)) := by
  have hlive : s.live = [] := by simp [TvHal.live, hempty]
  have hfit : s.Fits := by simp [TvHal.Fits, hempty]
  rcases deviceInitNotifyAll_spec driver events hfit with
    ⟨hclosed, hcrash⟩ | ⟨t, hrun, htable, hfit'⟩
  · rw [hcrash]
    refine ⟨fun h => (by cases h), fun hopen => ?_, fun t ht => ?_⟩
    · rw [hclosed] at hopen
      cases hopen
    · cases ht
  · rw [hrun]
    rw [hlive] at htable
    refine ⟨fun h => (by cases h), fun _ => ⟨t, rfl⟩, fun u hu => ?_⟩
    cases hu
    rw [htable]
    refine ⟨rfl, ?_, hfit', listsArrivals_applyAll events⟩
    rw [← htable, hfit'.live_length]

/-- Two tuners arrive and the first departs. -/
theorem events_refine_list_secondTuner : ∃ t : TvHal,
    deviceInitNotifyAll silentDriver [arrival 1, arrival 2, departure 1]
      { TvHal.zero with device := true } = .ok ((), t) ∧ t.live = [⟨2, .tuner, -1⟩] := by
  obtain ⟨-, hserved, hlist⟩ := @events_refine_list silentDriver { TvHal.zero with device := true } rfl
    [arrival 1, arrival 2, departure 1]
  obtain ⟨t, ht⟩ := hserved rfl
  exact ⟨t, ht, (hlist t ht).1⟩

end

end Tvd

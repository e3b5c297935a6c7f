import Tvd.Hal.Arrivals
import Tvd.Hal.Queries
import Tvd.Spec.Server

/-! The devices in the table, their acting streams aside. Events change them as they
change a list of tuners, opening the HAL empties the table, and nothing else changes
which devices are in it. -/

namespace Tvd

open Exec

/-- The ids and the types of the live entries. -/
def TvHal.devices (s : TvHal) : List (Int32 × TvInputType) :=
  s.live.map fun info => (info.deviceId, info.type)

/-- The ids alone. -/
def TvHal.deviceIds (s : TvHal) : List Int32 := s.devices.map Prod.fst

/-- The table holds tuners only. -/
def TvHal.TunersOnly (s : TvHal) : Prop := ∀ device ∈ s.devices, device.2 = .tuner

variable {s t : TvHal} {driver : Driver}

theorem TvHal.deviceIds_eq (s : TvHal) : s.deviceIds = s.live.map DeviceInfo.deviceId := by
  rw [deviceIds, devices, List.map_map]
  rfl

theorem TvHal.devices_of_empty (h : t.live = []) : t.devices = [] := by
  rw [devices, h, List.map_nil]

/-- Then all ids are those of tuners. -/
theorem TvHal.TunersOnly.ids (h : s.TunersOnly) : idsOfType .tuner s.live = s.deviceIds := by
  have hall : ∀ info ∈ s.live, decide (info.type = .tuner) = true := fun info hinfo =>
    decide_eq_true (h (info.deviceId, info.type) (List.mem_map_of_mem hinfo))
  rw [idsOfType, List.filter_eq_self.mpr hall, TvHal.deviceIds_eq]

/-! ### Events -/

theorem list_arrival (deviceId : Int32) (tuners : List Int32) : (arrival deviceId).list tuners =
    if tuners.length < maxDeviceNum then tuners ++ [deviceId] else tuners := by
  simp [TvInputEvent.list, arrival]

theorem list_departure (deviceId : Int32) (tuners : List Int32) :
    (departure deviceId).list tuners = tuners.erase deviceId := by
  simp [TvInputEvent.list, departure]

theorem deviceIds_apply (event : TvInputEvent) (table : List DeviceInfo) :
    (event.apply table).map DeviceInfo.deviceId = event.list (table.map DeviceInfo.deviceId) := by
  by_cases harrival : ∃ deviceId, event = arrival deviceId
  · obtain ⟨deviceId, rfl⟩ := harrival
    rw [apply_arrival, list_arrival, List.length_map]
    split
    · rw [List.map_append]
      rfl
    · rfl
  by_cases hdeparture : ∃ deviceId, event = departure deviceId
  · obtain ⟨deviceId, rfl⟩ := hdeparture
    rw [apply_departure, map_eraseIdx_firstIdx, list_departure]
  rw [map_apply (fun deviceId h => harrival ⟨_, h⟩) (fun deviceId h => hdeparture ⟨_, h⟩)]
  obtain ⟨type, deviceId, deviceType⟩ := event
  unfold TvInputEvent.list
  by_cases htuner : deviceType = .tuner
  · subst htuner
    cases type with
    | deviceAvailable => exact absurd ⟨deviceId, rfl⟩ harrival
    | deviceUnavailable => exact absurd ⟨deviceId, rfl⟩ hdeparture
    | streamConfigurationsChanged | other code => rfl
  · rw [if_pos htuner]

/-- A live entry after an event was one before, or is that of a tuner. -/
theorem type_apply (event : TvInputEvent) {table : List DeviceInfo}
    (h : ∀ info ∈ table, info.type = .tuner) : ∀ info ∈ event.apply table, info.type = .tuner := by
  obtain ⟨type, deviceId, deviceType⟩ := event
  unfold TvInputEvent.apply
  split
  · exact h
  cases type with
  | deviceAvailable =>
    intro info hinfo
    dsimp only at hinfo
    split at hinfo
    · rcases List.mem_append.mp hinfo with hinfo | hinfo
      · exact h info hinfo
      · rw [List.mem_singleton.mp hinfo]
    · exact h info hinfo
  | deviceUnavailable => exact fun info hinfo => h info (List.mem_of_mem_eraseIdx hinfo)
  | streamConfigurationsChanged =>
    intro info hinfo
    obtain ⟨i, hi, rfl⟩ := List.getElem_of_mem hinfo
    rw [List.getElem_modify]
    have hlt : i < table.length := by simpa using hi
    have hold := h table[i] (List.getElem_mem hlt)
    split
    · exact hold
    · exact hold
  | other code => exact h

theorem TvHal.TunersOnly.notify {event : TvInputEvent} (hs : s.TunersOnly) (h : Notifies driver event s t) :
    t.TunersOnly := by
  obtain ⟨-, hlive, -⟩ := h
  have hold : ∀ info ∈ s.live, info.type = .tuner := fun info hinfo =>
    hs (info.deviceId, info.type) (List.mem_map_of_mem hinfo)
  intro device hdevice
  obtain ⟨info, hinfo, rfl⟩ := List.mem_map.mp hdevice
  rw [hlive] at hinfo
  exact type_apply event hold info hinfo

theorem deviceIds_notify {event : TvInputEvent} (h : Notifies driver event s t) :
    t.deviceIds = event.list s.deviceIds := by
  obtain ⟨-, hlive, -⟩ := h
  rw [TvHal.deviceIds_eq, TvHal.deviceIds_eq, hlive, deviceIds_apply]

/-! ### Streams -/

theorem keepsDevices_callDevice {α : Type} (call : List HalCall → α × HalCall) :
    Keeps TvHal.devices (callDevice call) := by
  refine (keeps_get _).bind fun s => .ite ?_ (keeps_throw _ _)
  exact Keeps.bind (keeps_modify fun _ => rfl) fun _ => keeps_pure _ _

theorem getDevice_keeps (idx : ℕ) : Keeps TvHal.devices (getDevice idx) := by
  refine (keeps_get _).bind fun s => ?_
  split
  · exact keeps_pure _ _
  · exact keeps_throw _ _

theorem keepsDevices_findDevice (deviceId : Int32) : Keeps TvHal.devices (findDevice deviceId) :=
  (keeps_get _).bind fun _ => (keeps_closed _).search
    (fun _ => (getDevice_keeps _).bind fun _ => keeps_pure _ _) _ _

/-- Which stream acts does not show in the devices. -/
theorem keepsDevices_setActingStreamId (idx : ℕ) (streamId : Int32) :
    Keeps TvHal.devices (setActingStreamId idx streamId) := by
  intro s _ t hrun
  rcases Nat.lt_or_ge idx maxDeviceNum with hidx | hidx
  · rw [setActingStreamId_ok hidx] at hrun
    cases hrun
    rw [TvHal.devices, TvHal.devices, TvHal.setEntry_live, List.map_set]
    rcases Nat.lt_or_ge idx s.live.length with hlt | hge
    · have hnum : idx < s.deviceNum.toNat := hlt.trans_le (List.length_take_le _ _)
      have hentry := s.live_getElem? hnum
      rw [List.getElem?_eq_getElem hlt, Vector.getElem?_eq_getElem hidx, Option.some_inj] at hentry
      have hmap : idx < (s.live.map fun info => (info.deviceId, info.type)).length := by
        rwa [List.length_map]
      have hsame : (s.live.map fun info => (info.deviceId, info.type))[idx] =
          (s.deviceList[idx].deviceId, s.deviceList[idx].type) := by
        rw [List.getElem_map, hentry]
      refine (congrArg _ hsame.symm).trans ?_
      exact List.set_getElem_self hmap
    · refine List.set_eq_of_length_le ?_
      rwa [List.length_map]
  · rw [setActingStreamId_error hidx] at hrun
    cases hrun

theorem keepsDevices_openAndStore (deviceId : Int32) (idx : ℕ) (streamId : Int32) (tvStream : TvStream) :
    Keeps TvHal.devices (openAndStore driver deviceId idx streamId tvStream) := by
  refine (keepsDevices_callDevice _).bind fun answer => .ite (keeps_pure _ _) ?_
  exact (keepsDevices_setActingStreamId _ _).bind fun _ => keeps_pure _ _

theorem keepsDevices_getStream (deviceId : Int32) (tvStream : TvStream) :
    Keeps TvHal.devices (tvInputHalGetStream driver deviceId tvStream) := by
  refine (keepsDevices_callDevice _).bind fun answer => .ite (keeps_pure _ _) ?_
  cases firstVideoConfig answer.2 with
  | none => exact keeps_pure _ _
  | some config =>
    have hopen (idx : ℕ) : Keeps TvHal.devices (openAndStore driver deviceId idx config.streamId
        (tvStream.configure config)) := keepsDevices_openAndStore _ _ _ _
    refine (keepsDevices_findDevice _).bind fun idx => (keeps_get _).bind fun s => ?_
    refine .ite ((getDevice_keeps _).bind fun info => ?_) (hopen idx)
    refine .ite (.ite ?_ (keeps_pure _ _)) (hopen idx)
    exact (keepsDevices_callDevice _).bind fun result => .ite (keeps_pure _ _) (hopen idx)

end Tvd

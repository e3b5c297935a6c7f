import Tvd.Hal.Table

/-! What each function of the TV HAL does, in terms of the live entries and the
call log. An event is a function on the list of live entries and closes at most
one stream; the end of the HAL closes what is acting, entry by entry; asking for a
stream opens one unless it is acting already. -/

namespace Tvd

variable {s : TvHal} {driver : Driver}

/-- The state with another log. -/
def TvHal.withCalls (s : TvHal) (calls : List HalCall) : TvHal := { s with calls }

@[simp] theorem TvHal.withCalls_live (calls : List HalCall) : (s.withCalls calls).live = s.live := rfl

@[simp] theorem TvHal.withCalls_calls (calls : List HalCall) : (s.withCalls calls).calls = calls :=
  rfl

@[simp] theorem TvHal.withCalls_device (calls : List HalCall) :
    (s.withCalls calls).device = s.device := rfl

@[simp] theorem TvHal.withCalls_fits (calls : List HalCall) : (s.withCalls calls).Fits ↔ s.Fits :=
  Iff.rfl

/-! ### Calls through `device` -/

/-- The device a call to the driver is about. -/
def HalCall.target : HalCall → Option Int32
  | .getStreamConfigurations deviceId .. | .openStream deviceId .. | .closeStream deviceId .. =>
    some deviceId
  | .hwGetModule _ | .openModule _ | .initializeDevice _ => none

theorem callDevice_ok {α : Type} (hdev : s.device = true) (call : List HalCall → α × HalCall) :
    callDevice call s = .ok ((call s.calls).1, s.withCall (call s.calls).2) := by
  simp [callDevice, hdev, TvHal.withCall]

theorem callDevice_error {α : Type} (hdev : s.device = false) (call : List HalCall → α × HalCall) :
    callDevice call s = .error .nullPointer := by
  simp [callDevice, hdev]

/-- The log entry of a close, with the driver's answer. -/
def closeCall (driver : Driver) (calls : List HalCall) (deviceId streamId : Int32) : HalCall :=
  .closeStream deviceId streamId (driver.closeStream calls deviceId streamId)

theorem closeStream_ok (hdev : s.device = true) (deviceId streamId : Int32) :
    closeStream driver deviceId streamId s =
      .ok (driver.closeStream s.calls deviceId streamId,
        s.withCall (closeCall driver s.calls deviceId streamId)) := callDevice_ok hdev _

/-! ### Events -/

/-- What an event makes of the list of live entries. -/
def TvInputEvent.apply (event : TvInputEvent) (table : List DeviceInfo) : List DeviceInfo :=
  if event.deviceType ≠ .tuner then table
  else match event.type with
    | .deviceAvailable =>
      if table.length < maxDeviceNum then table ++ [⟨event.deviceId, .tuner, -1⟩] else table
    | .deviceUnavailable => table.eraseIdx (firstIdx event.deviceId table)
    | .streamConfigurationsChanged =>
      table.modify (firstIdx event.deviceId table) ({ · with actingStreamId := -1 })
    | .other _ => table

/-- The live entry whose stream an event closes. -/
def TvInputEvent.closes (event : TvInputEvent) (table : List DeviceInfo) : Option DeviceInfo :=
  if event.deviceType ≠ .tuner then none
  else match event.type with
    | .deviceUnavailable | .streamConfigurationsChanged => table[firstIdx event.deviceId table]?
    | .deviceAvailable | .other _ => none

/-- The log after an event. -/
def TvInputEvent.log (driver : Driver) (event : TvInputEvent) (s : TvHal) : List HalCall :=
  match event.closes s.live with
  | none => s.calls
  | some info => closeCall driver s.calls event.deviceId info.actingStreamId :: s.calls

/-- What is said of a run for an event. -/
def Notifies (driver : Driver) (event : TvInputEvent) (s t : TvHal) : Prop :=
  deviceInitNotify driver event s = .ok ((), t) ∧ t.live = event.apply s.live ∧
    t.calls = event.log driver s ∧ t.device = s.device ∧ t.Fits

/-- A new entry behind the live ones. -/
def TvHal.pushEntry (s : TvHal) (info : DeviceInfo) : TvHal :=
  { s.setEntry s.deviceNum.toNat info with deviceNum := s.deviceNum + 1 }

theorem TvHal.pushEntry_num (hlt : s.deviceNum.toNat < maxDeviceNum) :
    (s.deviceNum + 1).toNat = s.deviceNum.toNat + 1 := by
  have hmax : maxDeviceNum = 100 := rfl
  rw [UInt8.toNat_add, show (1 : UInt8).toNat = 1 by rfl]
  omega

theorem TvHal.pushEntry_live (hlt : s.deviceNum.toNat < maxDeviceNum) (info : DeviceInfo) :
    (s.pushEntry info).live = s.live ++ [info] := by
  have hlen : s.deviceNum.toNat < s.deviceList.toList.length := by rwa [Vector.length_toList]
  have hlist : (s.pushEntry info).deviceList.toList =
      s.deviceList.toList.set s.deviceNum.toNat info := by
    simp [TvHal.pushEntry, TvHal.setEntry]
  rw [TvHal.live, hlist]
  change List.take (s.deviceNum + 1).toNat _ = _
  rw [TvHal.pushEntry_num hlt, List.take_add_one, List.getElem?_set_self hlen,
    List.take_set_of_le le_rfl]
  rfl

theorem TvHal.pushEntry_fits (hlt : s.deviceNum.toNat < maxDeviceNum) (info : DeviceInfo) :
    (s.pushEntry info).Fits := by
  change (s.deviceNum + 1).toNat ≤ maxDeviceNum
  rw [TvHal.pushEntry_num hlt]
  exact hlt

theorem deviceAvailable_ok (hfit : s.Fits) (deviceId : Int32) :
    ∃ t, Notifies driver ⟨.deviceAvailable, deviceId, .tuner⟩ s t := by
  have hlen := hfit.live_length
  by_cases hlt : s.deviceNum.toNat < maxDeviceNum
  · refine ⟨s.pushEntry ⟨deviceId, .tuner, -1⟩, ?_, ?_, rfl, rfl, TvHal.pushEntry_fits hlt _⟩
    · simp only [deviceInitNotify, ne_eq, not_true_eq_false, if_false, Exec.get_bind_apply]
      rw [if_neg (by omega), Exec.bind_ok (setDevice_ok hlt _)]
      rfl
    · rw [TvHal.pushEntry_live hlt]
      simp [TvInputEvent.apply, hlen, hlt]
  · refine ⟨s, ?_, ?_, rfl, rfl, hfit⟩
    · simp only [deviceInitNotify, ne_eq, not_true_eq_false, if_false, Exec.get_bind_apply]
      rw [if_pos (by omega)]
      rfl
    · simp [TvInputEvent.apply, hlen, hlt]

/-- The lookup that both closing events begin with: the device is not listed, or
its first entry is found. -/
theorem lookup_closing (hfit : s.Fits) (deviceId : Int32) :
    (s.live[s.indexOf deviceId]? = none ∧ s.live.length ≤ s.indexOf deviceId ∧
      s.deviceNum.toNat ≤ s.indexOf deviceId) ∨
    ∃ h : s.indexOf deviceId < s.live.length, ¬s.deviceNum.toNat ≤ s.indexOf deviceId ∧
      s.live[s.indexOf deviceId]? = some s.live[s.indexOf deviceId] := by
  have hlen := hfit.live_length
  by_cases h : s.indexOf deviceId < s.live.length
  · exact .inr ⟨h, by omega, List.getElem?_eq_getElem h⟩
  · exact .inl ⟨List.getElem?_eq_none (by omega), by omega, by omega⟩

/-- Both events that close close the stream of the device, if it is listed, and
then change the table at its entry. -/
def closeListed (driver : Driver) (deviceId : Int32) (change : ℕ → HalM Unit) : HalM Unit := do
  let idx ← findDevice deviceId
  let s ← Exec.get
  if s.deviceNum.toNat ≤ idx then return
  let info ← getDevice idx
  let _ ← closeStream driver deviceId info.actingStreamId
  change idx

section

variable {deviceId : Int32} {change : ℕ → HalM Unit}

theorem deviceInitNotify_unavailable : deviceInitNotify driver ⟨.deviceUnavailable, deviceId, .tuner⟩ =
    closeListed driver deviceId removeDeviceByIdx := rfl

theorem deviceInitNotify_changed : deviceInitNotify driver ⟨.streamConfigurationsChanged, deviceId, .tuner⟩ =
    closeListed driver deviceId fun idx => setActingStreamId idx (-1) := rfl

theorem closeListed_unlisted (hfit : s.Fits) (hge : s.deviceNum.toNat ≤ s.indexOf deviceId) :
    closeListed driver deviceId change s = .ok ((), s) := by
  rw [closeListed, Exec.bind_ok (findDevice_ok hfit deviceId), Exec.get_bind_apply, if_pos hge]
  rfl

theorem closeListed_listed (hfit : s.Fits) (h : s.indexOf deviceId < s.live.length) :
    closeListed driver deviceId change s = (do
      let _ ← closeStream driver deviceId s.live[s.indexOf deviceId].actingStreamId
      change (s.indexOf deviceId)) s := by
  have hlt : ¬s.deviceNum.toNat ≤ s.indexOf deviceId := by
    rw [← hfit.live_length]
    exact Nat.not_le_of_lt h
  rw [closeListed, Exec.bind_ok (findDevice_ok hfit deviceId), Exec.get_bind_apply, if_neg hlt,
    Exec.bind_ok (getDevice_live hfit h)]

end

/-- An event that closes is as it says if the change is. -/
theorem closeListed_notifies (hfit : s.Fits) {event : TvInputEvent} {change : ℕ → HalM Unit}
    (hrun : deviceInitNotify driver event = closeListed driver event.deviceId change)
    (hcloses : event.closes s.live = s.live[s.indexOf event.deviceId]?)
    (hdev : event.closes s.live ≠ none → s.device = true)
    (hunlisted : s.live.length ≤ s.indexOf event.deviceId → event.apply s.live = s.live)
    (hchange : ∀ call, s.indexOf event.deviceId < s.live.length → ∃ t,
      change (s.indexOf event.deviceId) (s.withCall call) = .ok ((), t) ∧ t.live = event.apply s.live ∧
        t.calls = call :: s.calls ∧ t.device = s.device ∧ t.Fits) :
    ∃ t, Notifies driver event s t := by
  unfold Notifies
  rw [hrun, TvInputEvent.log]
  rcases lookup_closing hfit event.deviceId with ⟨hnone, hlen, hge⟩ | ⟨h, -, hsome⟩
  · rw [hcloses, hnone]
    exact ⟨s, closeListed_unlisted hfit hge, (hunlisted hlen).symm, rfl, rfl, hfit⟩
  · have hopen : s.device = true := by
      refine hdev ?_
      rw [hcloses, hsome]
      exact Option.some_ne_none _
    obtain ⟨t, hchanged, hkept⟩ := hchange (closeCall driver s.calls event.deviceId
      s.live[s.indexOf event.deviceId].actingStreamId) h
    rw [hcloses, hsome]
    refine ⟨t, ?_, hkept⟩
    rw [closeListed_listed hfit h, Exec.bind_ok (closeStream_ok hopen _ _), hchanged]

theorem deviceUnavailable_ok (hfit : s.Fits) (deviceId : Int32)
    (hdev : s.live[s.indexOf deviceId]? ≠ none → s.device = true) :
    ∃ t, Notifies driver ⟨.deviceUnavailable, deviceId, .tuner⟩ s t := by
  refine closeListed_notifies hfit deviceInitNotify_unavailable rfl hdev
    (fun hlen => List.eraseIdx_of_length_le hlen) fun call h => ?_
  rw [hfit.live_length] at h
  exact removeDeviceByIdx_ok (s := s.withCall call) hfit h

theorem streamConfigurationsChanged_ok (hfit : s.Fits) (deviceId : Int32)
    (hdev : s.live[s.indexOf deviceId]? ≠ none → s.device = true) :
    ∃ t, Notifies driver ⟨.streamConfigurationsChanged, deviceId, .tuner⟩ s t := by
  refine closeListed_notifies hfit deviceInitNotify_changed rfl hdev
    (fun hlen => List.modify_eq_self hlen) fun call h => ?_
  let idle : DeviceInfo := { s.live[s.indexOf deviceId] with actingStreamId := -1 }
  refine ⟨(s.withCall call).setEntry (s.indexOf deviceId) idle,
    setActingStreamId_live (s := s.withCall call) hfit h (-1), ?_, rfl, rfl, hfit⟩
  rw [TvHal.setEntry_live]
  exact (List.modify_eq_set_get (fun info => { info with actingStreamId := -1 }) h).symm

/-- An event does to the live entries and to the log what it says, provided the
device is open when a stream is to be closed. -/
theorem deviceInitNotify_ok (hfit : s.Fits) (event : TvInputEvent)
    (hdev : event.closes s.live ≠ none → s.device = true) :
    ∃ t, Notifies driver event s t := by
  obtain ⟨type, deviceId, deviceType⟩ := event
  by_cases htuner : deviceType = .tuner
  · subst htuner
    cases type with
    | deviceAvailable => exact deviceAvailable_ok hfit deviceId
    | deviceUnavailable => exact deviceUnavailable_ok hfit deviceId hdev
    | streamConfigurationsChanged => exact streamConfigurationsChanged_ok hfit deviceId hdev
    | other code => exact ⟨s, rfl, rfl, rfl, rfl, hfit⟩
  · refine ⟨s, ?_, ?_, ?_, rfl, hfit⟩
    · cases type <;> simp [deviceInitNotify, htuner]
    · simp [TvInputEvent.apply, htuner]
    · simp [TvInputEvent.log, TvInputEvent.closes, htuner]

/-- Without an open device, an event that closes a stream crashes. -/
theorem deviceInitNotify_error (hfit : s.Fits) {event : TvInputEvent}
    (hcloses : event.closes s.live ≠ none) (hdev : s.device = false) :
    deviceInitNotify driver event s = .error .nullPointer := by
  obtain ⟨type, deviceId, deviceType⟩ := event
  have htuner : deviceType = .tuner := by
    by_contra h
    exact hcloses (by simp [TvInputEvent.closes, h])
  subst htuner
  have hcrash {change : ℕ → HalM Unit} (hlisted : s.live[s.indexOf deviceId]? ≠ none) :
      closeListed driver deviceId change s = .error .nullPointer := by
    rcases lookup_closing hfit deviceId with ⟨hnone, -⟩ | ⟨h, -⟩
    · exact absurd hnone hlisted
    · rw [closeListed_listed hfit h]
      exact Exec.bind_error (callDevice_error hdev _) _
  cases type with
  | deviceAvailable => exact absurd rfl hcloses
  | other code => exact absurd rfl hcloses
  | deviceUnavailable => exact hcrash hcloses
  | streamConfigurationsChanged => exact hcrash hcloses

theorem notifies_of_ok (hfit : s.Fits) {event : TvInputEvent} {t : TvHal}
    (h : deviceInitNotify driver event s = .ok ((), t)) : Notifies driver event s t := by
  have hdev : event.closes s.live ≠ none → s.device = true := by
    intro hcloses
    by_contra hdev
    rw [deviceInitNotify_error hfit hcloses (by simpa using hdev)] at h
    cases h
  obtain ⟨u, hu⟩ : ∃ u, Notifies driver event s u := deviceInitNotify_ok hfit event hdev
  have hrun := hu.1
  rw [h] at hrun
  cases hrun
  exact hu

/-! ### Opening and closing the HAL -/

/-- The call neither opens nor closes a stream. -/
def HalCall.Setup : HalCall → Prop
  | .hwGetModule _ | .openModule _ | .initializeDevice _ | .getStreamConfigurations .. => True
  | .openStream .. | .closeStream .. => False

/-- Opening the HAL empties the list; on success the device is open. -/
theorem tvInputHalInit_ok (driver : Driver) (s : TvHal) :
    ∃ r t setup, tvInputHalInit driver s = .ok (r, t) ∧ t.live = [] ∧ t.Fits ∧
      t.calls = setup ++ s.calls ∧ (∀ call ∈ setup, call.Setup) ∧
      (r = tvStatusSuccess → t.device = true) := by
  have hlive (t : TvHal) (h : t.deviceNum = 0) : t.live = [] := by
    simp [TvHal.live, h]
  have hfits (t : TvHal) (h : t.deviceNum = 0) : t.Fits := by
    simp [TvHal.Fits, h]
  let calls₁ := HalCall.hwGetModule (driver.hwGetModule s.calls) :: s.calls
  let calls₂ := HalCall.openModule (driver.openModule calls₁) :: calls₁
  let calls₃ := HalCall.initializeDevice (driver.initializeDevice calls₂) :: calls₂
  unfold tvInputHalInit
  simp only [Exec.modify_bind_apply, Exec.get_bind_apply]
  by_cases hmodule : driver.hwGetModule s.calls = 0
  case neg =>
    rw [if_pos hmodule]
    exact ⟨_, _, [_], rfl, hlive _ rfl, hfits _ rfl, rfl, by simp [HalCall.Setup],
      fun h => absurd h (by decide)⟩
  rw [if_neg (not_not.mpr hmodule)]
  simp only [Exec.modify_bind_apply, Exec.get_bind_apply]
  by_cases hopen : driver.openModule calls₁ = 0
  case neg =>
    rw [if_pos hopen]
    exact ⟨_, _, [_, _], rfl, hlive _ rfl, hfits _ rfl, rfl, by simp [HalCall.Setup],
      fun h => absurd h (by decide)⟩
  rw [if_neg (not_not.mpr hopen)]
  refine ⟨tvStatusSuccess, ⟨true, true, 0, s.deviceList, calls₃⟩, [_, _, _], ?_, hlive _ rfl,
    hfits _ rfl, rfl, by simp [HalCall.Setup], fun _ => rfl⟩
  have hopen' : driver.openModule (.hwGetModule 0 :: s.calls) = 0 := by
    simpa [calls₁, hmodule] using hopen
  rw [initializeDevice, Exec.bind_ok (callDevice_ok (by simpa using hopen) _),
    if_neg (not_not.mpr hopen)]
  simp [TvHal.withCall, hmodule, hopen', calls₁, calls₂, calls₃]

/-- The same of a result. -/
theorem tvInputHalInit_spec {r : UInt8} {t : TvHal} (h : tvInputHalInit driver s = .ok (r, t)) :
    t.live = [] ∧ t.Fits ∧ (∃ setup, t.calls = setup ++ s.calls ∧ ∀ call ∈ setup, call.Setup) ∧
      (r = tvStatusSuccess → t.device = true) := by
  obtain ⟨r', t', setup, hok, hlive, hfit, hcalls, hsetup, hdevice⟩ := tvInputHalInit_ok driver s
  cases hok.symm.trans h
  exact ⟨hlive, hfit, ⟨setup, hcalls, hsetup⟩, hdevice⟩

/-- The log after closing what is acting, entry by entry. -/
def closeActing (driver : Driver) : List DeviceInfo → List HalCall → List HalCall
  | [], calls => calls
  | info :: table, calls => closeActing driver table
    (if info.actingStreamId ≠ -1 then
      closeCall driver calls info.deviceId info.actingStreamId :: calls else calls)

theorem closeActing_of_idle {table : List DeviceInfo}
    (h : ∀ info ∈ table, info.actingStreamId = -1) (calls : List HalCall) :
    closeActing driver table calls = calls := by
  induction table with
  | nil => rfl
  | cons info table ih =>
    rw [closeActing, if_neg (not_not.mpr (h info List.mem_cons_self))]
    exact ih fun other hother => h other (List.mem_cons_of_mem _ hother)

/-- The body of the loop of `tv_input_hal_uninit`. -/
def uninitBody (driver : Driver) (idx : ℕ) : HalM Unit := do
  let info ← getDevice idx
  if info.actingStreamId ≠ -1 then
    let _ ← closeStream driver info.deviceId info.actingStreamId

theorem uninitBody_idle (hfit : s.Fits) {idx : ℕ} (h : idx < s.live.length)
    (hidle : s.live[idx].actingStreamId = -1) : uninitBody driver idx s = .ok ((), s) := by
  rw [uninitBody, Exec.bind_ok (getDevice_live hfit h), if_neg (not_not.mpr hidle)]
  rfl

theorem uninitBody_acting (hfit : s.Fits) (hdev : s.device = true) {idx : ℕ}
    (h : idx < s.live.length) (hacting : s.live[idx].actingStreamId ≠ -1) :
    uninitBody driver idx s = .ok ((), s.withCall
      (closeCall driver s.calls s.live[idx].deviceId s.live[idx].actingStreamId)) := by
  rw [uninitBody, Exec.bind_ok (getDevice_live hfit h), if_pos hacting,
    Exec.bind_ok (closeStream_ok hdev _ _)]
  rfl

theorem uninitBody_error (hfit : s.Fits) (hdev : s.device = false) {idx : ℕ}
    (h : idx < s.live.length) (hacting : s.live[idx].actingStreamId ≠ -1) :
    uninitBody driver idx s = .error .nullPointer := by
  rw [uninitBody, Exec.bind_ok (getDevice_live hfit h), if_pos hacting]
  exact Exec.bind_error (callDevice_error hdev _) _

theorem uninitLoop_ok (n : ℕ) : ∀ (idx : ℕ) (s : TvHal), s.Fits → s.device = true →
    idx + n = s.live.length → Exec.forRange (uninitBody driver) n idx s =
      .ok ((), s.withCalls (closeActing driver (s.live.drop idx) s.calls)) := by
  induction n with
  | zero =>
    intro idx s hfit _ hlen
    rw [List.drop_of_length_le (by omega)]
    rfl
  | succ n ih =>
    intro idx s hfit hdev hlen
    have hidx : idx < s.live.length := by omega
    rw [List.drop_eq_getElem_cons hidx, closeActing, Exec.forRange]
    by_cases hacting : s.live[idx].actingStreamId = -1
    · rw [Exec.bind_ok (uninitBody_idle hfit hidx hacting), if_neg (not_not.mpr hacting)]
      exact ih (idx + 1) s hfit hdev (by omega)
    · rw [Exec.bind_ok (uninitBody_acting hfit hdev hidx hacting), if_pos hacting]
      exact ih (idx + 1) (s.withCall _) hfit hdev (by simpa using by omega)

/-- Without an open device, the loop gets past idle entries only. -/
theorem uninitLoop_noDevice (n : ℕ) : ∀ idx, s.Fits → s.device = false →
    idx + n = s.live.length → ∀ r, Exec.forRange (uninitBody driver) n idx s = .ok r →
      r = ((), s) ∧ ∀ info ∈ s.live.drop idx, info.actingStreamId = -1 := by
  induction n with
  | zero =>
    intro idx _ _ hlen r h
    cases h
    rw [List.drop_of_length_le (by omega)]
    exact ⟨rfl, fun _ hinfo => absurd hinfo List.not_mem_nil⟩
  | succ n ih =>
    intro idx hfit hdev hlen r h
    have hidx : idx < s.live.length := by omega
    rw [Exec.forRange] at h
    by_cases hacting : s.live[idx].actingStreamId = -1
    · rw [Exec.bind_ok (uninitBody_idle hfit hidx hacting)] at h
      obtain ⟨hr, hidle⟩ := ih (idx + 1) hfit hdev (by omega) r h
      refine ⟨hr, ?_⟩
      rw [List.drop_eq_getElem_cons hidx, List.forall_mem_cons]
      exact ⟨hacting, hidle⟩
    · rw [Exec.bind_error (uninitBody_error hfit hdev hidx hacting)] at h
      cases h

/-- Closing the HAL closes every acting stream and leaves the list as it is. -/
theorem tvInputHalUninit_ok (hfit : s.Fits) (hdev : s.device = true) :
    tvInputHalUninit driver s =
      .ok (tvStatusSuccess, s.withCalls (closeActing driver s.live s.calls)) := by
  have hlen := hfit.live_length
  rw [tvInputHalUninit, Exec.get_bind_apply]
  exact Exec.bind_ok (uninitLoop_ok s.deviceNum.toNat 0 s hfit hdev (by omega)) _

theorem tvInputHalUninit_eq (hfit : s.Fits) {r : UInt8 × TvHal}
    (h : tvInputHalUninit driver s = .ok r) :
    r = (tvStatusSuccess, s.withCalls (closeActing driver s.live s.calls)) := by
  have hlen := hfit.live_length
  cases hdev : s.device with
  | true =>
    rw [tvInputHalUninit_ok hfit hdev] at h
    cases h
    rfl
  | false =>
    rw [tvInputHalUninit, Exec.get_bind_apply] at h
    obtain ⟨a, t, hloop, hpure⟩ := Exec.bind_eq_ok.mp h
    obtain ⟨heq, hidle⟩ := uninitLoop_noDevice s.deviceNum.toNat 0 hfit hdev (by omega) _ hloop
    cases heq
    cases hpure
    rw [List.drop_zero] at hidle
    rw [closeActing_of_idle hidle]
    rfl

/-! ### Asking for a stream -/

/-- The stream that the driver offers for a device: its first independent-video
configuration, if it has one to give. -/
def offered (driver : Driver) (s : TvHal) (deviceId : Int32) : Option TvStreamConfig :=
  let answer := driver.getStreamConfigurations s.calls deviceId
  if answer.1 = 0 then firstVideoConfig answer.2 else none

/-- The state once the driver was asked for configurations. -/
def TvHal.asked (driver : Driver) (s : TvHal) (deviceId : Int32) : TvHal :=
  let answer := driver.getStreamConfigurations s.calls deviceId
  s.withCall (.getStreamConfigurations deviceId answer.1 answer.2)

/-- The state once a stream was closed. -/
def TvHal.closed (driver : Driver) (s : TvHal) (deviceId streamId : Int32) : TvHal :=
  s.withCall (closeCall driver s.calls deviceId streamId)

/-- The state once a stream was asked to be opened. -/
def TvHal.opened (driver : Driver) (s : TvHal) (deviceId streamId : Int32) : TvHal :=
  let answer := driver.openStream s.calls deviceId streamId
  s.withCall (.openStream deviceId streamId answer.1 answer.2)

section simp

variable (deviceId streamId : Int32)

@[simp] theorem TvHal.asked_live : (s.asked driver deviceId).live = s.live := rfl
@[simp] theorem TvHal.asked_device : (s.asked driver deviceId).device = s.device := rfl
@[simp] theorem TvHal.asked_fits : (s.asked driver deviceId).Fits ↔ s.Fits := Iff.rfl
@[simp] theorem TvHal.asked_deviceNum : (s.asked driver deviceId).deviceNum = s.deviceNum := rfl
@[simp] theorem TvHal.asked_deviceList : (s.asked driver deviceId).deviceList = s.deviceList := rfl
@[simp] theorem TvHal.closed_live : (s.closed driver deviceId streamId).live = s.live := rfl
@[simp] theorem TvHal.closed_device : (s.closed driver deviceId streamId).device = s.device := rfl
@[simp] theorem TvHal.closed_fits : (s.closed driver deviceId streamId).Fits ↔ s.Fits := Iff.rfl
@[simp] theorem TvHal.closed_deviceNum :
    (s.closed driver deviceId streamId).deviceNum = s.deviceNum := rfl
@[simp] theorem TvHal.closed_deviceList :
    (s.closed driver deviceId streamId).deviceList = s.deviceList := rfl
@[simp] theorem TvHal.opened_live : (s.opened driver deviceId streamId).live = s.live := rfl
@[simp] theorem TvHal.opened_device : (s.opened driver deviceId streamId).device = s.device := rfl
@[simp] theorem TvHal.opened_fits : (s.opened driver deviceId streamId).Fits ↔ s.Fits := Iff.rfl
@[simp] theorem TvHal.opened_deviceNum :
    (s.opened driver deviceId streamId).deviceNum = s.deviceNum := rfl
@[simp] theorem TvHal.opened_deviceList :
    (s.opened driver deviceId streamId).deviceList = s.deviceList := rfl

end simp

theorem firstVideoConfig_type {configs : List TvStreamConfig} {config : TvStreamConfig}
    (h : firstVideoConfig configs = some config) : config.type = .independentVideoSource := by
  have hp := List.find?_some h
  simpa using hp

theorem offered_type {deviceId : Int32} {config : TvStreamConfig}
    (h : offered driver s deviceId = some config) : config.type = .independentVideoSource := by
  unfold offered at h
  dsimp only at h
  split at h
  · exact firstVideoConfig_type h
  · cases h

/-- What a stream looks like once an independent-video configuration is stored. -/
theorem TvStream.configure_of_video {config : TvStreamConfig}
    (h : config.type = .independentVideoSource) (tvStream : TvStream) :
    tvStream.configure config =
      { tvStream with type := some .independentVideoSource, streamId := some config.streamId } := by
  simp [TvStream.configure, h]

/-- A stream whose handle the driver filled in. -/
def TvStream.withHandle (tvStream : TvStream) (handle : NativeHandle) : TvStream :=
  { tvStream with sidebandStreamSourceHandle := some handle }

theorem openAndStore_fail (hdev : s.device = true) {deviceId streamId : Int32}
    (herr : (driver.openStream s.calls deviceId streamId).1 ≠ 0) (idx : ℕ) (tvStream : TvStream) :
    openAndStore driver deviceId idx streamId tvStream s =
      .ok ((tvStatusFail, tvStream), s.opened driver deviceId streamId) := by
  rw [openAndStore, openStream, Exec.bind_ok (callDevice_ok hdev _)]
  simp [herr, TvHal.opened]

theorem openAndStore_ok (hdev : s.device = true) {deviceId streamId : Int32}
    (hok : (driver.openStream s.calls deviceId streamId).1 = 0) (idx : ℕ) (tvStream : TvStream) :
    openAndStore driver deviceId idx streamId tvStream s = (do
      setActingStreamId idx streamId
      return (tvStatusSuccess, tvStream.withHandle (driver.openStream s.calls deviceId streamId).2))
      (s.opened driver deviceId streamId) := by
  rw [openAndStore, openStream, Exec.bind_ok (callDevice_ok hdev _)]
  simp [hok, TvHal.opened, TvStream.withHandle]

/-- Opening a stream for a listed device. -/
theorem openAndStore_listed (hfit : s.Fits) (hdev : s.device = true) {idx : ℕ}
    (h : idx < s.live.length) (deviceId streamId : Int32) (tvStream : TvStream) :
    openAndStore driver deviceId idx streamId tvStream s =
      let answer := driver.openStream s.calls deviceId streamId
      if answer.1 = 0 then .ok ((tvStatusSuccess, tvStream.withHandle answer.2),
        (s.opened driver deviceId streamId).setEntry idx
          { s.live[idx] with actingStreamId := streamId })
      else .ok ((tvStatusFail, tvStream), s.opened driver deviceId streamId) := by
  dsimp only
  by_cases hok : (driver.openStream s.calls deviceId streamId).1 = 0
  · have hset : setActingStreamId idx streamId (s.opened driver deviceId streamId) = .ok ((),
        (s.opened driver deviceId streamId).setEntry idx
          { s.live[idx] with actingStreamId := streamId }) :=
      setActingStreamId_live (s := s.opened driver deviceId streamId) hfit h streamId
    rw [if_pos hok, openAndStore_ok hdev hok, Exec.bind_ok hset]
    rfl
  · rw [if_neg hok, openAndStore_fail hdev hok]

/-- Opening a stream and storing its id, by the driver's answer. -/
theorem openAndStore_cases (hdev : s.device = true) {deviceId streamId : Int32} {idx : ℕ}
    {tvStream : TvStream} {r : UInt8 × TvStream} {t : TvHal}
    (h : openAndStore driver deviceId idx streamId tvStream s = .ok (r, t)) :
    ((driver.openStream s.calls deviceId streamId).1 ≠ 0 ∧ r.1 = tvStatusFail ∧
      t = s.opened driver deviceId streamId) ∨
    ((driver.openStream s.calls deviceId streamId).1 = 0 ∧ r.1 = tvStatusSuccess ∧
      ∃ info, t = (s.opened driver deviceId streamId).setEntry idx info) := by
  by_cases hok : (driver.openStream s.calls deviceId streamId).1 = 0
  · rw [openAndStore_ok hdev hok] at h
    rcases Nat.lt_or_ge idx maxDeviceNum with hlt | hge
    · rw [Exec.bind_ok (setActingStreamId_ok hlt _)] at h
      cases h
      exact .inr ⟨hok, rfl, _, rfl⟩
    · rw [Exec.bind_error (setActingStreamId_error hge _)] at h
      cases h
  · rw [openAndStore_fail hdev hok] at h
    cases h
    exact .inl ⟨hok, rfl, rfl⟩

/-- `tv_input_hal_get_stream` by cases: what the driver offers, whether the
device is listed, what its first entry is acting on, and whether that closes. -/
theorem tvInputHalGetStream_eq (hfit : s.Fits) (hdev : s.device = true) (deviceId : Int32)
    (tvStream : TvStream) :
    tvInputHalGetStream driver deviceId tvStream s =
      match offered driver s deviceId with
      | none => .ok ((tvStatusFail, tvStream), s.asked driver deviceId)
      | some config =>
        let stream := tvStream.configure config
        let t := s.asked driver deviceId
        match s.live[s.indexOf deviceId]? with
        | none => openAndStore driver deviceId s.deviceNum.toNat config.streamId stream t
        | some info =>
          if info.actingStreamId = -1 then
            openAndStore driver deviceId (s.indexOf deviceId) config.streamId stream t
          else if info.actingStreamId = config.streamId then .ok ((tvStatusSuccess, stream), t)
          else if driver.closeStream t.calls deviceId info.actingStreamId ≠ 0 then
            .ok ((tvStatusFail, stream), t.closed driver deviceId info.actingStreamId)
          else openAndStore driver deviceId (s.indexOf deviceId) config.streamId stream
            (t.closed driver deviceId info.actingStreamId) := by
  have hfit' : (s.asked driver deviceId).Fits := hfit
  have hdev' : (s.asked driver deviceId).device = true := hdev
  have hask : getStreamConfigurations driver deviceId s =
      .ok (driver.getStreamConfigurations s.calls deviceId, s.asked driver deviceId) :=
    callDevice_ok hdev _
  rw [tvInputHalGetStream, Exec.bind_ok hask, offered]
  dsimp only
  by_cases herr : (driver.getStreamConfigurations s.calls deviceId).1 = 0
  case neg =>
    rw [if_pos herr, if_neg herr]
    rfl
  rw [if_neg (not_not.mpr herr), if_pos herr]
  cases firstVideoConfig (driver.getStreamConfigurations s.calls deviceId).2 with
  | none => rfl
  | some config =>
    dsimp only
    rw [Exec.bind_ok (findDevice_ok hfit' deviceId), Exec.get_bind_apply]
    have hlen := hfit.live_length
    have hindex : (s.asked driver deviceId).indexOf deviceId = s.indexOf deviceId := rfl
    rw [hindex, TvHal.asked_deviceNum]
    rcases lookup_closing hfit deviceId with ⟨hnone, -, hge⟩ | ⟨h, hlt, hsome⟩
    · have hle : s.indexOf deviceId ≤ s.live.length := firstIdx_le deviceId s.live
      have hnum : s.indexOf deviceId = s.deviceNum.toNat := by omega
      rw [if_neg (Nat.not_lt.mpr hge), hnone, hnum]
    · have hlisted : s.live[s.indexOf deviceId].deviceId = deviceId := getElem_firstIdx h
      have hget : getDevice (s.indexOf deviceId) (s.asked driver deviceId) =
          .ok (s.live[s.indexOf deviceId], s.asked driver deviceId) := getDevice_live hfit' h
      rw [if_pos (Nat.lt_of_not_le hlt), Exec.bind_ok hget, hsome, hlisted]
      dsimp only
      by_cases hidle : s.live[s.indexOf deviceId].actingStreamId = -1
      · rw [if_neg (not_not.mpr hidle), if_pos hidle]
      · rw [if_pos hidle, if_neg hidle]
        by_cases hacting : s.live[s.indexOf deviceId].actingStreamId = config.streamId
        · rw [if_neg (not_not.mpr hacting), if_pos hacting]
          rfl
        · rw [if_pos hacting, if_neg hacting, Exec.bind_ok (closeStream_ok hdev' _ _)]
          by_cases hclose : driver.closeStream (s.asked driver deviceId).calls deviceId
              s.live[s.indexOf deviceId].actingStreamId = 0
          · rw [if_neg (not_not.mpr hclose), if_neg (not_not.mpr hclose)]
            rfl
          · rw [if_pos hclose, if_pos hclose]
            rfl

/-- For a listed device that is idle the offered stream is opened. -/
theorem tvInputHalGetStream_idleEntry (hfit : s.Fits) (hdev : s.device = true) {deviceId : Int32}
    {config : TvStreamConfig} {info : DeviceInfo} {handle : NativeHandle}
    (hoffer : offered driver s deviceId = some config) (hentry : s.live[s.indexOf deviceId]? = some info)
    (hidle : info.actingStreamId = -1)
    (hopen : driver.openStream (s.asked driver deviceId).calls deviceId config.streamId = (0, handle))
    (tvStream : TvStream) : ∃ t, tvInputHalGetStream driver deviceId tvStream s =
      .ok ((tvStatusSuccess, (tvStream.configure config).withHandle handle), t) := by
  have hdev' : (s.asked driver deviceId).device = true := hdev
  rw [tvInputHalGetStream_eq hfit hdev, hoffer, hentry]
  dsimp only
  rw [if_pos hidle, openAndStore_ok hdev' (by rw [hopen]),
    Exec.bind_ok (setActingStreamId_ok (hfit.lt_max hentry) _), hopen]
  exact ⟨_, rfl⟩

theorem tvInputHalGetStream_error (hdev : s.device = false) (deviceId : Int32)
    (tvStream : TvStream) : tvInputHalGetStream driver deviceId tvStream s = .error .nullPointer :=
  Exec.bind_error (callDevice_error hdev _) _

theorem device_of_getStream {deviceId : Int32} {tvStream : TvStream}
    {r : (UInt8 × TvStream) × TvHal}
    (h : tvInputHalGetStream driver deviceId tvStream s = .ok r) : s.device = true := by
  by_contra hdev
  rw [tvInputHalGetStream_error (by simpa using hdev)] at h
  cases h

end Tvd

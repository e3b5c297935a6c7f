import Tvd.Hal.Queries
import Tvd.Hal.Rules
import Tvd.Hal.Streams

/-! When the driver's device is open. Opening the HAL sets the pointer anew, so it is
set exactly when the last attempt got a device, whatever was opened before. Everything
else leaves the pointer alone, and fails on NULL only where a stream is to be closed or
asked for. -/

namespace Tvd

open Exec

variable {s t : TvHal} {driver : Driver} {deviceId : Int32}

/-! ### The last attempt -/

/-- The last attempt to open the HAL got a device. -/
def LastOpened : List HalCall → Prop
  | [] => False
  | .openModule err :: _ => err = 0
  | .hwGetModule _ :: _ => False
  | .initializeDevice _ :: calls => LastOpened calls
  | .getStreamConfigurations .. :: calls => LastOpened calls
  | .openStream .. :: calls => LastOpened calls
  | .closeStream .. :: calls => LastOpened calls

instance decidableLastOpened : (calls : List HalCall) → Decidable (LastOpened calls)
  | [] => inferInstanceAs (Decidable False)
  | .openModule err :: _ => inferInstanceAs (Decidable (err = 0))
  | .hwGetModule _ :: _ => inferInstanceAs (Decidable False)
  | .initializeDevice _ :: calls => decidableLastOpened calls
  | .getStreamConfigurations .. :: calls => decidableLastOpened calls
  | .openStream .. :: calls => decidableLastOpened calls
  | .closeStream .. :: calls => decidableLastOpened calls

/-- The call uses an open device. -/
def HalCall.Use : HalCall → Prop
  | .hwGetModule _ | .openModule _ | .initializeDevice _ => False
  | .getStreamConfigurations .. | .openStream .. | .closeStream .. => True

/-- The device was at most used. -/
structure TvHal.UsedBy (s t : TvHal) : Prop where
  device : t.device = s.device
  calls : ∃ uses, t.calls = uses ++ s.calls ∧ ∀ call ∈ uses, call.Use

theorem lastOpened_uses {uses : List HalCall} (h : ∀ call ∈ uses, call.Use) (calls : List HalCall) :
    LastOpened (uses ++ calls) ↔ LastOpened calls := by
  induction uses with
  | nil => rfl
  | cons call uses ih =>
    have huse := h call List.mem_cons_self
    have hrest := ih fun other hother => h other (List.mem_cons_of_mem _ hother)
    cases call with
    | hwGetModule | openModule | initializeDevice => exact huse.elim
    | getStreamConfigurations | openStream | closeStream => exact hrest

namespace TvHal.UsedBy

theorem lastOpened (h : s.UsedBy t) : LastOpened t.calls ↔ LastOpened s.calls := by
  obtain ⟨uses, hcalls, huses⟩ := h.calls
  rw [hcalls]
  exact lastOpened_uses huses s.calls

theorem initialized (h : s.UsedBy t) {err : Int32} :
    .initializeDevice err ∈ t.calls ↔ .initializeDevice err ∈ s.calls := by
  obtain ⟨uses, hcalls, huses⟩ := h.calls
  rw [hcalls, List.mem_append, or_iff_right]
  exact fun hmem => huses _ hmem

theorem trans {u : TvHal} (h : s.UsedBy t) (h' : t.UsedBy u) : s.UsedBy u := by
  obtain ⟨uses, hcalls, huses⟩ := h.calls
  obtain ⟨uses', hcalls', huses'⟩ := h'.calls
  refine ⟨h'.device.trans h.device, uses' ++ uses, ?_, fun call hcall => ?_⟩
  · rw [hcalls', hcalls, List.append_assoc]
  · exact (List.mem_append.mp hcall).elim (huses' call) (huses call)

theorem of_call (s : TvHal) (call : HalCall) (h : call.Use) : s.UsedBy (s.withCall call) := by
  refine ⟨rfl, [call], rfl, fun other hother => ?_⟩
  rwa [List.mem_singleton.mp hother]

theorem asked (s : TvHal) : s.UsedBy (s.asked driver deviceId) := of_call s _ trivial

theorem closed (s : TvHal) (streamId : Int32) : s.UsedBy (s.closed driver deviceId streamId) :=
  of_call s _ trivial

theorem opened (s : TvHal) (streamId : Int32) : s.UsedBy (s.opened driver deviceId streamId) :=
  of_call s _ trivial

theorem openAndStore (hdev : s.device = true) {idx : ℕ} {streamId : Int32} {tvStream : TvStream}
    {r : UInt8 × TvStream} (h : openAndStore driver deviceId idx streamId tvStream s = .ok (r, t)) :
    s.UsedBy t := by
  rcases openAndStore_cases hdev h with ⟨-, -, rfl⟩ | ⟨-, -, info, rfl⟩
  · exact opened s streamId
  · exact ⟨rfl, (opened s streamId).calls⟩

theorem getStream (hfit : s.Fits) {tvStream : TvStream} {r : UInt8 × TvStream}
    (h : tvInputHalGetStream driver deviceId tvStream s = .ok (r, t)) : s.UsedBy t := by
  have hdev : s.device = true := device_of_getStream h
  have hasked : s.UsedBy (s.asked driver deviceId) := asked s
  rw [tvInputHalGetStream_eq hfit hdev] at h
  cases hoffer : offered driver s deviceId with
  | none =>
    rw [hoffer] at h
    cases h
    exact hasked
  | some config =>
    rw [hoffer] at h
    dsimp only at h
    split at h
    · exact hasked.trans (openAndStore (s := s.asked driver deviceId) hdev h)
    · split at h
      · exact hasked.trans (openAndStore (s := s.asked driver deviceId) hdev h)
      · split at h
        · cases h
          exact hasked
        · split at h
          · cases h
            exact hasked.trans (closed _ _)
          · exact hasked.trans ((closed _ _).trans
              (openAndStore (s := (s.asked driver deviceId).closed ..) hdev h))

theorem closeActing (table : List DeviceInfo) (calls : List HalCall) :
    ∃ uses, closeActing driver table calls = uses ++ calls ∧ ∀ call ∈ uses, call.Use := by
  induction table generalizing calls with
  | nil => exact ⟨[], rfl, fun _ h => absurd h List.not_mem_nil⟩
  | cons info table ih =>
    rw [Tvd.closeActing]
    by_cases hacting : info.actingStreamId = -1
    · rw [if_neg (not_not.mpr hacting)]
      exact ih calls
    · rw [if_pos hacting]
      obtain ⟨uses, heq, huses⟩ := ih (closeCall driver calls info.deviceId info.actingStreamId :: calls)
      refine ⟨uses ++ [closeCall driver calls info.deviceId info.actingStreamId], ?_, ?_⟩
      · rw [heq, List.append_assoc]
        rfl
      · intro call hcall
        rcases List.mem_append.mp hcall with hcall | hcall
        · exact huses call hcall
        · rw [List.mem_singleton.mp hcall]
          trivial

theorem uninit (s : TvHal) : s.UsedBy (s.withCalls (Tvd.closeActing driver s.live s.calls)) :=
  ⟨rfl, closeActing s.live s.calls⟩

theorem notify {event : TvInputEvent} (h : Notifies driver event s t) : s.UsedBy t := by
  obtain ⟨-, -, hcalls, hdevice, -⟩ := h
  rw [TvInputEvent.log] at hcalls
  refine ⟨hdevice, ?_⟩
  cases hcloses : event.closes s.live with
  | none =>
    rw [hcloses] at hcalls
    exact ⟨[], hcalls, fun _ h => absurd h List.not_mem_nil⟩
  | some info =>
    rw [hcloses] at hcalls
    obtain ⟨uses, heq, huses⟩ :=
      (of_call s (closeCall driver s.calls event.deviceId info.actingStreamId) trivial).calls
    exact ⟨uses, hcalls.trans heq, huses⟩

end TvHal.UsedBy

/-! ### With and without a device -/

/-- The live entries fit, the pointer is that of the last attempt, and without a device
no stream is acting. -/
structure TvHal.Known (s : TvHal) : Prop where
  fits : s.Fits
  opened : s.device = true ↔ LastOpened s.calls
  idle : s.device = false → ∀ info ∈ s.live, info.actingStreamId = -1

/-- Once the driver has the callback, only an empty list goes without a device. -/
def TvHal.Guarded (s : TvHal) : Prop :=
  .initializeDevice 0 ∈ s.calls → s.device = true ∨ s.live = []

theorem TvHal.Known.usedBy (h : s.Known) (huse : s.UsedBy t) (hfit : t.Fits)
    (hidle : s.device = false → ∀ info ∈ t.live, info.actingStreamId = -1) : t.Known where
  fits := hfit
  opened := by
    rw [huse.device, huse.lastOpened]
    exact h.opened
  idle hdev := hidle (huse.device.symm.trans hdev)

theorem TvHal.Guarded.usedBy (h : s.Guarded) (huse : s.UsedBy t)
    (hlive : s.device = false → t.live = s.live) : t.Guarded := by
  intro hinit
  rw [huse.device]
  cases hdev : s.device with
  | true => exact .inl rfl
  | false =>
    rw [hlive hdev, ← hdev]
    exact h (huse.initialized.mp hinit)

/-- An event leaves what is idle so. -/
theorem TvInputEvent.apply_idle (event : TvInputEvent) {table : List DeviceInfo}
    (h : ∀ info ∈ table, info.actingStreamId = -1) :
    ∀ info ∈ event.apply table, info.actingStreamId = -1 := by
  intro info hinfo
  unfold TvInputEvent.apply at hinfo
  split at hinfo
  · exact h info hinfo
  · split at hinfo
    · split at hinfo
      · rcases List.mem_append.mp hinfo with hinfo | hinfo
        · exact h info hinfo
        · rw [List.mem_singleton.mp hinfo]
      · exact h info hinfo
    · exact h info (List.mem_of_mem_eraseIdx hinfo)
    · obtain ⟨idx, hidx, rfl⟩ := List.mem_iff_getElem.mp hinfo
      rw [List.getElem_modify]
      split
      · rfl
      · exact h _ (List.getElem_mem _)
    · exact h info hinfo

/-- Opening the HAL leaves an empty list, and the pointer tells whether it worked. -/
theorem tvInputHalInit_known {r : UInt8} (h : tvInputHalInit driver s = .ok (r, t)) :
    t.Known ∧ t.live = [] := by
  obtain ⟨hlive, hfit, -⟩ := tvInputHalInit_spec h
  refine ⟨⟨hfit, ?_, fun _ info hinfo => ?_⟩, hlive⟩
  · unfold tvInputHalInit at h
    simp only [Exec.modify_bind_apply, Exec.get_bind_apply] at h
    split at h
    · cases h
      simp [LastOpened]
    · simp only [Exec.modify_bind_apply, Exec.get_bind_apply] at h
      split at h
      · next herr =>
        cases h
        simp [LastOpened, herr]
      · next hok =>
        have hok := not_not.mp hok
        rw [initializeDevice, Exec.bind_ok (callDevice_ok (decide_eq_true hok) _)] at h
        cases h
        simp [LastOpened, TvHal.withCall, hok]
  · rw [hlive] at hinfo
    cases hinfo

/-! ### Where the device is used -/

/-- No event finds NULL if and only if the device is open or the list is empty. -/
theorem deviceInitNotify_safe_iff (hfit : s.Fits) :
    (∀ event, deviceInitNotify driver event s ≠ .error .nullPointer) ↔ s.device = true ∨ s.live = [] := by
  constructor
  · intro hsafe
    by_contra hneither
    rw [not_or] at hneither
    obtain ⟨hdev, hlive⟩ := hneither
    obtain ⟨info, hinfo⟩ := List.exists_mem_of_ne_nil _ hlive
    -- the first listed device goes away
    refine hsafe ⟨.deviceUnavailable, info.deviceId, .tuner⟩
      (deviceInitNotify_error hfit ?_ (by simpa using hdev))
    have hlt : firstIdx info.deviceId s.live < s.live.length :=
      List.findIdx_lt_length_of_exists ⟨info, hinfo, by simp⟩
    simp [TvInputEvent.closes, hlt]
  · intro h event herr
    have hdev : event.closes s.live ≠ none → s.device = true := by
      intro hcloses
      refine h.resolve_right fun hlive => hcloses ?_
      rw [hlive]
      unfold TvInputEvent.closes
      split
      · rfl
      · split <;> rfl
    obtain ⟨t, hrun, -⟩ : ∃ t, Notifies driver event s t := deviceInitNotify_ok hfit event hdev
    rw [hrun] at herr
    cases herr

theorem uninitLoop_idle (hfit : s.Fits) (hidle : ∀ info ∈ s.live, info.actingStreamId = -1) (n : ℕ) :
    ∀ idx, idx + n = s.live.length → Exec.forRange (uninitBody driver) n idx s = .ok ((), s) := by
  induction n with
  | zero => intro idx _; rfl
  | succ n ih =>
    intro idx hlen
    have hidx : idx < s.live.length := by omega
    rw [Exec.forRange, Exec.bind_ok (uninitBody_idle hfit hidx (hidle _ (List.getElem_mem hidx)))]
    exact ih (idx + 1) (by omega)

theorem TvHal.Known.uninit (h : s.Known) : ∃ t, tvInputHalUninit driver s = .ok (tvStatusSuccess, t) := by
  have hlen := h.fits.live_length
  cases hdev : s.device with
  | true => exact ⟨_, tvInputHalUninit_ok h.fits hdev⟩
  | false =>
    refine ⟨s, ?_⟩
    rw [tvInputHalUninit, Exec.get_bind_apply]
    exact Exec.bind_ok (uninitLoop_idle h.fits (h.idle hdev) _ 0 (by omega)) _

theorem openAndStore_safe (hdev : s.device = true) (idx : ℕ) (streamId : Int32) (tvStream : TvStream) :
    openAndStore driver deviceId idx streamId tvStream s ≠ .error .nullPointer := by
  intro herr
  by_cases hok : (driver.openStream s.calls deviceId streamId).1 = 0
  · rw [openAndStore_ok hdev hok] at herr
    rcases Nat.lt_or_ge idx maxDeviceNum with hlt | hge
    · rw [Exec.bind_ok (setActingStreamId_ok hlt _)] at herr
      cases herr
    · rw [Exec.bind_error (setActingStreamId_error hge _)] at herr
      cases herr
  · rw [openAndStore_fail hdev hok] at herr
    cases herr

/-- With an open device, a stream can be asked for. -/
theorem tvInputHalGetStream_safe (hfit : s.Fits) (hdev : s.device = true) (deviceId : Int32)
    (tvStream : TvStream) :
    tvInputHalGetStream driver deviceId tvStream s ≠ .error .nullPointer := by
  rw [tvInputHalGetStream_eq hfit hdev]
  have hsafe {t : TvHal} (hdev : t.device = true) (idx : ℕ) (streamId : Int32) (stream : TvStream) :
      openAndStore driver deviceId idx streamId stream t ≠ .error .nullPointer :=
    openAndStore_safe hdev idx streamId stream
  cases offered driver s deviceId with
  | none => exact fun herr => by cases herr
  | some config =>
    dsimp only
    split
    · exact hsafe (t := s.asked driver deviceId) hdev _ _ _
    · split
      · exact hsafe (t := s.asked driver deviceId) hdev _ _ _
      · split
        · exact fun herr => by cases herr
        · split
          · exact fun herr => by cases herr
          · exact hsafe (t := (s.asked driver deviceId).closed ..) hdev _ _ _

end Tvd

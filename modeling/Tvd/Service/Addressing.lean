import Tvd.Service.Handles

/-! Which tuner a Set source command acts on. The id of the command is read by
Horner's rule whatever its characters are, and a device that is not listed gets a
stream like any other; so the command keeps to the tuner that its id names exactly
when that id is read as the tuner's, and refuses an id that names none exactly when
the driver happens to refuse it. -/

namespace Tvd

open Exec

/-- The call opened a stream. -/
def HalCall.Opens : HalCall → Prop
  | .openStream _ _ result _ => result = 0
  | _ => False

/-- From `s` to `t` the driver was called for one device only, and no entry but one
of that device was written. -/
structure TvHal.ActsOnly (deviceId : Int32) (s t : TvHal) : Prop where
  calls : ∃ new, t.calls = new ++ s.calls ∧ ∀ call ∈ new, call.target = some deviceId
  num : t.deviceNum = s.deviceNum
  entries : ∀ i : ℕ, t.deviceList[i]? = s.deviceList[i]? ∨
    i < s.deviceNum.toNat ∧ ∃ info streamId, s.deviceList[i]? = some info ∧
      info.deviceId = deviceId ∧ t.deviceList[i]? = some { info with actingStreamId := streamId }

/-- From `s` to `t` no stream was opened, and the list was not written. -/
structure TvHal.Untouched (s t : TvHal) : Prop where
  calls : ∃ new, t.calls = new ++ s.calls ∧ ∀ call ∈ new, ¬call.Opens
  num : t.deviceNum = s.deviceNum
  list : t.deviceList = s.deviceList

variable {s t : TvHal} {driver : Driver} {deviceId : Int32}

/-! ### Rules -/

theorem TvHal.ActsOnly.refl (deviceId : Int32) (s : TvHal) : s.ActsOnly deviceId s :=
  ⟨⟨[], rfl, fun _ h => absurd h List.not_mem_nil⟩, rfl, fun _ => .inl rfl⟩

theorem TvHal.ActsOnly.withCall (h : s.ActsOnly deviceId t) {call : HalCall}
    (hcall : call.target = some deviceId) : s.ActsOnly deviceId (t.withCall call) := by
  obtain ⟨⟨new, hnew, htarget⟩, hnum, hentries⟩ := h
  refine ⟨⟨call :: new, ?_, ?_⟩, hnum, hentries⟩
  · rw [TvHal.withCall_calls, hnew, List.cons_append]
  · rw [List.forall_mem_cons]
    exact ⟨hcall, htarget⟩

theorem TvHal.ActsOnly.setEntry (h : s.ActsOnly deviceId t) (hfit : s.Fits)
    (hlist : t.deviceList = s.deviceList) {idx : ℕ} (hidx : idx < s.live.length)
    (hid : s.live[idx].deviceId = deviceId) (streamId : Int32) :
    s.ActsOnly deviceId (t.setEntry idx { s.live[idx] with actingStreamId := streamId }) := by
  have hlt : idx < s.deviceNum.toNat := by rwa [hfit.live_length] at hidx
  have hmax : idx < maxDeviceNum := lt_of_lt_of_le hlt hfit
  have hget := s.live_getElem? hlt
  rw [List.getElem?_eq_getElem hidx] at hget
  refine ⟨h.calls, h.num, fun i => ?_⟩
  rw [TvHal.setEntry, hlist]
  dsimp only
  rw [Vector.getElem?_setIfInBounds]
  by_cases hi : idx = i
  · subst hi
    exact .inr ⟨hlt, s.live[idx], streamId, hget.symm, hid, by rw [if_pos rfl, if_pos hmax]⟩
  · exact .inl (if_neg hi)

theorem TvHal.Untouched.refl (s : TvHal) : s.Untouched s :=
  ⟨⟨[], rfl, fun _ h => absurd h List.not_mem_nil⟩, rfl, rfl⟩

theorem TvHal.Untouched.withCall (h : s.Untouched t) {call : HalCall} (hcall : ¬call.Opens) :
    s.Untouched (t.withCall call) := by
  obtain ⟨⟨new, hnew, hopens⟩, hnum, hlist⟩ := h
  refine ⟨⟨call :: new, ?_, ?_⟩, hnum, hlist⟩
  · rw [TvHal.withCall_calls, hnew, List.cons_append]
  · rw [List.forall_mem_cons]
    exact ⟨hcall, hopens⟩

/-! ### A listed device -/

theorem actsOnly_openAndStore (hfit : s.Fits) {idx : ℕ} (hidx : idx < s.live.length)
    (hid : s.live[idx].deviceId = deviceId) (h : s.ActsOnly deviceId t) (hdev : t.device = true)
    (hnum : t.deviceNum = s.deviceNum) (hlist : t.deviceList = s.deviceList) (streamId : Int32)
    (tvStream : TvStream) : ∃ r u, openAndStore driver deviceId idx streamId tvStream t = .ok (r, u) ∧
      s.ActsOnly deviceId u := by
  have hlive : t.live = s.live := by rw [TvHal.live, hlist, hnum, TvHal.live]
  have hfit' : t.Fits := by unfold TvHal.Fits at hfit ⊢; rwa [hnum]
  have hidx' : idx < t.live.length := by rwa [hlive]
  have hentry : t.live[idx] = s.live[idx] := by simp only [hlive]
  have hopened : s.ActsOnly deviceId (t.opened driver deviceId streamId) := h.withCall rfl
  rw [openAndStore_listed hfit' hdev hidx', hentry]
  dsimp only
  split
  · exact ⟨_, _, rfl, hopened.setEntry hfit hlist hidx hid streamId⟩
  · exact ⟨_, _, rfl, hopened⟩

/-- A request for a listed device returns and keeps to that device. -/
theorem getStream_actsOnly (hfit : s.Fits) (hdev : s.device = true)
    (hlisted : ∃ info ∈ s.live, info.deviceId = deviceId) (tvStream : TvStream) :
    ∃ r t, tvInputHalGetStream driver deviceId tvStream s = .ok (r, t) ∧ s.ActsOnly deviceId t := by
  have hlt := firstIdx_lt_iff.mpr hlisted
  have hid := getElem_firstIdx hlt
  have hasked : s.ActsOnly deviceId (s.asked driver deviceId) :=
    (TvHal.ActsOnly.refl deviceId s).withCall rfl
  rw [tvInputHalGetStream_eq hfit hdev]
  cases offered driver s deviceId with
  | none => exact ⟨_, _, rfl, hasked⟩
  | some config =>
    dsimp only [TvHal.indexOf]
    rw [List.getElem?_eq_getElem hlt]
    dsimp only
    split
    · exact actsOnly_openAndStore hfit hlt hid hasked hdev rfl rfl _ _
    · split
      · exact ⟨_, _, rfl, hasked⟩
      · have hclosed (streamId : Int32) :
            s.ActsOnly deviceId ((s.asked driver deviceId).closed driver deviceId streamId) :=
          hasked.withCall rfl
        split
        · exact ⟨_, _, rfl, hclosed _⟩
        · exact actsOnly_openAndStore hfit hlt hid (hclosed _) hdev rfl rfl _ _

/-! ### A refused request -/

/-- The driver has no stream for the device: it offers none, or cannot open the
one that it offers, or cannot close the one that is acting. -/
def Refused (driver : Driver) (s : TvHal) (deviceId : Int32) : Prop :=
  match offered driver s deviceId, s.live[firstIdx deviceId s.live]? with
  | none, _ => True
  | some config, none =>
    (driver.openStream (s.asked driver deviceId).calls deviceId config.streamId).1 ≠ 0
  | some config, some info =>
    let t := s.asked driver deviceId
    let u := t.closed driver deviceId info.actingStreamId
    if info.actingStreamId = -1 then (driver.openStream t.calls deviceId config.streamId).1 ≠ 0
    else info.actingStreamId ≠ config.streamId ∧
      (driver.closeStream t.calls deviceId info.actingStreamId = 0 →
        (driver.openStream u.calls deviceId config.streamId).1 ≠ 0)

theorem openAndStore_success (hdev : s.device = true) {idx : ℕ} {streamId : Int32}
    {tvStream : TvStream} (hok : (driver.openStream s.calls deviceId streamId).1 = 0)
    {r : UInt8 × TvStream}
    (h : openAndStore driver deviceId idx streamId tvStream s = .ok (r, t)) :
    r.1 = tvStatusSuccess := by
  rw [openAndStore_ok hdev hok] at h
  obtain ⟨_, _, -, hpure⟩ := bind_eq_ok.mp h
  cases hpure
  rfl

/-- Opening fails, and leaves the list alone, exactly when the driver refuses. -/
theorem untouched_openAndStore (h : s.Untouched t) (hdev : t.device = true) (idx : ℕ)
    (streamId : Int32) (tvStream : TvStream) :
    (∃ r u, openAndStore driver deviceId idx streamId tvStream t = .ok (r, u) ∧
      r.1 ≠ tvStatusSuccess ∧ s.Untouched u) ↔
      (driver.openStream t.calls deviceId streamId).1 ≠ 0 := by
  constructor
  · rintro ⟨r, u, hrun, hfail, -⟩ hok
    exact hfail (openAndStore_success hdev hok hrun)
  · intro hne
    exact ⟨_, _, openAndStore_fail hdev hne idx tvStream, tvStatusFail_ne_success, h.withCall hne⟩

/-- A request fails, opens nothing and leaves the list alone exactly when the
driver refuses. -/
theorem getStream_untouched_iff (hfit : s.Fits) (hdev : s.device = true) (tvStream : TvStream) :
    (∃ r t, tvInputHalGetStream driver deviceId tvStream s = .ok (r, t) ∧
      r.1 ≠ tvStatusSuccess ∧ s.Untouched t) ↔ Refused driver s deviceId := by
  have hasked : s.Untouched (s.asked driver deviceId) :=
    (TvHal.Untouched.refl s).withCall id
  rw [tvInputHalGetStream_eq hfit hdev, Refused]
  cases offered driver s deviceId with
  | none => exact iff_of_true ⟨_, _, rfl, tvStatusFail_ne_success, hasked⟩ trivial
  | some config =>
    dsimp only [TvHal.indexOf]
    cases s.live[firstIdx deviceId s.live]? with
    | none => exact untouched_openAndStore hasked hdev _ _ _
    | some info =>
      dsimp only
      split
      · exact untouched_openAndStore hasked hdev _ _ _
      · split
        · next heq =>
          refine iff_of_false ?_ fun h => h.1 heq
          rintro ⟨r, t, hrun, hfail, -⟩
          cases hrun
          exact hfail rfl
        · next hne =>
          have hclosed : s.Untouched ((s.asked driver deviceId).closed driver deviceId
              info.actingStreamId) := hasked.withCall id
          split
          · next hclose =>
            exact iff_of_true ⟨_, _, rfl, tvStatusFail_ne_success, hclosed⟩ ⟨hne, fun h => absurd h hclose⟩
          · next hclose =>
            refine (untouched_openAndStore hclosed hdev _ _ _).trans ?_
            simp [hne, not_not.mp hclose]

/-! ### The command -/

/-- The string is the decimal id of a listed device. -/
def TvHal.Names (s : TvHal) (tunerId : CString) (deviceId : Int32) : Prop :=
  (∃ info ∈ s.live, info.deviceId = deviceId) ∧
    tunerId.val = Numeral.signedDecimal deviceId.toInt

/-- `dtv_set_source` keeps to the device that the string names; a string that names
none is refused, and nothing is opened or written. -/
structure SetSourceSafe (driver : Driver) (p : Platform) (env : DtvEnv) (tunerId : CString)
    (sourceType : UInt8) (tvStream : TvStream) : Prop where
  named : ∀ deviceId, env.hal.Names tunerId deviceId → ∃ r hal,
    dtvSetSource driver p tunerId sourceType tvStream env = .ok (r, { env with hal }) ∧
      env.hal.ActsOnly deviceId hal
  unnamed : (∀ deviceId, ¬env.hal.Names tunerId deviceId) → ∃ r hal,
    dtvSetSource driver p tunerId sourceType tvStream env = .ok (r, { env with hal }) ∧
      r.1 ≠ tvStatusSuccess ∧ env.hal.Untouched hal

section

variable {lib : Lib} {fdio : Fdio} {p : Platform} {runTask : List PduOp → Wbuf → Int32}
  {env : DtvEnv} {tunerId : CString} {sourceType : UInt8} {tvStream : TvStream}

/-- `dtv_set_source` works on the HAL only. -/
theorem dtvSetSource_ok_iff {r : UInt8 × TvStream} {hal : TvHal} :
    dtvSetSource driver p tunerId sourceType tvStream env = .ok (r, { env with hal }) ↔
      tvInputHalGetStream driver (parseDeviceId p tunerId).toInt32 tvStream env.hal = .ok (r, hal) := by
  constructor
  · intro h
    obtain ⟨a, t, hrun, heq⟩ := zoom_eq_ok.mp h
    obtain ⟨rfl, henv⟩ := Prod.mk.inj heq
    have hhal : hal = t := congrArg DtvEnv.hal henv
    rw [hhal]
    exact hrun
  · exact fun h => zoom_ok h

theorem openAndStore_calls (hdev : s.device = true) {idx : ℕ} {streamId : Int32}
    {r : UInt8 × TvStream}
    (h : openAndStore driver deviceId idx streamId tvStream s = .ok (r, t)) :
    ∃ call, t.calls = call :: s.calls := by
  by_cases hok : (driver.openStream s.calls deviceId streamId).1 = 0
  · rw [openAndStore_ok hdev hok] at h
    obtain ⟨_, u, hset, hpure⟩ := bind_eq_ok.mp h
    cases hpure
    rcases Nat.lt_or_ge idx maxDeviceNum with hlt | hge
    · rw [setActingStreamId_ok hlt] at hset
      cases hset
      exact ⟨_, rfl⟩
    · rw [setActingStreamId_error hge] at hset
      cases hset
  · rw [openAndStore_fail hdev hok] at h
    cases h
    exact ⟨_, rfl⟩

/-- The request asks the driver for the configurations of the device first. -/
theorem getStream_asks {r : UInt8 × TvStream} (hfit : s.Fits)
    (h : tvInputHalGetStream driver deviceId tvStream s = .ok (r, t)) :
    ∃ new, t.calls = new ++ (s.asked driver deviceId).calls := by
  have hdev := device_of_getStream h
  rw [tvInputHalGetStream_eq hfit hdev] at h
  have hopen {u : TvHal} {idx : ℕ} {streamId : Int32} {stream : TvStream}
      (hrun : openAndStore driver deviceId idx streamId stream u = .ok (r, t))
      (hu : u.device = true) : ∃ new, t.calls = new ++ u.calls := by
    obtain ⟨call, hcall⟩ := openAndStore_calls hu hrun
    exact ⟨[call], hcall⟩
  cases hoffer : offered driver s deviceId with
  | none =>
    rw [hoffer] at h
    cases h
    exact ⟨[], rfl⟩
  | some config =>
    rw [hoffer] at h
    dsimp only at h
    split at h
    · exact hopen h hdev
    · split at h
      · exact hopen h hdev
      · split at h
        · cases h
          exact ⟨[], rfl⟩
        · split at h
          · cases h
            exact ⟨[_], rfl⟩
          · obtain ⟨new, hnew⟩ := hopen h hdev
            exact ⟨new ++ [_], by rw [hnew, List.append_assoc]; rfl⟩

theorem setSourceSafe_iff (hfit : env.hal.Fits) (hdev : env.hal.device = true) :
    SetSourceSafe driver p env tunerId sourceType tvStream ↔
      (∀ deviceId, env.hal.Names tunerId deviceId → (parseDeviceId p tunerId).toInt32 = deviceId) ∧
      ((∀ deviceId, ¬env.hal.Names tunerId deviceId) →
        Refused driver env.hal (parseDeviceId p tunerId).toInt32) := by
  have hunnamed : (∃ r hal, dtvSetSource driver p tunerId sourceType tvStream env =
      .ok (r, { env with hal }) ∧ r.1 ≠ tvStatusSuccess ∧ env.hal.Untouched hal) ↔
      Refused driver env.hal (parseDeviceId p tunerId).toInt32 := by
    simp only [dtvSetSource_ok_iff]
    exact getStream_untouched_iff hfit hdev tvStream
  constructor
  · intro hsafe
    refine ⟨fun deviceId hnames => ?_, fun hnone => hunnamed.mp (hsafe.unnamed hnone)⟩
    obtain ⟨r, hal, hrun, hacts⟩ := hsafe.named deviceId hnames
    obtain ⟨new, hnew, htarget⟩ := hacts.calls
    obtain ⟨later, hasks⟩ := getStream_asks hfit (dtvSetSource_ok_iff.mp hrun)
    rw [TvHal.asked, TvHal.withCall_calls, List.append_cons, hnew,
      List.append_cancel_right_eq] at hasks
    have hmem := htarget _ (hasks ▸ List.mem_append_right later (List.mem_singleton_self _))
    exact Option.some_inj.mp hmem
  · rintro ⟨hread, hrefused⟩
    refine ⟨fun deviceId hnames => ?_, fun hnone => hunnamed.mpr (hrefused hnone)⟩
    obtain ⟨r, hal, hrun, hacts⟩ : ∃ r hal, tvInputHalGetStream driver deviceId tvStream env.hal =
        .ok (r, hal) ∧ env.hal.ActsOnly deviceId hal := getStream_actsOnly hfit hdev hnames.1 tvStream
    rw [← hread deviceId hnames] at hrun
    exact ⟨r, hal, dtvSetSource_ok_iff.mpr hrun, hacts⟩

/-- In every reachable state with the DTV service registered, a Set source command
keeps to the tuner that it names, and is refused when it names none, exactly when
its id is read as that tuner's, or the driver refuses whatever device it is read as. -/
theorem setSource_safe_iff {s : Daemon}
    (hreach : Daemon.Reachable (.inTree lib fdio driver p runTask) s)
    (hregistered : s.gServiceHandler serviceDtv ≠ none) :
    SetSourceSafe driver p s.dtv.env tunerId sourceType tvStream ↔
      (∀ deviceId, s.dtv.env.hal.Names tunerId deviceId →
        (parseDeviceId p tunerId).toInt32 = deviceId) ∧
      ((∀ deviceId, ¬s.dtv.env.hal.Names tunerId deviceId) →
        Refused driver s.dtv.env.hal (parseDeviceId p tunerId).toInt32) :=
  setSourceSafe_iff hreach.halReady.fits (hreach.halReady.device hregistered)

end

/-- Tuner 1 is available, and the client asks for it. -/
theorem setSource_safe_tunerOne : SetSourceSafe steadyDriver .lp64 (tunerAvailable steadyDriver).dtv.env
    tunerOne 0 .unset := by
  refine (setSource_safe_iff tunerAvailable_reachable tunerAvailable_registered).mpr ⟨?_, ?_⟩
  · rintro deviceId ⟨⟨info, hinfo, rfl⟩, -⟩
    rw [tunerAvailable_live] at hinfo
    rw [List.mem_singleton.mp hinfo]
    rfl
  · intro hnone
    exfalso
    refine hnone 1 ⟨⟨⟨1, .tuner, -1⟩, ?_, rfl⟩, rfl⟩
    rw [tunerAvailable_live]
    exact List.mem_cons_self

/-- Tuner 1 is available, and the client asks for tuner 7: a stream is opened. -/
theorem setSource_unsafe : ¬∀ (lib : Lib) (fdio : Fdio) (driver : Driver) (p : Platform)
    (runTask : List PduOp → Wbuf → Int32) (s : Daemon) (tunerId : CString) (sourceType : UInt8)
    (tvStream : TvStream), Daemon.Reachable (.inTree lib fdio driver p runTask) s →
    s.gServiceHandler serviceDtv ≠ none →
    SetSourceSafe driver p s.dtv.env tunerId sourceType tvStream := by
  intro h
  have hsafe := h _ _ _ _ _ _ ⟨[55], by decide⟩ 0 .unset tunerAvailable_reachable
    tunerAvailable_registered
  have hopened : (dtvSetSource steadyDriver .lp64 ⟨[55], by decide⟩ 0 .unset
      (tunerAvailable steadyDriver).dtv.env).toOption.map (·.1.1) = some tvStatusSuccess := by decide +kernel
  have hnone (deviceId : Int32) : ¬(tunerAvailable steadyDriver).dtv.env.hal.Names
      ⟨[55], by decide⟩ deviceId := by
    rintro ⟨⟨info, hinfo, rfl⟩, hname⟩
    rw [tunerAvailable_live] at hinfo
    rw [List.mem_singleton.mp hinfo] at hname
    exact absurd hname (by decide)
  obtain ⟨r, hal, hrun, hfail, -⟩ := hsafe.unnamed hnone
  rw [hrun] at hopened
  exact hfail (Option.some.inj hopened)

end Tvd

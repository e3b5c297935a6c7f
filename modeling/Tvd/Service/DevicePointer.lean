import Tvd.Hal.Device
import Tvd.Service.Device

/-! The driver's device, used by commands and events. A registration that fails has
already dropped the device of an earlier one, while the driver goes on delivering
events. A tuner that it announces then is listed without a device to close its stream
through. -/

namespace Tvd

open Exec

/-! ### Invariants of the HAL -/

section

variable {lib : Lib} {fdio : Fdio} {driver : Driver} {p : Platform}
  {runTask : List PduOp → Wbuf → Int32} {α : Type} {I : TvHal → Prop}

theorem preserves_onHal {m : HalM α} (h : Preserves I m) :
    Preserves (fun env : DtvEnv => I env.hal) (onHal m) := .zoom fun s hs => h s.hal hs

theorem preserves_hal {m : EnvM α} (h : Preserves (fun env : DtvEnv => I env.hal) m) :
    Preserves (fun s : Daemon => I s.dtv.env.hal) (onEnv m) := .zoom fun s hs => h s.dtv.env hs

theorem getInputNum_preserves (hfits : ∀ s, I s → s.Fits) (type : TvInputType) :
    Preserves I (tvInputHalGetInputNumByType type) := by
  intro s hs r t hrun
  rw [tvInputHalGetInputNumByType_ok (hfits s hs)] at hrun
  cases hrun
  exact hs

theorem getInputs_preserves (hfits : ∀ s, I s → s.Fits) (inputNum : UInt8) (type : TvInputType)
    (devices : IntArray) : Preserves I (tvInputHalGetInputsByType inputNum type devices) := by
  intro s hs r t hrun
  rw [tvInputHalGetInputsByType_eq (hfits s hs)] at hrun
  cases hfill : s.live.foldlM (fillStep type) (0, devices) with
  | error e =>
    rw [hfill] at hrun
    cases hrun
  | ok acc =>
    rw [hfill] at hrun
    cases hrun
    exact hs

theorem dtvGetTuners_preserves (hfits : ∀ s, I s → s.Fits) (n : UInt32) (tuners : Option ℕ) :
    Preserves (fun env : DtvEnv => I env.hal) (dtvGetTuners lib p n tuners) := by
  have hheap {β : Type} (m : HeapM β) : Preserves (fun env : DtvEnv => I env.hal) (onHeap m) :=
    .zoom fun s hs _ _ _ => hs
  refine (hheap _).bind fun block => (preserves_onHal (getInputs_preserves hfits _ _ _)).bind fun found => ?_
  refine .ite ((hheap _).bind fun _ => preserves_pure _ _) ?_
  refine ((preserves_closed _).accumulate (fun idx items => ?_) _ _ _).bind fun _ =>
    (hheap _).bind fun _ => preserves_pure _ _
  refine (hheap _).bind fun id => (hheap _).bind fun str => .ite ?_ (preserves_pure _ _)
  exact (preserves_throw _ _).bind fun _ => preserves_pure _ _

/-- What asking for a stream, opening and closing the HAL keep, all commands of the
in-tree daemon keep. -/
theorem halCommand_invariant (hfits : ∀ s, I s → s.Fits)
    (hstream : ∀ deviceId tvStream, Preserves I (tvInputHalGetStream driver deviceId tvStream))
    (hinit : Preserves I (tvInputHalInit driver)) (huninit : Preserves I (tvInputHalUninit driver)) :
    CommandInvariant (.inTree lib fdio driver p runTask) fun s => I s.dtv.env.hal where
  ofControl s t hcontrol hs := by
    have hhal : t.dtv.env.hal = s.dtv.env.hal := congrArg Control.hal hcontrol
    show I t.dtv.env.hal
    rwa [hhal]
  api :=
    { getTunerNum := preserves_hal (preserves_onHal (getInputNum_preserves hfits _))
      getTuners := fun _ _ => preserves_hal (dtvGetTuners_preserves hfits _ _)
      setSource := fun _ _ _ => preserves_hal (preserves_onHal (hstream _ _))
      startScanning := fun _ _ => preserves_hal (preserves_pure _ _)
      stopScanning := fun _ _ => preserves_hal (preserves_pure _ _)
      clnScannedChannelCache := preserves_hal (preserves_pure _ _)
      setChannel := fun _ _ _ _ => preserves_hal (preserves_pure _ _)
      getChannelNum := fun _ _ => preserves_hal (preserves_pure _ _)
      getChannels := fun _ _ _ _ => preserves_hal (preserves_pure _ _)
      getProgNum := fun _ _ _ _ _ => preserves_hal (preserves_pure _ _)
      getPrograms := fun _ _ _ _ _ _ _ => preserves_hal (preserves_pure _ _) }
  register s handler dtv hs _ hrun := by
    obtain ⟨r, hhal, -⟩ := registerDtv_hal hrun
    exact hinit _ hs _ _ hhal
  unregister s result dtv hs hrun := by
    obtain ⟨r, hhal⟩ := unregisterDtv_hal hrun
    exact huninit _ hs _ _ hhal

theorem known_getStream (deviceId : Int32) (tvStream : TvStream) :
    Preserves TvHal.Known (tvInputHalGetStream driver deviceId tvStream) := by
  intro s hs r t hrun
  have hshape : t.shape = s.shape := shape_rules.getStream deviceId tvStream s _ _ hrun
  have hnum : t.deviceNum = s.deviceNum := congrArg Prod.snd hshape
  have hfit := hs.fits
  refine hs.usedBy (.getStream hfit hrun) ?_ fun hdev => ?_
  · unfold TvHal.Fits at hfit ⊢
    rwa [hnum]
  · exact absurd ((device_of_getStream hrun).symm.trans hdev) (by decide)

theorem known_uninit : Preserves TvHal.Known (tvInputHalUninit driver) := by
  intro s hs r t hrun
  have heq : t = _ := (Prod.mk.inj (tvInputHalUninit_eq hs.fits hrun)).2
  have hlive : t.live = s.live := heq ▸ rfl
  exact hs.usedBy (heq ▸ .uninit s) (heq ▸ hs.fits) (hlive ▸ hs.idle)

theorem known_invariant :
    CommandInvariant (.inTree lib fdio driver p runTask) fun s => s.dtv.env.hal.Known :=
  halCommand_invariant (fun _ hs => hs.fits) known_getStream
    (fun _ _ _ _ hrun => (tvInputHalInit_known hrun).1) known_uninit

/-- Commands and tasks keep a known HAL guarded. -/
theorem guarded_invariant : CommandInvariant (.inTree lib fdio driver p runTask) fun s =>
    s.dtv.env.hal.Known ∧ s.dtv.env.hal.Guarded := by
  apply halCommand_invariant (I := fun s => s.Known ∧ s.Guarded)
  · exact fun s hs => hs.1.fits
  · intro deviceId tvStream s ⟨hknown, hguarded⟩ r t hrun
    refine ⟨known_getStream deviceId tvStream s hknown r t hrun, ?_⟩
    refine hguarded.usedBy (.getStream hknown.fits hrun) fun hdev => ?_
    exact absurd ((device_of_getStream hrun).symm.trans hdev) (by decide)
  · intro s _ r t hrun
    obtain ⟨hknown, hlive⟩ := tvInputHalInit_known hrun
    exact ⟨hknown, fun _ => .inr hlive⟩
  · intro s ⟨hknown, hguarded⟩ r t hrun
    have heq : t = _ := (Prod.mk.inj (tvInputHalUninit_eq hknown.fits hrun)).2
    have hlive : t.live = s.live := heq ▸ rfl
    exact ⟨known_uninit s hknown r t hrun, hguarded.usedBy (heq ▸ .uninit s) fun _ => hlive⟩

end

/-! ### Steps of the daemon -/

section

variable {w : World} {s t : Daemon}

/-- The device is there wherever it can be used next: by an event, by a Set source
command, by a registration or by an unregistration. -/
structure Daemon.DeviceSafe (w : World) (s : Daemon) : Prop where
  notify : s.notifiable → ∀ event, deviceInitNotify w.driver event s.dtv.env.hal ≠ .error .nullPointer
  getStream : s.gServiceHandler serviceDtv ≠ none → ∀ deviceId tvStream,
    tvInputHalGetStream w.driver deviceId tvStream s.dtv.env.hal ≠ .error .nullPointer
  register : ∀ cb, DtvIo.registerDtv w cb s.dtv ≠ .error .nullPointer
  unregister : DtvIo.unregisterDtv w s.dtv ≠ .error .nullPointer

/-- A tuner that becomes available finds that the last attempt to open the HAL worked. -/
def FindsOpened (s : Daemon) : Input → Prop
  | .halEvent event => event.type = .deviceAvailable → event.deviceType = .tuner →
    LastOpened s.dtv.env.hal.calls
  | _ => True

instance (s : Daemon) : (input : Input) → Decidable (FindsOpened s input)
  | .halEvent event => inferInstanceAs (Decidable (event.type = .deviceAvailable →
    event.deviceType = .tuner → LastOpened s.dtv.env.hal.calls))
  | .channelUpdate .. | .scanStatus .. | .eventNfy .. | .task _ | .readable _ | .writable | .err
  | .hup => inferInstanceAs (Decidable True)

theorem Daemon.Step.notifies (hfit : s.dtv.env.hal.Fits) {event : TvInputEvent}
    (h : Daemon.Step w s (.halEvent event) t) :
    Notifies w.driver event s.dtv.env.hal t.dtv.env.hal := by
  obtain ⟨result, u, hcallback, hleave⟩ := bind_eq_ok.mp h.2.2
  obtain ⟨_, v, henv, hpure⟩ := bind_eq_ok.mp hcallback
  cases hpure
  cases hleave
  obtain ⟨_, env, hhal, heq⟩ := zoom_eq_ok.mp henv
  cases heq
  obtain ⟨_, hal, hrun, heq⟩ := zoom_eq_ok.mp hhal
  cases heq
  exact notifies_of_ok hfit hrun

theorem Daemon.Step.known_event {event : TvInputEvent} (hknown : s.dtv.env.hal.Known)
    (h : Daemon.Step w s (.halEvent event) t) : t.dtv.env.hal.Known := by
  have hnotify := Daemon.Step.notifies hknown.fits h
  refine hknown.usedBy (.notify hnotify) hnotify.2.2.2.2 fun hdev => ?_
  rw [hnotify.2.1]
  exact event.apply_idle (hknown.idle hdev)

/-- An event keeps a guarded HAL guarded unless it lists a tuner without a device. -/
theorem Daemon.Step.guarded_event {event : TvInputEvent} (hknown : s.dtv.env.hal.Known)
    (hguarded : s.dtv.env.hal.Guarded) (h : Daemon.Step w s (.halEvent event) t) :
    t.dtv.env.hal.Guarded ↔ FindsOpened s (.halEvent event) := by
  obtain ⟨-, hlive, -, hdevice, -⟩ := Daemon.Step.notifies hknown.fits h
  have huse := TvHal.UsedBy.notify (Daemon.Step.notifies hknown.fits h)
  have hinit : .initializeDevice 0 ∈ s.dtv.env.hal.calls := h.2.1
  unfold TvHal.Guarded
  rw [huse.initialized, hdevice, hlive]
  obtain ⟨type, deviceId, deviceType⟩ := event
  cases hdev : s.dtv.env.hal.device with
  | true =>
    exact iff_of_true (fun _ => .inl rfl) fun _ _ => hknown.opened.mp hdev
  | false =>
    have hempty : s.dtv.env.hal.live = [] := (hguarded hinit).resolve_left (by simp [hdev])
    have hclosed : ¬LastOpened s.dtv.env.hal.calls := by
      rw [← hknown.opened, hdev]
      decide
    rw [hempty]
    by_cases htuner : deviceType = .tuner
    · cases type with
      | deviceAvailable => simp [FindsOpened, TvInputEvent.apply, hinit, hclosed, htuner, maxDeviceNum]
      | deviceUnavailable | streamConfigurationsChanged | other =>
        simp [FindsOpened, TvInputEvent.apply]
    · simp [FindsOpened, TvInputEvent.apply, htuner]

end

/-! ### The in-tree daemon -/

section

variable {lib : Lib} {fdio : Fdio} {driver : Driver} {p : Platform}
  {runTask : List PduOp → Wbuf → Int32} {s t : Daemon}

theorem registerDtv_returns (cb : Option SendPdu) (s : DtvService) :
    ∃ r, DtvIo.registerDtv (.inTree lib fdio driver p runTask) cb s = .ok r := by
  obtain ⟨r, hal, -, hrun, -⟩ := tvInputHalInit_ok driver s.env.hal
  have hinit : DtvIo.inEnv (onHal (tvInputHalInit driver)) s =
      .ok (r, { s with env := { s.env with hal } }) := zoom_ok (zoom_ok hrun)
  by_cases hr : r = tvStatusSuccess
  · subst hr
    exact ⟨_, bind_ok hinit _⟩
  · obtain ⟨hal', hclose⟩ : ∃ t, tvInputHalUninit driver hal = .ok (tvStatusSuccess, t) :=
      (tvInputHalInit_known hrun).1.uninit
    have huninit : DtvIo.inEnv (onHal (tvInputHalUninit driver)) { s with env := { s.env with hal } } =
        .ok (tvStatusSuccess, { s with env := { s.env with hal := hal' } }) := zoom_ok (zoom_ok hclose)
    refine ⟨(none, { s with env := { s.env with hal := hal' } }), (bind_ok hinit _).trans ?_⟩
    rw [if_pos hr]
    exact bind_ok huninit _

theorem unregisterDtv_returns {s : DtvService} (hknown : s.env.hal.Known) :
    ∃ r, DtvIo.unregisterDtv (.inTree lib fdio driver p runTask) s = .ok r := by
  obtain ⟨hal, hclose⟩ : ∃ t, tvInputHalUninit driver s.env.hal = .ok (tvStatusSuccess, t) :=
    hknown.uninit
  have huninit : DtvIo.inEnv (onHal (tvInputHalUninit driver)) s =
      .ok (tvStatusSuccess, { s with env := { s.env with hal } }) := zoom_ok (zoom_ok hclose)
  exact ⟨_, bind_ok huninit _⟩

/-- The only way to NULL is an event for a list that is not empty. -/
theorem Daemon.deviceSafe_iff (hready : s.HalReady) (hknown : s.dtv.env.hal.Known) :
    s.DeviceSafe (.inTree lib fdio driver p runTask) ↔ s.dtv.env.hal.Guarded := by
  constructor
  · intro hsafe hinit
    exact (deviceInitNotify_safe_iff hready.fits).mp (hsafe.notify hinit)
  · intro hguarded
    refine ⟨fun hinit => (deviceInitNotify_safe_iff hready.fits).mpr (hguarded hinit), ?_, ?_, ?_⟩
    · intro hregistered deviceId tvStream
      exact tvInputHalGetStream_safe hready.fits (hready.device hregistered) deviceId tvStream
    · intro cb herr
      obtain ⟨r, hrun⟩ : ∃ r, DtvIo.registerDtv (.inTree lib fdio driver p runTask) cb s.dtv = .ok r :=
        registerDtv_returns cb s.dtv
      rw [hrun] at herr
      cases herr
    · intro herr
      obtain ⟨r, hrun⟩ : ∃ r, DtvIo.unregisterDtv (.inTree lib fdio driver p runTask) s.dtv = .ok r :=
        unregisterDtv_returns hknown
      rw [hrun] at herr
      cases herr

theorem Daemon.Connected.hal (h : Daemon.Connected (.inTree lib fdio driver p runTask) s) :
    s.dtv.env.hal = .zero := congrArg Control.hal h.control

theorem Daemon.Step.known {input : Input}
    (h : Daemon.Step (.inTree lib fdio driver p runTask) s input t) (hknown : s.dtv.env.hal.Known) :
    t.dtv.env.hal.Known := by
  cases input with
  | halEvent event => exact Daemon.Step.known_event hknown h
  | channelUpdate | scanStatus | eventNfy | task | readable | writable | err | hup =>
    exact known_invariant.step (fun _ heq => by cases heq) s hknown _ _ h.2.2

theorem Daemon.Connected.known (h : Daemon.Connected (.inTree lib fdio driver p runTask) s) :
    s.dtv.env.hal.Known := by
  rw [h.hal]
  refine ⟨Nat.zero_le _, iff_of_false (by decide) id, fun _ info hinfo => ?_⟩
  cases hinfo

/-- What is known of the HAL holds in every reachable state. -/
theorem Daemon.Reachable.known (h : Daemon.Reachable (.inTree lib fdio driver p runTask) s) :
    s.dtv.env.hal.Known := by
  obtain ⟨s₀, hs₀, hreach⟩ := h
  exact hreach.invariant (P := fun s => s.dtv.env.hal.Known)
    (fun _ _ _ hstep ha => Daemon.Step.known hstep ha) hs₀.known

/-- One step keeps the device where it is used exactly when it does not list a tuner
without one. -/
theorem Daemon.Step.guarded_iff {input : Input}
    (h : Daemon.Step (.inTree lib fdio driver p runTask) s input t) (hknown : s.dtv.env.hal.Known)
    (hguarded : s.dtv.env.hal.Guarded) : t.dtv.env.hal.Guarded ↔ FindsOpened s input := by
  cases input with
  | halEvent event => exact Daemon.Step.guarded_event hknown hguarded h
  | channelUpdate | scanStatus | eventNfy | task | readable | writable | err | hup =>
    refine iff_of_true ?_ trivial
    exact (guarded_invariant.step (fun _ heq => by cases heq) s ⟨hknown, hguarded⟩ _ _ h.2.2).2

/-- From the connection on, the device is there wherever it can be used in all states of
a run, if and only if every tuner that becomes available finds that the last attempt to
open the HAL worked. -/
theorem device_safe_iff (hconnected : Daemon.Connected (.inTree lib fdio driver p runTask) s)
    {l : List (Transition Daemon Input)}
    (hrun : Run (Daemon.Step (.inTree lib fdio driver p runTask)) s l t) :
    (s.DeviceSafe (.inTree lib fdio driver p runTask) ∧
      ∀ x ∈ l, x.after.DeviceSafe (.inTree lib fdio driver p runTask)) ↔
    ∀ x ∈ l, FindsOpened x.before x.label := by
  have hhal := hconnected.hal
  have hreach : Daemon.Reachable (.inTree lib fdio driver p runTask) s := ⟨s, hconnected, .refl s⟩
  have hknown : s.dtv.env.hal.Known := hconnected.known
  have hguarded : s.dtv.env.hal.Guarded := by
    rw [hhal]
    intro hinit
    cases hinit
  have hsafe : s.DeviceSafe (.inTree lib fdio driver p runTask) :=
    (Daemon.deviceSafe_iff hreach.halReady hknown).mpr hguarded
  have hkeep (a : Daemon) (input : Input) (b : Daemon)
      (hstep : Daemon.Step (.inTree lib fdio driver p runTask) a input b)
      (h : Daemon.Reachable (.inTree lib fdio driver p runTask) a ∧ a.dtv.env.hal.Known) :
      Daemon.Reachable (.inTree lib fdio driver p runTask) b ∧ b.dtv.env.hal.Known :=
    ⟨h.1.step hstep, Daemon.Step.known hstep h.2⟩
  have hgood (a : Daemon) (input : Input) (b : Daemon)
      (hstep : Daemon.Step (.inTree lib fdio driver p runTask) a input b)
      (h : Daemon.Reachable (.inTree lib fdio driver p runTask) a ∧ a.dtv.env.hal.Known)
      (ha : a.DeviceSafe (.inTree lib fdio driver p runTask)) :
      b.DeviceSafe (.inTree lib fdio driver p runTask) ↔ FindsOpened a input := by
    have hb := hkeep a input b hstep h
    rw [Daemon.deviceSafe_iff hb.1.halReady hb.2]
    exact Daemon.Step.guarded_iff hstep h.2 ((Daemon.deviceSafe_iff h.1.halReady h.2).mp ha)
  exact (and_iff_right hsafe).trans (hrun.good_iff hkeep hgood ⟨hreach, hknown⟩ hsafe)

end

/-! ### A device that is lost -/

/-- A driver whose module is found only once. -/
def flakyDriver : Driver :=
  { switchingDriver with hwGetModule := fun calls => if calls.isEmpty then 0 else -1 }

/-- A client registers the DTV service, unregisters it, and tries to register it again. -/
def registersAgain : List Input :=
  [.readable (some [0, 1, 1, 0, 1]), .readable (some [0, 2, 1, 0, 1]),
    .readable (some [0, 1, 1, 0, 1])]

/-- Tuner 1 becomes available. -/
def arrivesOne : Input := .halEvent ⟨.deviceAvailable, 1, .tuner⟩

/-- The run of these inputs on a driver. -/
def lostRun (driver : Driver) : List (Transition Daemon Input) :=
  trace (Daemon.next (.onDriver driver)) (.connected (.onDriver driver)) (registersAgain ++ [arrivesOne])

theorem device_safe_switchingDriver :
    (Daemon.connected (.onDriver switchingDriver)).DeviceSafe (.onDriver switchingDriver) ∧
      ∀ x ∈ lostRun switchingDriver, x.after.DeviceSafe (.onDriver switchingDriver) :=
  (device_safe_iff ⟨3, by decide, rfl⟩ (Daemon.trace_run (by decide +kernel))).mpr (by decide +kernel)

/-- After a registration that fails, a tuner arrives, and it cannot go away. -/
theorem device_lost : ¬∀ (lib : Lib) (fdio : Fdio) (driver : Driver) (p : Platform)
    (runTask : List PduOp → Wbuf → Int32) (s t : Daemon) (l : List (Transition Daemon Input)),
    Daemon.Connected (.inTree lib fdio driver p runTask) s →
    Run (Daemon.Step (.inTree lib fdio driver p runTask)) s l t →
    s.DeviceSafe (.inTree lib fdio driver p runTask) ∧
      ∀ x ∈ l, x.after.DeviceSafe (.inTree lib fdio driver p runTask) := by
  intro h
  let last := (registersAgain ++ [arrivesOne]).foldl (Daemon.next (.onDriver flakyDriver))
    (.connected (.onDriver flakyDriver))
  have hconnected : Daemon.Connected (.onDriver flakyDriver) (.connected (.onDriver flakyDriver)) :=
    ⟨3, by decide, rfl⟩
  have hrun : Run (Daemon.Step (.onDriver flakyDriver)) (.connected (.onDriver flakyDriver))
      (lostRun flakyDriver) last := Daemon.trace_run (by decide +kernel)
  obtain ⟨hs, hsafe⟩ := h _ _ _ _ _ _ _ _ hconnected hrun
  have hlast : last.DeviceSafe (.onDriver flakyDriver) := hrun.invariant (fun x hx _ _ => hsafe x hx) hs
  have hready : last.HalReady := Daemon.Reachable.halReady ⟨_, hconnected, _, hrun⟩
  have hinit : last.notifiable := by
    change HalCall.initializeDevice 0 ∈ last.dtv.env.hal.calls
    decide +kernel
  rcases (deviceInitNotify_safe_iff hready.fits).mp (hlast.notify hinit) with hdev | hlive
  · exact absurd hdev (by decide +kernel)
  · exact absurd hlive (by decide +kernel)

end Tvd

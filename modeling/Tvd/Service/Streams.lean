import Tvd.Exec.Run
import Tvd.Hal.Streams
import Tvd.Model.DtvIo

/-! Runs of the DTV service: events of the driver, Set source commands,
registrations and unregistrations in any order. The device list records exactly
the open streams in every state of a run if and only if at each step the driver
answers so that the operation's way of updating the list is right. -/

namespace Tvd

open Exec Ledger

/-- One operation on the DTV service. -/
inductive ServiceOp where
  | halEvent (event : TvInputEvent)
  | setSource (tunerId : CString) (sourceType : UInt8)
  | register (sendPduCb : Option SendPdu)
  | unregister

namespace ServiceOp

variable (w : World)

def run : ServiceOp → DtvM Unit
  | .halEvent event => DtvIo.inEnv (onHal (deviceInitNotify w.driver event))
  | .setSource tunerId sourceType => do
    let _ ← DtvIo.inEnv (w.dtv.dtvSetSource tunerId sourceType .unset)
  | .register sendPduCb => do
    let _ ← DtvIo.registerDtv w sendPduCb
  | .unregister => do
    let _ ← DtvIo.unregisterDtv w

/-- The id that a Set source command comes down to. -/
def deviceOf (tunerId : CString) : Int32 := (parseDeviceId w.platform tunerId).toInt32

/-- Set source commands are for listed devices. -/
def Allowed (s : DtvService) : ServiceOp → Prop
  | .setSource tunerId _ => ∃ info ∈ s.env.hal.live, info.deviceId = deviceOf w tunerId
  | _ => True

/-- The driver answers as the operation takes for granted. -/
def Answered (s : DtvService) : ServiceOp → Prop
  | .halEvent event => event.Closes w.driver s.env.hal
  | .setSource tunerId _ => StreamAnswers w.driver s.env.hal (deviceOf w tunerId)
  | .register _ => ∀ info ∈ s.env.hal.live, info.actingStreamId = -1
  | .unregister => CloseFails w.driver s.env.hal.live s.env.hal.calls

/-- Steps of the service; an operation that crashes leads nowhere. -/
def Step (s : DtvService) (op : ServiceOp) (t : DtvService) : Prop :=
  op.Allowed w s ∧ op.run w s = .ok ((), t)

end ServiceOp

/-! ### What an operation does to the HAL -/

section

variable {lib : Lib} {fdio : Fdio} {driver : Driver} {p : Platform}
  {runTask : List PduOp → Wbuf → Int32} {s t : DtvService}

theorem inEnv_onHal {α : Type} {m : HalM α} {a : α} (h : DtvIo.inEnv (onHal m) s = .ok (a, t)) :
    m s.env.hal = .ok (a, t.env.hal) := by
  obtain ⟨b, env, henv, heq⟩ := zoom_eq_ok.mp h
  obtain ⟨c, hal, hhal, heq'⟩ := zoom_eq_ok.mp henv
  cases heq
  cases heq'
  exact hhal

/-- Registration opens the HAL, and with the DTV interface of `dtv.c` does
nothing else to it; it yields a handler only if the HAL could be opened. -/
theorem registerDtv_hal {cb : Option SendPdu} {handler : Option Handler}
    (h : DtvIo.registerDtv (.inTree lib fdio driver p runTask) cb s = .ok (handler, t)) :
    ∃ r, tvInputHalInit driver s.env.hal = .ok (r, t.env.hal) ∧
      (handler ≠ none → r = tvStatusSuccess) := by
  obtain ⟨r, u, hinit, hrest⟩ := bind_eq_ok.mp h
  have hhal : tvInputHalInit driver s.env.hal = .ok (r, u.env.hal) := inEnv_onHal hinit
  by_cases hr : r = tvStatusSuccess
  · subst hr
    cases hrest
    exact ⟨_, hhal, fun _ => rfl⟩
  · rw [if_pos hr] at hrest
    obtain ⟨r', v, huninit, hpure⟩ := bind_eq_ok.mp hrest
    cases hpure
    obtain ⟨hlive, hfit, -⟩ := tvInputHalInit_spec hhal
    have hidle := tvInputHalUninit_eq hfit (inEnv_onHal huninit)
    rw [hlive] at hidle
    have heq : t.env.hal = u.env.hal := (Prod.mk.inj hidle).2
    rw [heq]
    exact ⟨r, hhal, fun hnone => absurd rfl hnone⟩

theorem unregisterDtv_hal {r : Int32}
    (h : DtvIo.unregisterDtv (.inTree lib fdio driver p runTask) s = .ok (r, t)) :
    ∃ r, tvInputHalUninit driver s.env.hal = .ok (r, t.env.hal) := by
  obtain ⟨r, u, huninit, hrest⟩ := bind_eq_ok.mp h
  refine ⟨r, ?_⟩
  have hhal := inEnv_onHal huninit
  split at hrest
  · cases hrest
    exact hhal
  · cases hrest
    exact hhal

namespace ServiceOp

theorem run_halEvent {event : TvInputEvent} (hfit : s.env.hal.Fits)
    (h : (halEvent event).run (.inTree lib fdio driver p runTask) s = .ok ((), t)) :
    Notifies driver event s.env.hal t.env.hal := notifies_of_ok hfit (inEnv_onHal h)

theorem run_setSource {tunerId : CString} {sourceType : UInt8}
    (h : (setSource tunerId sourceType).run (.inTree lib fdio driver p runTask) s = .ok ((), t)) :
    ∃ r, tvInputHalGetStream driver (deviceOf (.inTree lib fdio driver p runTask) tunerId) .unset s.env.hal =
      .ok (r, t.env.hal) := by
  obtain ⟨r, u, hset, hpure⟩ := bind_eq_ok.mp h
  cases hpure
  exact ⟨r, inEnv_onHal hset⟩

theorem run_register {cb : Option SendPdu}
    (h : (register cb).run (.inTree lib fdio driver p runTask) s = .ok ((), t)) :
    ∃ r, tvInputHalInit driver s.env.hal = .ok (r, t.env.hal) := by
  obtain ⟨handler, u, hregister, hpure⟩ := bind_eq_ok.mp h
  cases hpure
  obtain ⟨r, hhal, -⟩ := registerDtv_hal hregister
  exact ⟨r, hhal⟩

theorem run_unregister (hfit : s.env.hal.Fits)
    (h : unregister.run (.inTree lib fdio driver p runTask) s = .ok ((), t)) :
    t.env.hal = s.env.hal.withCalls (closeActing driver s.env.hal.live s.env.hal.calls) := by
  obtain ⟨r, u, hunregister, hpure⟩ := bind_eq_ok.mp h
  cases hpure
  obtain ⟨status, hhal⟩ := unregisterDtv_hal hunregister
  exact (Prod.mk.inj (tvInputHalUninit_eq hfit hhal)).2

end ServiceOp

end

/-! ### Runs -/

section

variable {lib : Lib} {fdio : Fdio} {driver : Driver} {p : Platform}
  {runTask : List PduOp → Wbuf → Int32} {s t : DtvService} {op : ServiceOp}

/-- One step keeps the list sound, and keeps it in agreement with the driver
exactly when the driver answers as expected. -/
theorem serviceStep_agrees (hstep : op.Step (.inTree lib fdio driver p runTask) s t)
    (hsound : s.env.hal.Sound) :
    t.env.hal.Sound ∧ (s.env.hal.Agrees →
      (t.env.hal.Agrees ↔ op.Answered (.inTree lib fdio driver p runTask) s)) := by
  obtain ⟨hallowed, hrun⟩ := hstep
  cases op with
  | halEvent event =>
    have hnotify := ServiceOp.run_halEvent hsound.fits hrun
    exact ⟨hsound.notify hnotify, fun hagree => agrees_notify_iff hsound hagree hnotify⟩
  | setSource tunerId sourceType =>
    obtain ⟨r, hset⟩ := ServiceOp.run_setSource hrun
    exact agrees_getStream_iff hsound hallowed hset
  | register cb =>
    obtain ⟨r, hinit⟩ := ServiceOp.run_register hrun
    obtain ⟨hlive, hfit, ⟨setup, hcalls, hsetup⟩, -⟩ := tvInputHalInit_spec hinit
    refine ⟨⟨hfit, ?_⟩, fun hagree => agrees_init_iff hagree hlive hcalls hsetup⟩
    rw [hlive]
    exact List.Pairwise.nil
  | unregister =>
    rw [ServiceOp.run_unregister hsound.fits hrun]
    exact ⟨⟨hsound.fits, hsound.exclusive⟩, fun hagree => agrees_uninit_iff hagree⟩

/-- The start of a run: the HAL was opened for the first time. -/
def ServiceStart (driver : Driver) (s : DtvService) : Prop :=
  ∃ r, tvInputHalInit driver .zero = .ok (r, s.env.hal)

theorem ServiceStart.sound (h : ServiceStart driver s) : s.env.hal.Sound ∧ s.env.hal.Agrees := by
  obtain ⟨r, hinit⟩ := h
  obtain ⟨hlive, hfit, ⟨setup, hcalls, hsetup⟩, -⟩ := tvInputHalInit_spec hinit
  refine ⟨⟨hfit, ?_⟩, ?_⟩
  · rw [hlive]
    exact List.Pairwise.nil
  · have hzero : TvHal.zero.live = [] := rfl
    have hnone : TvHal.zero.Agrees := by
      rw [TvHal.Agrees, hzero]
      exact holdings_nil.symm
    exact (agrees_init_iff hnone hlive hcalls hsetup).mpr (by simp [hzero])

/-- In a run of the service the device list records exactly the open streams in
every state if and only if the driver answers every step as expected. -/
theorem streams_agree_iff {l : List (Transition DtvService ServiceOp)} (hstart : ServiceStart driver s)
    (hrun : Run (ServiceOp.Step (.inTree lib fdio driver p runTask)) s l t) :
    (∀ x ∈ l, x.after.env.hal.Agrees) ↔
      ∀ x ∈ l, x.label.Answered (.inTree lib fdio driver p runTask) x.before := by
  obtain ⟨hsound, hagree⟩ := hstart.sound
  have hkeep (a : DtvService) (op : ServiceOp) (b : DtvService)
      (hstep : op.Step (.inTree lib fdio driver p runTask) a b) (h : a.env.hal.Sound) :
      b.env.hal.Sound := (serviceStep_agrees hstep h).1
  have hgood (a : DtvService) (op : ServiceOp) (b : DtvService)
      (hstep : op.Step (.inTree lib fdio driver p runTask) a b) (h : a.env.hal.Sound)
      (hagree : a.env.hal.Agrees) :
      b.env.hal.Agrees ↔ op.Answered (.inTree lib fdio driver p runTask) a :=
    (serviceStep_agrees hstep h).2 hagree
  exact hrun.good_iff hkeep hgood hsound hagree

end

/-! ### A failing run -/

/-- A driver that offers stream 5 at first and stream 7 once a stream was opened,
closes any stream, and opens no stream but 5. -/
def switchingDriver : Driver where
  hwGetModule _ := 0
  openModule _ := 0
  initializeDevice _ := 0
  getStreamConfigurations calls _ :=
    (0, [⟨if calls.any fun call => call.move.isSome then 7 else 5, .independentVideoSource, 0, 0⟩])
  openStream _ _ streamId := (if streamId = 5 then 0 else -1, ⟨0, 0, 0, []⟩)
  closeStream _ _ _ := 0

/-- The state that an operation leads to. -/
def ServiceOp.next (w : World) (s : DtvService) (op : ServiceOp) : DtvService :=
  match op.run w s with
  | .ok (_, t) => t
  | .error _ => s

theorem ServiceOp.run_next {w : World} {s : DtvService} {op : ServiceOp}
    (hok : (op.run w s).isOk = true) : op.run w s = .ok ((), op.next w s) := by
  unfold ServiceOp.next
  cases hrun : op.run w s with
  | ok r => rfl
  | error e =>
    rw [hrun] at hok
    cases hok

theorem ServiceOp.step_next {w : World} {s : DtvService} {op : ServiceOp} (h : op.Allowed w s)
    (hok : (op.run w s).isOk = true) : op.Step w s (op.next w s) := ⟨h, run_next hok⟩

/-- The service right after `tv_input_hal_init`. -/
def switchingStart : DtvService where
  env := ⟨[], { TvHal.zero with
    module := true, device := true,
    calls := [.initializeDevice 0, .openModule 0, .hwGetModule 0] }, []⟩
  sendPdu := none
  dtvCallbacks := false

/-- The numeral `1`. -/
def tunerOne : CString := ⟨[49], by decide⟩

/-- The device becomes available and gets a stream. -/
def switchingRun : List (Transition DtvService ServiceOp) :=
  let w := World.onDriver switchingDriver
  let available := ServiceOp.halEvent ⟨.deviceAvailable, 1, .tuner⟩
  let s₁ := available.next w switchingStart
  let s₂ := (ServiceOp.setSource tunerOne 0).next w s₁
  [⟨switchingStart, available, s₁⟩, ⟨s₁, .setSource tunerOne 0, s₂⟩]

/-- The state after it. -/
def switchingState : DtvService :=
  let w := World.onDriver switchingDriver
  let s₁ := (ServiceOp.halEvent ⟨.deviceAvailable, 1, .tuner⟩).next w switchingStart
  (ServiceOp.setSource tunerOne 0).next w s₁

theorem switchingStart_start : ServiceStart switchingDriver switchingStart :=
  ⟨tvStatusSuccess, rfl⟩

theorem switchingRun_run :
    Run (ServiceOp.Step (.onDriver switchingDriver)) switchingStart switchingRun switchingState :=
  .cons (ServiceOp.step_next trivial rfl)
    (.cons (ServiceOp.step_next ⟨⟨1, .tuner, -1⟩, List.mem_cons_self, rfl⟩ rfl) (.nil _))

/-- While the driver does as it is told, the list is right. -/
theorem streams_agree_switchingRun :
    switchingRun.length = 2 ∧ ∀ x ∈ switchingRun, x.after.env.hal.Agrees := by
  refine ⟨rfl, (streams_agree_iff switchingStart_start switchingRun_run).mpr ?_⟩
  intro x hx
  rcases List.mem_cons.mp hx with rfl | hx
  · intro info hinfo
    cases hinfo
  · rw [List.mem_singleton.mp hx]
    intro _
    decide

/-- An event announces a device only while it is not listed. -/
def ServiceOp.Fresh (s : DtvService) : ServiceOp → Prop
  | .halEvent event => event.type = .deviceAvailable →
    ∀ info ∈ s.env.hal.live, info.deviceId ≠ event.deviceId
  | _ => True

/-- The second Set source command closes stream 5 and fails to open stream 7; the
list still records stream 5. -/
theorem streams_disagree : ¬∀ (lib : Lib) (fdio : Fdio) (driver : Driver) (p : Platform)
    (runTask : List PduOp → Wbuf → Int32) (s t : DtvService)
    (l : List (Transition DtvService ServiceOp)), ServiceStart driver s →
    Run (ServiceOp.Step (.inTree lib fdio driver p runTask)) s l t →
    (∀ x ∈ l, x.label.Fresh x.before) → ∀ x ∈ l, x.after.env.hal.Agrees := by
  intro h
  let w := World.onDriver switchingDriver
  let last := (ServiceOp.setSource tunerOne 0).next w switchingState
  have hstep : ServiceOp.Step w switchingState (.setSource tunerOne 0) last :=
    ServiceOp.step_next ⟨⟨1, .tuner, 5⟩, List.mem_cons_self, rfl⟩ rfl
  have hfresh : ∀ x ∈ switchingRun ++ [⟨switchingState, .setSource tunerOne 0, last⟩],
      x.label.Fresh x.before := by
    intro x hx
    rcases List.mem_cons.mp hx with rfl | hx
    · intro _ info hinfo
      cases hinfo
    · rcases List.mem_cons.mp hx with rfl | hx
      · trivial
      · rw [List.mem_singleton.mp hx]
        trivial
  have hagree : openPairs last.env.hal.calls = actingPairs last.env.hal.live :=
    h _ _ _ _ _ _ _ _ switchingStart_start (switchingRun_run.append (.single hstep)) hfresh _
      (List.mem_append_right _ List.mem_cons_self)
  have hopen : openPairs last.env.hal.calls = ∅ := by
    have hmoves : last.env.hal.calls.filterMap HalCall.move = [.drop (1, 5), .take (1, 5)] := rfl
    rw [openPairs, hmoves]
    simp
  have hacting : ((1, 5) : Int32 × Int32) ∈ actingPairs last.env.hal.live :=
    mem_actingPairs.mpr ⟨⟨1, .tuner, 5⟩, List.mem_cons_self, rfl, rfl, by decide⟩
  rw [← hagree, hopen] at hacting
  exact hacting

end Tvd

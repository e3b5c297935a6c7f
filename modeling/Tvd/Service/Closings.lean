import Tvd.Hal.Closings
import Tvd.Service.Handles

/-! Runs of the DTV service, and the closes that they make. The closes of a run are all
in order exactly when the run closes nothing for a device that is idle or was left
behind by an earlier operation. -/

namespace Tvd

open Exec

variable {lib : Lib} {fdio : Fdio} {driver : Driver} {p : Platform}
  {runTask : List PduOp → Wbuf → Int32} {s t : DtvService} {op : ServiceOp} {left : Set Int32}

namespace ServiceOp

variable (w : World)

/-- Steps of the service, with Set source commands for any device. -/
def Returns (s : DtvService) (op : ServiceOp) (t : DtvService) : Prop := op.run w s = .ok ((), t)

/-- The operation closes no stream of a device that is idle or left behind. -/
def Clear (left : Set Int32) (s : DtvService) : ServiceOp → Prop
  | .halEvent event => event.FindsActing s.env.hal left
  | .setSource tunerId _ => ReplacesOpen w.driver s.env.hal (deviceOf w tunerId) left
  | .register _ => True
  | .unregister => left = ∅

/-- The devices left behind once the operation is done. -/
def leaves (left : Set Int32) (s : DtvService) : ServiceOp → Set Int32
  | .halEvent _ => left
  | .setSource tunerId _ =>
    left ∪ {d | d = deviceOf w tunerId ∧ LosesStream w.driver s.env.hal (deviceOf w tunerId)}
  | .register _ => ∅
  | .unregister => closedDevices w.driver s.env.hal.live s.env.hal.calls

end ServiceOp

/-- One step makes its closes in order exactly when it is clear. -/
theorem serviceStep_closesOpen_iff (hstep : op.Returns (.inTree lib fdio driver p runTask) s t)
    (htracks : s.env.hal.Tracks left) (horder : ClosesOpen s.env.hal.calls) :
    ClosesOpen t.env.hal.calls ↔ op.Clear (.inTree lib fdio driver p runTask) left s := by
  cases op with
  | halEvent event =>
    exact closesOpen_notify_iff htracks horder (ServiceOp.run_halEvent htracks.sound.fits hstep)
  | setSource tunerId sourceType =>
    obtain ⟨r, hset⟩ := ServiceOp.run_setSource hstep
    exact closesOpen_getStream_iff htracks horder hset
  | register cb =>
    obtain ⟨r, hinit⟩ := ServiceOp.run_register hstep
    obtain ⟨-, -, ⟨setup, hcalls, hsetup⟩, -⟩ := tvInputHalInit_spec hinit
    refine iff_of_true ?_ trivial
    rw [hcalls]
    exact (closesOpen_setup hsetup _).mpr horder
  | unregister =>
    rw [ServiceOp.run_unregister htracks.sound.fits hstep]
    exact closesOpen_uninit_iff htracks horder

/-- One clear step keeps track of the devices left behind. -/
theorem serviceStep_tracks (hstep : op.Returns (.inTree lib fdio driver p runTask) s t)
    (htracks : s.env.hal.Tracks left) (hclear : op.Clear (.inTree lib fdio driver p runTask) left s) :
    t.env.hal.Tracks (op.leaves (.inTree lib fdio driver p runTask) left s) := by
  cases op with
  | halEvent event =>
    exact htracks.notify (ServiceOp.run_halEvent htracks.sound.fits hstep) hclear
  | setSource tunerId sourceType =>
    obtain ⟨r, hset⟩ := ServiceOp.run_setSource hstep
    exact htracks.getStream hset hclear
  | register cb =>
    obtain ⟨r, hinit⟩ := ServiceOp.run_register hstep
    obtain ⟨hlive, hfit, -⟩ := tvInputHalInit_spec hinit
    exact hfit.tracks hlive
  | unregister =>
    obtain rfl : left = ∅ := hclear
    rw [ServiceOp.run_unregister htracks.sound.fits hstep]
    exact htracks.uninit

/-- From the start of the daemon on, every close of a run names an open stream if and
only if no step closes a stream of a device that is idle, or that an earlier step left
behind. -/
theorem closes_open_iff {l : List (Transition DtvService ServiceOp)} (hstart : s.env.hal = .zero)
    (hrun : Run (ServiceOp.Returns (.inTree lib fdio driver p runTask)) s l t) :
    (∀ x ∈ l, ClosesOpen x.after.env.hal.calls) ↔
      Run.Follows (ServiceOp.Clear (.inTree lib fdio driver p runTask))
        (ServiceOp.leaves (.inTree lib fdio driver p runTask)) ∅ l := by
  have htracks : s.env.hal.Tracks ∅ := by
    rw [hstart]
    exact TvHal.Fits.tracks (Nat.zero_le _) rfl
  have horder : ClosesOpen s.env.hal.calls := by
    rw [hstart]
    trivial
  have hiff (left : Set Int32) (a : DtvService) (op : ServiceOp) (b : DtvService)
      (hstep : op.Returns (.inTree lib fdio driver p runTask) a b) (htracks : a.env.hal.Tracks left) :
      ClosesOpen a.env.hal.calls → (ClosesOpen b.env.hal.calls ↔ _) :=
    serviceStep_closesOpen_iff hstep htracks
  have htrack (left : Set Int32) (a : DtvService) (op : ServiceOp) (b : DtvService)
      (hstep : op.Returns (.inTree lib fdio driver p runTask) a b) (htracks : a.env.hal.Tracks left) :
      op.Clear _ left a → b.env.hal.Tracks _ := serviceStep_tracks hstep htracks
  exact hrun.good_iff_follows hiff htrack htracks horder

/-! ### A device that comes and goes -/

/-- The service before any registration. -/
def DtvService.initial : DtvService := ⟨⟨[], .zero, []⟩, none, false⟩

/-- The transitions of operations that return. -/
def ServiceOp.trace (w : World) : DtvService → List ServiceOp → List (Transition DtvService ServiceOp)
  | _, [] => []
  | s, op :: ops => ⟨s, op, op.next w s⟩ :: trace w (op.next w s) ops

def ServiceOp.last (w : World) (s : DtvService) (ops : List ServiceOp) : DtvService :=
  ops.foldl (fun s op => op.next w s) s

theorem ServiceOp.trace_run {w : World} {ops : List ServiceOp} : ∀ {s : DtvService},
    (∀ x ∈ trace w s ops, (x.label.run w x.before).isOk = true) →
      Run (ServiceOp.Returns w) s (trace w s ops) (last w s ops) := by
  induction ops with
  | nil => intro s _; exact .nil s
  | cons op ops ih =>
    intro s hok
    exact .cons (run_next (hok _ List.mem_cons_self)) (ih fun x hx => hok x (List.mem_cons_of_mem _ hx))

/-- Tuner 1 becomes available, and then it is gone. -/
def tunerArrives : ServiceOp := .halEvent ⟨.deviceAvailable, 1, .tuner⟩

def tunerLeaves : ServiceOp := .halEvent ⟨.deviceUnavailable, 1, .tuner⟩

/-- With a stream in between. -/
def watchedTuner : List ServiceOp :=
  [.register (some .sendPdu), tunerArrives, .setSource tunerOne 0, tunerLeaves]

/-- Without one. -/
def unwatchedTuner : List ServiceOp := [.register (some .sendPdu), tunerArrives, tunerLeaves]

theorem closes_open_watchedTuner :
    (ServiceOp.trace (.onDriver steadyDriver) .initial watchedTuner).length = 4 ∧
      ∀ x ∈ ServiceOp.trace (.onDriver steadyDriver) .initial watchedTuner,
        ClosesOpen x.after.env.hal.calls := by
  refine ⟨rfl, (closes_open_iff rfl (ServiceOp.trace_run (by decide +kernel))).mpr ?_⟩
  refine ⟨trivial, ?_, ?_, ?_, trivial⟩
  · intro info hinfo
    cases hinfo
  · intro config info _ hinfo hacting
    cases hinfo
    exact absurd rfl hacting
  · intro info hinfo
    cases hinfo
    refine ⟨by decide, ?_⟩
    rintro (hleft | ⟨-, config, info, -, hinfo, hacting, -⟩)
    · exact hleft
    · cases hinfo
      exact absurd rfl hacting

/-- The event that removes an idle tuner closes stream -1. -/
theorem closes_unopened : ¬∀ (lib : Lib) (fdio : Fdio) (driver : Driver) (p : Platform)
    (runTask : List PduOp → Wbuf → Int32) (s t : DtvService)
    (l : List (Transition DtvService ServiceOp)), s.env.hal = .zero →
    Run (ServiceOp.Returns (.inTree lib fdio driver p runTask)) s l t →
    ∀ x ∈ l, ClosesOpen x.after.env.hal.calls := by
  intro h
  have hrun : Run (ServiceOp.Returns (.onDriver steadyDriver)) .initial
      (ServiceOp.trace (.onDriver steadyDriver) .initial unwatchedTuner)
      (ServiceOp.last (.onDriver steadyDriver) .initial unwatchedTuner) :=
    ServiceOp.trace_run (by decide +kernel)
  have hlast := h _ _ _ _ _ _ _ _ rfl hrun _ (List.getLast_mem (List.cons_ne_nil _ _))
  exact hlast.1.2 rfl

end Tvd

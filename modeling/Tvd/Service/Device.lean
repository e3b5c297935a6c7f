import Tvd.Hal.Rules
import Tvd.Service.Control
import Tvd.Service.Streams

/-! What the in-tree daemon keeps true of the TV HAL: the live entries fit into
the table, and while the DTV service is registered the driver's device is open. -/

namespace Tvd

open Exec

/-! ### The shape of the HAL -/

/-- Whether the device is open, and how many entries are live. -/
def TvHal.shape (s : TvHal) : Bool × UInt8 := (s.device, s.deviceNum)

theorem shape_rules : HalRules fun _ (m : HalM _) => Keeps TvHal.shape m where
  toClosed := keeps_closed _
  get := keeps_get _
  callDevice call := by
    refine (keeps_get _).bind fun s => .ite ?_ (keeps_throw _ _)
    exact Keeps.bind (keeps_modify fun _ => rfl) fun _ => keeps_pure _ _
  getDevice idx := by
    refine (keeps_get _).bind fun s => ?_
    split
    · exact keeps_pure _ _
    · exact keeps_throw _ _
  setDevice idx info := by
    unfold setDevice
    split
    · exact keeps_modify fun _ => rfl
    · exact keeps_throw _ _
  store _ _ _ := keeps_lift _ _

/-! ### The daemon -/

/-- The live entries fit, and a registered DTV service has an open device. -/
structure Daemon.HalReady (s : Daemon) : Prop where
  fits : s.dtv.env.hal.Fits
  device : s.gServiceHandler serviceDtv ≠ none → s.dtv.env.hal.device = true

section

variable {lib : Lib} {fdio : Fdio} {driver : Driver} {p : Platform}
  {runTask : List PduOp → Wbuf → Int32}

theorem halReady_ofControl : OfControl Daemon.HalReady := by
  intro s t hcontrol hs
  have hhal : t.dtv.env.hal = s.dtv.env.hal := congrArg Control.hal hcontrol
  have htable : t.gServiceHandler = s.gServiceHandler := congrArg Control.gServiceHandler hcontrol
  exact ⟨hhal ▸ hs.fits, fun h => hhal ▸ hs.device (htable ▸ h)⟩

/-- Code on the HAL that keeps its shape keeps the HAL ready. -/
theorem halReady_of_keeps {α : Type} {m : EnvM α} (h : Keeps (fun env => env.hal.shape) m) :
    Preserves Daemon.HalReady (onEnv m) := by
  refine Preserves.zoom fun s hs => (h _).mono fun _ env henv => ?_
  have hdevice : env.hal.device = s.dtv.env.hal.device := congrArg Prod.fst henv
  have hnum : env.hal.deviceNum = s.dtv.env.hal.deviceNum := congrArg Prod.snd henv
  refine ⟨?_, fun hregistered => hdevice.trans (hs.device hregistered)⟩
  have hfit := hs.fits
  unfold TvHal.Fits at hfit ⊢
  rw [← hnum] at hfit
  exact hfit

theorem keeps_onHal {α : Type} {m : HalM α} (h : Keeps TvHal.shape m) :
    Keeps (fun env : DtvEnv => env.hal.shape) (onHal m) := h.zoom

theorem keeps_dtvGetTuners (n : UInt32) (tuners : Option ℕ) :
    Keeps (fun env : DtvEnv => env.hal.shape) (dtvGetTuners lib p n tuners) := by
  have hheap {α : Type} (m : HeapM α) : Keeps (fun env : DtvEnv => env.hal.shape) (onHeap m) :=
    keeps_zoom (fun _ _ => rfl) m
  refine (hheap _).bind fun block => (keeps_onHal (shape_rules.getInputs _ _ _)).bind fun found => ?_
  refine .ite ((hheap _).bind fun _ => keeps_pure _ _) ?_
  refine ((keeps_closed _).accumulate (fun idx items => ?_) _ _ _).bind fun _ =>
    (hheap _).bind fun _ => keeps_pure _ _
  refine (hheap _).bind fun id => (hheap _).bind fun str => .ite ?_ (keeps_pure _ _)
  exact (keeps_throw _ _).bind fun _ => keeps_pure _ _

theorem inTree_preserves_halReady : (DtvApi.inTree lib driver p).Preserves Daemon.HalReady where
  getTunerNum := halReady_of_keeps (keeps_onHal (shape_rules.getInputNum _))
  getTuners _ _ := halReady_of_keeps (keeps_dtvGetTuners _ _)
  setSource _ _ _ := halReady_of_keeps (keeps_onHal (shape_rules.getStream _ _))
  startScanning _ _ := halReady_of_keeps (keeps_pure _ _)
  stopScanning _ _ := halReady_of_keeps (keeps_pure _ _)
  clnScannedChannelCache := halReady_of_keeps (keeps_pure _ _)
  setChannel _ _ _ _ := halReady_of_keeps (keeps_pure _ _)
  getChannelNum _ _ := halReady_of_keeps (keeps_pure _ _)
  getChannels _ _ _ _ := halReady_of_keeps (keeps_pure _ _)
  getProgNum _ _ _ _ _ := halReady_of_keeps (keeps_pure _ _)
  getPrograms _ _ _ _ _ _ _ := halReady_of_keeps (keeps_pure _ _)

theorem halReady_invariant :
    ControlInvariant (.inTree lib fdio driver p runTask) Daemon.HalReady where
  ofControl := halReady_ofControl
  api := inTree_preserves_halReady
  event event := by
    refine Preserves.zoom fun s hs => ensures_zoom.mpr fun _ hal hrun => ?_
    obtain ⟨-, -, -, hdevice, hfit⟩ := notifies_of_ok hs.fits hrun
    exact ⟨hfit, fun hregistered => hdevice.trans (hs.device hregistered)⟩
  register s handler dtv hs hfree hrun := by
    obtain ⟨r, hinit, hsuccess⟩ := registerDtv_hal hrun
    obtain ⟨-, hfit, -, hdevice⟩ := tvInputHalInit_spec hinit
    refine ⟨hfit, fun hregistered => ?_⟩
    cases handler with
    | none => exact absurd hfree hregistered
    | some handler => exact hdevice (hsuccess (Option.some_ne_none _))
  unregister s result dtv hs hrun := by
    obtain ⟨r, huninit⟩ := unregisterDtv_hal hrun
    have hshape : dtv.env.hal.shape = s.dtv.env.hal.shape := shape_rules.uninit _ _ _ huninit
    have hdevice : dtv.env.hal.device = s.dtv.env.hal.device := congrArg Prod.fst hshape
    have hnum : dtv.env.hal.deviceNum = s.dtv.env.hal.deviceNum := congrArg Prod.snd hshape
    have hfit := hs.fits
    refine ⟨?_, fun hregistered => hdevice.trans (hs.device ?_)⟩
    · unfold TvHal.Fits at hfit ⊢
      exact hnum ▸ hfit
    · unfold Daemon.afterUnregister at hregistered
      dsimp only at hregistered
      split at hregistered
      · exact hregistered
      · rw [Function.update_self] at hregistered
        exact absurd rfl hregistered

/-- The TV HAL is ready in every reachable state of the in-tree daemon. -/
theorem Daemon.Reachable.halReady {s : Daemon}
    (h : Daemon.Reachable (.inTree lib fdio driver p runTask) s) : s.HalReady := by
  refine halReady_invariant.reachable (fun s hs => ?_) h
  have hcontrol := hs.control
  have hhal : s.dtv.env.hal = .zero := congrArg Control.hal hcontrol
  have htable : s.gServiceHandler serviceDtv = none :=
    congrFun (congrArg Control.gServiceHandler hcontrol) serviceDtv
  exact ⟨hhal ▸ Nat.zero_le _, fun hregistered => absurd htable hregistered⟩

end

end Tvd

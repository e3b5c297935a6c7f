import Tvd.Model.TvHal

/-! The functions of the TV HAL are put together from calls through `device`, from
accesses to the table, and from loops. A property of code that all of these have
is one of every function that does not open the HAL. -/

namespace Tvd

open Exec

/-- A property of the accesses to the HAL that sequences keep. -/
structure HalRules (Q : (α : Type) → HalM α → Prop) : Prop extends Closed Q where
  get : Q TvHal get
  callDevice : ∀ {α : Type} (call : List HalCall → α × HalCall), Q α (callDevice call)
  getDevice : ∀ idx, Q DeviceInfo (getDevice idx)
  setDevice : ∀ idx info, Q Unit (setDevice idx info)
  store : ∀ (devices : IntArray) idx v, Q IntArray (Exec.lift (devices.store idx v))

namespace HalRules

variable {Q : (α : Type) → HalM α → Prop} {driver : Driver} (h : HalRules Q)

include h

theorem findDevice (deviceId : Int32) : Q ℕ (findDevice deviceId) :=
  h.bind h.get fun _ => h.search (fun _ => h.bind (h.getDevice _) fun _ => h.pure _) _ _

theorem setActingStreamId (idx : ℕ) (streamId : Int32) : Q Unit (setActingStreamId idx streamId) :=
  h.bind (h.getDevice _) fun _ => h.setDevice _ _

theorem openAndStore (deviceId : Int32) (idx : ℕ) (streamId : Int32) (tvStream : TvStream) :
    Q (UInt8 × TvStream) (openAndStore driver deviceId idx streamId tvStream) := by
  refine h.bind (h.callDevice _) fun answer => Closed.ite (h.pure _) ?_
  exact h.bind (h.setActingStreamId _ _) fun _ => h.pure _

theorem getStream (deviceId : Int32) (tvStream : TvStream) :
    Q (UInt8 × TvStream) (tvInputHalGetStream driver deviceId tvStream) := by
  refine h.bind (h.callDevice _) fun answer => Closed.ite (h.pure _) ?_
  cases firstVideoConfig answer.2 with
  | none => exact h.pure _
  | some config =>
    refine h.bind (h.findDevice _) fun idx => h.bind h.get fun s => ?_
    have hopen : Q (UInt8 × TvStream) (Tvd.openAndStore driver deviceId idx config.streamId
      (tvStream.configure config)) := h.openAndStore _ _ _ _
    refine Closed.ite (h.bind (h.getDevice _) fun info => ?_) hopen
    refine Closed.ite (Closed.ite ?_ (h.pure _)) hopen
    exact h.bind (h.callDevice _) fun result => Closed.ite (h.pure _) hopen

theorem uninit : Q UInt8 (tvInputHalUninit driver) := by
  refine h.bind h.get fun s => h.bind (h.forRange (fun idx => ?_) _ _) fun _ => h.pure _
  refine h.bind (h.getDevice _) fun info => Closed.ite ?_ (h.pure _)
  exact h.bind (h.callDevice _) fun _ => h.pure _

theorem getInputNum (type : TvInputType) : Q UInt32 (tvInputHalGetInputNumByType type) := by
  refine h.bind h.get fun s => ?_
  exact h.bind (h.accumulate (fun idx sum => h.bind (h.getDevice _) fun _ => h.pure _) _ _ _)
    fun _ => h.pure _

theorem getInputs (inputNum : UInt8) (type : TvInputType) (devices : IntArray) :
    Q (UInt8 × IntArray) (tvInputHalGetInputsByType inputNum type devices) := by
  refine h.bind h.get fun s => h.bind (h.accumulate (fun idx acc => ?_) _ _ _) fun _ => h.pure _
  refine h.bind (h.getDevice _) fun info => Closed.ite ?_ (h.pure _)
  exact h.bind (h.store _ _ _) fun _ => h.pure _

end HalRules

end Tvd

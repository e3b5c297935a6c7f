import Tvd.Service.Handlers

/-! What the daemon is made of. Its code works on the parts of its state, installs
handlers and queues tasks; a property of code that these have, and that sequences keep,
every callback has. -/

namespace Tvd

open Exec

/-- One rule for each thing that the code does. -/
structure DaemonRules (Q : (α : Type) → DaemonM α → Prop) : Prop extends Closed Q where
  get : Q Daemon Exec.get
  throw : ∀ {α : Type} (e : Fault), Q α (Exec.throw e)
  lift : ∀ {α : Type} (r : Except Fault α), Q α (Exec.lift r)
  onIo : ∀ {α : Type} (m : IoM α), Q α (onIo m)
  onPdus : ∀ {α : Type} (m : PduM α), Q α (onPdus m)
  onEnv : ∀ {α : Type} (m : EnvM α), Q α (onEnv m)
  onDtv : ∀ {α : Type} (m : DtvM α), Q α (onDtv m)
  setServiceHandler : ∀ service handler, Q Unit (setServiceHandler service handler)
  tasks : ∀ f : List Wbuf → List Wbuf, Q Unit (Exec.modify fun s => { s with tasks := f s.tasks })

namespace DaemonRules

variable {w : World} {Q : (α : Type) → DaemonM α → Prop} (h : DaemonRules Q)

include h

theorem call (wbuf : Wbuf) (cb : Option SendPdu) : Q Unit (SendPdu.call w wbuf cb) := by
  cases cb with
  | none => exact h.throw _
  | some cb =>
    cases cb
    exact h.bind (h.onPdus _) fun _ => h.bind (h.onIo _) fun _ => h.pure _

theorem dtvSendPdu (wbuf : Wbuf) : Q Unit (DtvIo.sendPdu w wbuf) := h.bind h.get fun s => h.call wbuf s.dtv.sendPdu

theorem registrySendPdu (wbuf : Wbuf) : Q Unit (Registry.sendPdu w wbuf) :=
  h.bind h.get fun s => h.call wbuf s.gSendPdu

theorem sendNtfPdu (wbuf : Wbuf) : Q IoResult (DtvIo.sendNtfPdu w wbuf) :=
  h.bind h.get fun _ => Closed.ite (h.pure _) (h.bind (h.dtvSendPdu wbuf) fun _ => h.pure _)

/-! ### Commands -/

theorem destroyed (wbuf : Wbuf) (status : Int32) : Q Int32 (do Tvd.onPdus (destroyPduWbuf wbuf); return status) :=
  h.bind (h.onPdus _) fun _ => h.pure _

theorem reply (cmd : Pdu) (wbuf : Option Wbuf) (fill : DtvIo.Fill) (release : List HeapOp) :
    Q Int32 (DtvIo.reply w cmd wbuf fill release) := by
  cases wbuf with
  | none => exact h.pure _
  | some wbuf =>
    refine h.bind (h.onPdus _) fun filled => ?_
    cases filled with
    | none => exact h.bind (h.onEnv _) fun _ => h.destroyed _ _
    | some wbuf => exact h.bind (h.dtvSendPdu wbuf) fun _ => h.bind (h.onEnv _) fun _ => h.pure _

theorem dtvHandler (cmd : Pdu) : Q Int32 (DtvIo.dtvHandler w cmd) := by
  have hrules : HandlerRules w cmd (Q Int32) :=
    { api := fun _ hf => h.bind (h.onEnv _) hf
      heap := fun _ hf => h.bind (h.onEnv _) hf
      size := fun _ hf => h.bind (h.lift _) hf
      code := fun _ => h.pure _
      indeterminate := h.throw _
      reply := fun _ _ _ => h.bind (h.onPdus _) fun _ => h.reply _ _ _ _
      sourceReply := fun _ => h.bind (h.onPdus _) fun _ => h.reply _ _ _ _ }
  exact hrules.dtvHandler

theorem registryHandler (services : Services) (cmd : Pdu) : Q Int32 (Registry.registryHandler w services cmd) := by
  have hrules : RegistryRules w services (Q Int32) :=
    { code := fun _ => h.pure _
      get := fun hf => h.bind h.get hf
      create := fun _ hnone hf => h.bind (h.onPdus _) (forall_created hnone (h.pure _) hf)
      destroyed := fun _ _ => h.destroyed _ _
      register := fun _ _ hf => h.bind (h.onDtv _) hf
      unregister := fun _ hf => h.bind (h.onDtv _) hf
      setHandler := fun _ _ hf => h.bind (h.setServiceHandler _ _) fun _ => hf
      append := fun _ _ _ hf => h.bind (h.onPdus _) hf
      send := fun wbuf => h.bind (h.registrySendPdu wbuf) fun _ => h.pure _ }
  exact hrules.registryHandler cmd

theorem sendErrorReply (service error : UInt8) : Q Unit (Io.sendErrorReply w service error) := by
  refine h.bind (h.onPdus _) fun wbuf => ?_
  cases wbuf with
  | none => exact h.throw _
  | some wbuf =>
    refine h.bind (h.onPdus _) fun appended => h.bind (h.onIo _) fun res => ?_
    exact Closed.ite (h.throw _) (h.pure _)

theorem handlePdu (services : Services) (cmd : Pdu) : Q Int32 (Io.handlePdu w services cmd) := by
  refine h.bind (h.onIo _) fun _ => h.bind h.get fun s => h.bind ?_ fun status => Closed.ite ?_ (h.pure _)
  · exact Io.serve_rule (h.pure _) (h.registryHandler services cmd) (h.dtvHandler cmd) s
  · exact h.bind (h.sendErrorReply _ _) fun _ => h.pure _

theorem fdIoIn (packet : Option (List UInt8)) : Q IoResult (Io.fdIoIn w packet) := by
  refine h.bind (h.bind (h.onIo _) fun io => ?_) fun _ => Closed.ite (h.pure _) (h.pure _)
  cases io.rbuf with
  | none => exact h.throw _
  | some rbuf =>
    refine h.bind (h.onIo _) fun _ => ?_
    cases packet with
    | none => exact h.pure _
    | some packet =>
      dsimp -zeta only
      extract_lets rbuf received rest
      have hrest (res : ℤ) : Q Int32 (rest res) := by
        refine Closed.ite (h.pure _) (h.bind (h.onIo _) fun _ => Closed.ite ?_ (Closed.ite (h.pure _) (h.pure _)))
        refine h.bind (h.handlePdu _ _) fun status => Closed.ite (h.pure _) ?_
        exact h.bind (h.onIo _) fun _ => h.pure _
      exact Closed.ite (h.bind (h.bind (h.onIo _) fun _ => h.pure _) hrest) (h.bind (h.pure _) hrest)

/-! ### Notifications -/

theorem notify (opcode : UInt8) (capacity : ℤ) (fill : DtvIo.Fill) : Q Unit (DtvIo.notify w opcode capacity fill) := by
  refine h.bind (h.onPdus _) fun wbuf => ?_
  cases wbuf with
  | none => exact h.pure _
  | some wbuf =>
    refine h.bind (h.onPdus _) fun filled => ?_
    cases filled with
    | none => exact h.onPdus _
    | some wbuf =>
      refine h.bind h.get fun s => h.bind (h.onPdus _) fun _ => Closed.ite (h.onPdus _) ?_
      exact h.tasks (· ++ [wbuf])

theorem channelUpdateNfyCb (chStatus : UInt8) (tunerId : Option CString) (sourceType : UInt8) (ch : Option TvChannel) :
    Q Unit (DtvIo.channelUpdateNfyCb w chStatus tunerId sourceType ch) := by
  refine Closed.ite ?_ (h.pure _)
  cases tunerId with
  | none => exact h.pure _
  | some tunerId => exact h.bind (h.lift _) fun _ => h.notify _ _ _

theorem scanEnded (opcode : UInt8) (tunerId : Option CString) (sourceType : UInt8) :
    Q Unit (DtvIo.scanEnded w opcode tunerId sourceType) := by
  cases tunerId with
  | none => exact h.pure _
  | some tunerId => exact h.notify _ _ _

theorem eventNfyCb (tunerId : Option CString) (sourceType : UInt8) (ch : Option TvChannel) (progNum : UInt32)
    (progs : Option (Records TvProgram)) : Q Unit (DtvIo.eventNfyCb w tunerId sourceType ch progNum progs) := by
  cases tunerId with
  | none => exact h.pure _
  | some tunerId => exact h.bind (h.lift _) fun _ => h.bind (h.lift _) fun _ => h.notify _ _ _

/-! ### Callbacks -/

theorem callback (input : Input) : Q IoResult (Daemon.callback w input) := by
  cases input with
  | halEvent event => exact h.bind (h.onEnv _) fun _ => h.pure _
  | channelUpdate chStatus tunerId sourceType ch =>
    exact h.bind (h.channelUpdateNfyCb _ _ _ _) fun _ => h.pure _
  | scanStatus scanStatus tunerId sourceType =>
    refine h.bind (Closed.ite ?_ (Closed.ite ?_ (h.pure _))) fun _ => h.pure _
    all_goals exact h.scanEnded _ _ _
  | eventNfy tunerId sourceType ch progNum progs => exact h.bind (h.eventNfyCb _ _ _ _ _) fun _ => h.pure _
  | task idx =>
    refine h.bind h.get fun s => ?_
    cases s.tasks[idx]? with
    | none => exact h.pure _
    | some wbuf => exact h.bind (h.tasks (·.eraseIdx idx)) fun _ => h.sendNtfPdu wbuf
  | readable packet => exact h.fdIoIn packet
  | writable => exact h.bind (h.onIo _) fun _ => Closed.ite (h.pure _) (h.pure _)
  | err => exact h.bind (h.onIo _) fun _ => h.pure _
  | hup => exact h.bind (h.onIo _) fun _ => h.pure _

end DaemonRules

/-! ### The loop goes on -/

theorem running_rules : DaemonRules fun _ m => Keeps Daemon.running m where
  toClosed := keeps_closed _
  get := keeps_get _
  throw _ := keeps_throw _ _
  lift _ := keeps_lift _ _
  onIo _ := keeps_zoom (fun _ _ => rfl) _
  onPdus _ := keeps_zoom (fun _ _ => rfl) _
  onEnv _ := keeps_zoom (fun _ _ => rfl) _
  onDtv _ := keeps_zoom (fun _ _ => rfl) _
  setServiceHandler _ _ := keeps_modify fun _ => rfl
  tasks _ := keeps_modify fun _ => rfl

end Tvd

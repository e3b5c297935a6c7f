import Tvd.Model.Daemon
import Tvd.Wire.Appends

/-! A command finds its handler in the table of its service. The handlers of the DTV
commands are all built in one way: calls of the DTV interface, allocations, sizes of
records, error codes, and in the end a reply that is created, filled and sent. What
holds of these parts and is kept when they are put together holds of every handler. -/

namespace Tvd

open Exec

/-! ### The tables -/

section

variable {w : World} {services : Services} {cmd : Pdu} {Q : DaemonM Int32 → Prop}

theorem DtvIo.dtvHandler_eq (cmd : Pdu) : DtvIo.dtvHandler w cmd = match DtvIo.commandTable w cmd.opcode with
    | none => pure errorUnsupported
    | some handler => handler cmd := by
  rw [DtvIo.dtvHandler, Dispatch.handlePduByOpcode_eq]
  cases DtvIo.commandTable w cmd.opcode with
  | none => rfl
  | some handler => rfl

namespace Registry

theorem registryHandler_register (h : cmd.opcode = opcodeRegisterModule) :
    registryHandler w services cmd = registerModule w services cmd := by
  rw [registryHandler, Dispatch.handlePduByOpcode_eq, commandTable, if_pos h]

theorem registryHandler_unregister (h : cmd.opcode = opcodeUnregisterModule) :
    registryHandler w services cmd = unregisterModule w services cmd := by
  have hne : cmd.opcode ≠ opcodeRegisterModule := by
    rw [h]
    decide
  rw [registryHandler, Dispatch.handlePduByOpcode_eq, commandTable, if_neg hne, if_pos h]

theorem registryHandler_unsupported (h : cmd.opcode ≠ opcodeRegisterModule)
    (h' : cmd.opcode ≠ opcodeUnregisterModule) : registryHandler w services cmd = pure errorUnsupported := by
  rw [registryHandler, Dispatch.handlePduByOpcode_eq, commandTable, if_neg h, if_neg h']

/-- What holds of the two commands, and where there is none, holds of the service. -/
theorem registryHandler_rule (hnone : Q (pure errorUnsupported)) (hregister : Q (registerModule w services cmd))
    (hunregister : Q (unregisterModule w services cmd)) : Q (registryHandler w services cmd) := by
  by_cases h : cmd.opcode = opcodeRegisterModule
  · rw [registryHandler_register h]
    exact hregister
  by_cases h' : cmd.opcode = opcodeUnregisterModule
  · rw [registryHandler_unregister h']
    exact hunregister
  · rw [registryHandler_unsupported h h']
    exact hnone

end Registry

/-- A command that begins to be handled. -/
def Daemon.logged (s : Daemon) (cmd : Pdu) : Daemon :=
  { s with io := { s.io with log := .handlePdu cmd :: s.io.log } }

namespace Io

variable {s : Daemon}

/-- The handler of the command's service, as `handle_pdu` looks it up. -/
def serve (w : World) (services : Services) (s : Daemon) (cmd : Pdu) : DaemonM Int32 :=
  Dispatch.handlePduByService cmd fun service =>
    (s.gServiceHandler service).map (Handler.call w services)

theorem serve_none (h : s.gServiceHandler cmd.service = none) : serve w services s cmd = pure errorUnsupported := by
  rw [serve, Dispatch.handlePduByService_eq, h]
  rfl

theorem serve_registry (h : s.gServiceHandler cmd.service = some .registryHandler) :
    serve w services s cmd = Registry.registryHandler w services cmd := by
  rw [serve, Dispatch.handlePduByService_eq, h]
  rfl

theorem serve_dtv (h : s.gServiceHandler cmd.service = some .dtvHandler) :
    serve w services s cmd = DtvIo.dtvHandler w cmd := by
  rw [serve, Dispatch.handlePduByService_eq, h]
  rfl

/-- What holds of the two services, and where there is none, holds of every command. -/
theorem serve_rule (hnone : Q (pure errorUnsupported)) (hregistry : Q (Registry.registryHandler w services cmd))
    (hdtv : Q (DtvIo.dtvHandler w cmd)) (s : Daemon) : Q (serve w services s cmd) := by
  cases h : s.gServiceHandler cmd.service with
  | none =>
    rw [serve_none h]
    exact hnone
  | some handler =>
    cases handler with
    | registryHandler =>
      rw [serve_registry h]
      exact hregistry
    | dtvHandler =>
      rw [serve_dtv h]
      exact hdtv

/-- The command is served, and an error reply is sent for the code that is returned. -/
theorem handlePdu_eq (s : Daemon) : handlePdu w services cmd s = (do
    let status ← serve w services (s.logged cmd) cmd
    if status ≠ 0 then sendErrorReply w cmd.service status.toUInt32.toUInt8
    return 0) (s.logged cmd) := by
  have hlog : onIo (logIo (.handlePdu cmd)) s = .ok ((), s.logged cmd) := rfl
  rw [handlePdu, bind_ok hlog, get_bind_apply]
  rfl

end Io

end

/-! ### Reading records -/

/-- Code that reads a value calls nothing. -/
def Plain {α : Type} (r : Except Fault α) : Prop := r ≠ .error .nullCallback

namespace Plain

variable {α β : Type}

theorem ok (a : α) : Plain (.ok a) := by
  intro h
  cases h

theorem error {e : Fault} (h : e ≠ .nullCallback) : Plain (.error e : Except Fault α) := by
  intro heq
  cases heq
  exact h rfl

theorem bind {r : Except Fault α} {f : α → Except Fault β} (hr : Plain r) (hf : ∀ a, Plain (f a)) :
    Plain (r >>= f) := by
  cases r with
  | ok a => exact hf a
  | error e =>
    intro h
    cases h
    exact hr rfl

theorem foldlM {f : β → α → Except Fault β} (hf : ∀ b a, Plain (f b a)) (l : List α) :
    ∀ b, Plain (l.foldlM f b) := by
  induction l with
  | nil => exact fun b => ok b
  | cons a l ih => exact fun b => (hf b a).bind ih

theorem get (s : Ptr α) : Plain s.get := by
  unfold Ptr.get
  split
  · exact ok _
  · exact error (by decide)

theorem ptrArg (s : Ptr CString) : Plain (Tvd.ptrArg s) := (get s).bind fun _ => ok _

theorem addStrlen (size : UInt32) (s : Ptr CString) : Plain (Tvd.addStrlen size s) :=
  (get s).bind fun _ => ok _

theorem langAt (langs : Ptr (List (Ptr CString))) (idx : ℕ) : Plain (Tvd.langAt langs idx) := by
  refine (get langs).bind fun entries => ?_
  split
  · exact error (by decide)
  · exact ok _

theorem ref (unset : α) (idx : ℕ) (array : Option (Records α)) : Plain (Records.ref unset idx array) := by
  unfold Records.ref
  split
  · split
    · exact ok _
    · exact error (by decide)
  · exact ok _

theorem dataAt (handle : NativeHandle) (idx : ℤ) : Plain (handle.dataAt idx) := by
  unfold NativeHandle.dataAt
  split
  · exact error (by decide)
  · split
    · exact error (by decide)
    · exact ok _

theorem calculateTunerSize (tuner : Option TvTuner) : Plain (Tvd.calculateTunerSize tuner) := by
  cases tuner with
  | none => exact ok _
  | some tuner => exact (addStrlen _ _).bind fun _ => ok _

theorem calculateChSize (ch : Option TvChannel) : Plain (Tvd.calculateChSize ch) := by
  cases ch with
  | none => exact ok _
  | some ch =>
    refine (addStrlen _ _).bind fun _ => (addStrlen _ _).bind fun _ => (addStrlen _ _).bind fun _ => ?_
    exact (addStrlen _ _).bind fun _ => (addStrlen _ _).bind fun _ => ok _

theorem calculateProgSize (prog : Option TvProgram) : Plain (Tvd.calculateProgSize prog) := by
  have hlangs (langs : Ptr (List (Ptr CString))) (size : UInt32) (idx : ℕ) :
      Plain (do Tvd.addStrlen size (← Tvd.langAt langs idx)) :=
    (langAt _ _).bind fun _ => addStrlen _ _
  cases prog with
  | none => exact ok _
  | some prog =>
    refine (addStrlen _ _).bind fun _ => (addStrlen _ _).bind fun _ => (addStrlen _ _).bind fun _ => ?_
    refine (addStrlen _ _).bind fun _ => (foldlM (hlangs _) _ _).bind fun _ => ?_
    exact foldlM (hlangs _) _ _

theorem sizeRecords {unset : α} {size : Option α → Except Fault UInt32} (hsize : ∀ a, Plain (size a))
    (num : UInt32) (records : Option (Records α)) (start : UInt32) :
    Plain (DtvIo.sizeRecords unset size num records start) :=
  foldlM (fun _ _ => (ref _ _ _).bind fun _ => (hsize _).bind fun _ => ok _) _ _

end Plain

/-! ### The appending calls -/

section

variable {lib : Lib} {w : World}

theorem proper_appendTuner (tuner : Option TvTuner) :
    Proper fun wbuf => appendTuner lib wbuf tuner := by
  cases tuner with
  | none => exact .throw (by decide)
  | some tuner =>
    refine .lift (Plain.ptrArg _) fun id => Proper.seq (.args _ _) (.each fun idx => ?_)
    refine .lift (Plain.get _) fun types => ?_
    split
    · exact .throw (by decide)
    · exact .args _ _

theorem proper_appendChannel {p : Platform} (ch : Option TvChannel) :
    Proper fun wbuf => appendChannel lib p wbuf ch := by
  cases ch with
  | none => exact .throw (by decide)
  | some ch =>
    refine .lift ?_ fun args => .args _ _
    refine (Plain.ptrArg _).bind fun _ => (Plain.ptrArg _).bind fun _ => ?_
    exact (Plain.ptrArg _).bind fun _ => (Plain.ptrArg _).bind fun _ => Plain.ok _

theorem proper_appendLangs (n : UInt32) (langs : Ptr (List (Ptr CString))) :
    Proper (appendLangs lib n langs) :=
  .each fun _ => .lift (Plain.langAt _ _) fun _ => .lift (Plain.ptrArg _) fun _ => .args _ _

theorem proper_appendProgram (prog : Option TvProgram) :
    Proper fun wbuf => appendProgram lib wbuf prog := by
  cases prog with
  | none => exact .throw (by decide)
  | some prog =>
    refine .lift ?_ fun args => Proper.seq (.args _ _) (.seq (proper_appendLangs _ _)
      (.seq (.args _ _) (proper_appendLangs _ _)))
    refine (Plain.ptrArg _).bind fun _ => (Plain.ptrArg _).bind fun _ => ?_
    exact (Plain.ptrArg _).bind fun _ => Plain.ok _

theorem proper_fillSource (handle : NativeHandle) : Proper (DtvIo.fillSource w handle) :=
  .seq (.args _ _) (.each fun _ => .lift (Plain.dataAt _ _) fun _ => .args _ _)

theorem proper_appendRecords {α : Type} (unset : α) {append : Wbuf → Option α → PduM (Option Wbuf)}
    (h : ∀ record, Proper fun wbuf => append wbuf record) (num : UInt32)
    (records : Option (Records α)) : Proper (DtvIo.appendRecords w unset append num records) :=
  .seq (.args _ _) (.each fun _ => .lift (Plain.ref _ _ _) fun record => h record)

end

/-! ### What a handler is made of -/

theorem avoids_malloc (e : Fault) (lib : Lib) (size : ℕ) : Avoids e (malloc lib size) :=
  (avoids_get e).bind fun _ => Avoids.bind (avoids_modify e _) fun _ => avoids_pure e _

theorem avoids_heapOps (e : Fault) (ops : List HeapOp) : Avoids e (heapOps ops) := avoids_modify e _

/-- A result that an error reply can carry. -/
def IsCode (status : Int32) : Prop := ∃ error : UInt8, error ≠ 0 ∧ status = DtvIo.statusCode error

theorem isCode_statusCode {ret : UInt8} (h : ret ≠ tvStatusSuccess) : IsCode (DtvIo.statusCode ret) :=
  ⟨ret, h, rfl⟩

theorem isCode_errorFail : IsCode errorFail := ⟨1, by decide, by decide⟩

theorem isCode_errorNomem : IsCode errorNomem := ⟨3, by decide, by decide⟩

theorem isCode_errorUnsupported : IsCode errorUnsupported := ⟨6, by decide, by decide⟩

theorem isCode_errorParmInvalid : IsCode errorParmInvalid := ⟨7, by decide, by decide⟩

/-- The calls of the DTV interface that the handlers make. -/
inductive DtvApi.Calls (api : DtvApi) : (α : Type) → EnvM α → Prop
  | getTunerNum : Calls api _ api.dtvGetTunerNum
  | getTuners (n : UInt32) (block : Option ℕ) : Calls api _ (api.dtvGetTuners n block)
  | setSource (id : CString) (type : UInt8) (tvStream : TvStream) :
      Calls api _ (api.dtvSetSource id type tvStream)
  | startScanning (id : CString) (type : UInt8) : Calls api _ (api.dtvStartScanning id type)
  | stopScanning (id : CString) (type : UInt8) : Calls api _ (api.dtvStopScanning id type)
  | clnScannedChannelCache : Calls api _ api.dtvClnScannedChannelCache
  | setChannel (id : CString) (type : UInt8) (num : CString) (block : Option ℕ) :
      Calls api _ (api.dtvSetChannel id type num block)
  | getChannelNum (id : CString) (type : UInt8) : Calls api _ (api.dtvGetChannelNum id type)
  | getChannels (id : CString) (type : UInt8) (n : UInt32) (block : Option ℕ) :
      Calls api _ (api.dtvGetChannels id type n block)
  | getProgNum (id : CString) (type : UInt8) (num : CString) (start stop : UInt64) :
      Calls api _ (api.dtvGetProgNum id type num start stop)
  | getPrograms (id : CString) (type : UInt8) (num : CString) (start stop : UInt64) (n : UInt32)
      (block : Option ℕ) : Calls api _ (api.dtvGetPrograms id type num start stop n block)

/-- A property of code that is kept by putting handlers together. -/
structure HandlerRules (w : World) (cmd : Pdu) (Q : DaemonM Int32 → Prop) : Prop where
  api : ∀ {α : Type} {m : EnvM α} {f : α → DaemonM Int32}, w.dtv.Calls α m → (∀ a, Q (f a)) →
    Q (onEnv m >>= f)
  heap : ∀ {α : Type} {m : HeapM α} {f : α → DaemonM Int32}, Avoids .nullCallback m →
    (∀ a, Q (f a)) → Q (onEnv (onHeap m) >>= f)
  size : ∀ {α : Type} {r : Except Fault α} {f : α → DaemonM Int32}, Plain r → (∀ a, Q (f a)) →
    Q (Exec.lift r >>= f)
  code : ∀ {status : Int32}, IsCode status → Q (pure status)
  indeterminate : Q (Exec.throw .indeterminate)
  reply : ∀ {fill : DtvIo.Fill} (capacity : ℕ) (release : List HeapOp), Proper fill →
    Q (DtvIo.createReply w cmd capacity fill release)
  sourceReply : ∀ handle : NativeHandle, Q (do
    let wbuf ← onPdus (DtvIo.createSourceWbuf w handle)
    DtvIo.reply w cmd wbuf (DtvIo.fillSource w handle) [])

namespace HandlerRules

variable {w : World} {cmd : Pdu} {Q : DaemonM Int32 → Prop} (h : HandlerRules w cmd Q)

include h

/-- A call that may report a status of the driver layer. -/
theorem status {ret : UInt8} {rest : DaemonM Int32} (hrest : Q rest) :
    Q (if ret ≠ tvStatusSuccess then return DtvIo.statusCode ret else rest) := by
  split
  · next hret => exact h.code (isCode_statusCode hret)
  · exact hrest

theorem getTuners : Q (DtvIo.getTuners w cmd) := by
  refine h.api .getTunerNum fun tunerNum => h.heap (avoids_malloc _ _ _) fun block => ?_
  refine h.api (.getTuners _ _) fun result => ?_
  dsimp only
  split
  · exact h.code isCode_errorFail
  refine h.size (.sizeRecords .calculateTunerSize _ _ _) fun pduSize => ?_
  exact h.reply _ _ (proper_appendRecords _ proper_appendTuner _ _)

theorem setSource : Q (DtvIo.setSource w cmd) := by
  unfold DtvIo.setSource
  split
  · exact h.code isCode_errorFail
  refine h.api (.setSource _ _ _) fun result => h.status ?_
  split
  · exact h.indeterminate
  · exact h.sourceReply _

theorem scanCommand {scan : CString → UInt8 → EnvM UInt8}
    (hscan : ∀ id type, w.dtv.Calls _ (scan id type)) : Q (DtvIo.scanCommand w scan cmd) := by
  unfold DtvIo.scanCommand
  split
  · exact h.code isCode_errorFail
  · exact h.api (hscan _ _) fun ret => h.status (h.reply _ _ .nil)

theorem cleanCache : Q (DtvIo.cleanCache w cmd) :=
  h.api .clnScannedChannelCache fun _ => h.status (h.reply _ _ .nil)

theorem setChannel : Q (DtvIo.setChannel w cmd) := by
  unfold DtvIo.setChannel
  split
  · exact h.code isCode_errorFail
  refine h.heap (avoids_malloc _ _ _) fun block => h.api (.setChannel _ _ _ _) fun result => ?_
  dsimp only
  split
  · next hret => exact h.heap (avoids_heapOps _ _) fun _ => h.code (isCode_statusCode hret)
  refine h.size ((Plain.ref _ _ _).bind fun _ => .calculateChSize _) fun chSize => ?_
  exact h.reply _ _ (.lift (Plain.ref _ _ _) fun ch => proper_appendChannel ch)

theorem getChannels : Q (DtvIo.getChannels w cmd) := by
  unfold DtvIo.getChannels
  split
  · exact h.code isCode_errorFail
  refine h.api (.getChannelNum _ _) fun chNum => h.heap (avoids_malloc _ _ _) fun block => ?_
  refine h.api (.getChannels _ _ _ _) fun result => h.status ?_
  refine h.size (.sizeRecords .calculateChSize _ _ _) fun size => ?_
  exact h.reply _ _ (proper_appendRecords _ proper_appendChannel _ _)

theorem getPrograms : Q (DtvIo.getPrograms w cmd) := by
  unfold DtvIo.getPrograms
  split
  · exact h.code isCode_errorFail
  refine h.api (.getProgNum _ _ _ _ _) fun progNum => h.heap (avoids_malloc _ _ _) fun block => ?_
  refine h.api (.getPrograms _ _ _ _ _ _ _) fun result => h.status ?_
  refine h.size (.sizeRecords .calculateProgSize _ _ _) fun size => ?_
  exact h.reply _ _ (proper_appendRecords _ proper_appendProgram _ _)

/-- Such a property holds of the service as a whole. -/
theorem dtvHandler : Q (DtvIo.dtvHandler w cmd) := by
  rw [DtvIo.dtvHandler_eq]
  unfold DtvIo.commandTable
  split
  · exact h.code isCode_errorUnsupported
  · next handler htable =>
    repeat' split at htable
    all_goals cases htable
    · exact h.getTuners
    · exact h.setSource
    · exact h.scanCommand .startScanning
    · exact h.scanCommand .stopScanning
    · exact h.cleanCache
    · exact h.setChannel
    · exact h.getChannels
    · exact h.getPrograms

end HandlerRules

/-! ### What a Registry command is made of -/

/-- A property of code that is kept by putting the Registry commands together. -/
structure RegistryRules (w : World) (services : Services) (Q : DaemonM Int32 → Prop) : Prop where
  code : ∀ {status : Int32}, IsCode status → Q (pure status)
  get : ∀ {f : Daemon → DaemonM Int32}, (∀ s, Q (f s)) → Q (Exec.get >>= f)
  create : ∀ {f : Option Wbuf → DaemonM Int32} (capacity : ℕ), f none = pure errorNomem →
    (∀ wbuf, Q (f (some wbuf))) → Q (onPdus (createPduWbuf w.lib capacity 0 false) >>= f)
  destroyed : ∀ {status : Int32} (wbuf : Wbuf), IsCode status →
    Q (do onPdus (destroyPduWbuf wbuf); return status)
  register : ∀ {service : UInt8} {register : Option SendPdu → DtvM (Option Handler)}
    {f : Option Handler → DaemonM Int32} (cb : Option SendPdu),
    services.register service = some register → (∀ handler, Q (f handler)) → Q (onDtv (register cb) >>= f)
  unregister : ∀ {service : UInt8} {unregister : DtvM Int32} {f : Int32 → DaemonM Int32},
    services.unregister service = some unregister → (∀ result, Q (f result)) → Q (onDtv unregister >>= f)
  setHandler : ∀ {f : Unit → DaemonM Int32} (service : UInt8) (handler : Option Handler), Q (f ()) →
    Q (setServiceHandler service handler >>= f)
  append : ∀ {f : Option Wbuf → DaemonM Int32} (wbuf : Wbuf) (fmt : List Fmt) (args : List Arg),
    (∀ filled, Q (f filled)) → Q (onPdus (appendToPdu w.lib wbuf fmt args) >>= f)
  send : ∀ wbuf : Wbuf, Q (do Registry.sendPdu w wbuf; return errorNone)

/-- Where there is no buffer, that is all that the command reports. -/
theorem forall_created {Q : DaemonM Int32 → Prop} {f : Option Wbuf → DaemonM Int32}
    (hnone : f none = pure errorNomem) (hcode : Q (pure errorNomem)) (hsome : ∀ wbuf, Q (f (some wbuf)))
    (wbuf : Option Wbuf) : Q (f wbuf) := by
  cases wbuf with
  | none =>
    rw [hnone]
    exact hcode
  | some wbuf => exact hsome wbuf

namespace RegistryRules

variable {w : World} {services : Services} {Q : DaemonM Int32 → Prop} (h : RegistryRules w services Q)

include h

theorem registerModule (cmd : Pdu) : Q (Registry.registerModule w services cmd) := by
  unfold Registry.registerModule
  split
  · exact h.code isCode_errorParmInvalid
  refine h.get fun s => ?_
  split
  · exact h.code isCode_errorFail
  split
  · exact h.code isCode_errorFail
  next register hregister =>
  refine h.create 4 rfl fun wbuf => h.register _ hregister fun handler => ?_
  cases handler with
  | none => exact h.destroyed wbuf isCode_errorFail
  | some handler =>
    refine h.setHandler _ _ (h.append _ _ _ fun filled => ?_)
    cases filled with
    | none => exact h.destroyed _ isCode_errorFail
    | some wbuf => exact h.send wbuf

theorem unregisterModule (cmd : Pdu) : Q (Registry.unregisterModule w services cmd) := by
  unfold Registry.unregisterModule
  split
  · exact h.code isCode_errorParmInvalid
  refine h.create 0 rfl fun wbuf => ?_
  dsimp only
  split
  · exact h.destroyed wbuf isCode_errorFail
  split
  · exact h.destroyed wbuf isCode_errorFail
  next unregister hunregister =>
  refine h.unregister hunregister fun result => ?_
  split
  · exact h.destroyed wbuf isCode_errorFail
  · exact h.setHandler _ _ (h.send _)

/-- Such a property holds of the Registry as a whole. -/
theorem registryHandler (cmd : Pdu) : Q (Registry.registryHandler w services cmd) :=
  Registry.registryHandler_rule (h.code isCode_errorUnsupported) (h.registerModule cmd) (h.unregisterModule cmd)

end RegistryRules

end Tvd

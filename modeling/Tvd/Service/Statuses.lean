import Tvd.Service.Registrations

/-! The statuses of the driver layer. `TV_STATUS_*` and `ERROR_*` number their codes
independently, and the handlers return the status of a `dtv_*` call as it is, so a client
reads it as an error code. Get tuners is the exception: it returns `ERROR_FAIL` for any
status. -/

namespace Tvd

open Exec

/-! ### The call made for a command -/

namespace DtvIo

variable (w : World) (cmd : Pdu)

def getTunersCall : EnvM UInt8 := do
  let tunerNum ← w.dtv.dtvGetTunerNum
  let block ← onHeap (malloc w.lib (w.platform.sizeT (w.platform.sizeofTvTuner * tunerNum.toNat)))
  let (ret, _) ← w.dtv.dtvGetTuners tunerNum block
  return ret

def setSourceCall (tunerId : CString) (sourceType : UInt8) : EnvM UInt8 := do
  let (ret, _) ← w.dtv.dtvSetSource tunerId sourceType .unset
  return ret

def setChannelCall (tunerId : CString) (sourceType : UInt8) (chNum : CString) : EnvM UInt8 := do
  let block ← onHeap (malloc w.lib w.platform.sizeofTvChannel)
  let (ret, _) ← w.dtv.dtvSetChannel tunerId sourceType chNum block
  return ret

def getChannelsCall (tunerId : CString) (sourceType : UInt8) : EnvM UInt8 := do
  let chNum ← w.dtv.dtvGetChannelNum tunerId sourceType
  let block ← onHeap (malloc w.lib (w.platform.sizeT (w.platform.sizeofTvChannel * chNum.toNat)))
  let (ret, _) ← w.dtv.dtvGetChannels tunerId sourceType chNum block
  return ret

def getProgramsCall (tunerId : CString) (sourceType : UInt8) (chNum : CString)
    (startTime endTime : UInt64) : EnvM UInt8 := do
  let progNum ← w.dtv.dtvGetProgNum tunerId sourceType chNum startTime endTime
  let block ← onHeap (malloc w.lib (w.platform.sizeT (w.platform.sizeofTvProgram * progNum.toNat)))
  let (ret, _) ← w.dtv.dtvGetPrograms tunerId sourceType chNum startTime endTime progNum block
  return ret

/-- What a handler does up to the `dtv_*` call that gives its status; there is none if
the opcode has no handler, or if the payload cannot be parsed. -/
def driverCall : Option (EnvM UInt8) :=
  if cmd.opcode = opcodeGetTuners then some (getTunersCall w)
  else if cmd.opcode = opcodeSetSource then
    (w.lib.readPduAt cmd [.str, .C]).map fun (id, type, _) => setSourceCall w id type
  else if cmd.opcode = opcodeStartScan then
    (w.lib.readPduAt cmd [.str, .C]).map fun (id, type, _) => w.dtv.dtvStartScanning id type
  else if cmd.opcode = opcodeStopScan then
    (w.lib.readPduAt cmd [.str, .C]).map fun (id, type, _) => w.dtv.dtvStopScanning id type
  else if cmd.opcode = opcodeClearCache then some w.dtv.dtvClnScannedChannelCache
  else if cmd.opcode = opcodeSetChannel then
    (w.lib.readPduAt cmd [.str, .C, .str]).map fun (id, type, num, _) => setChannelCall w id type num
  else if cmd.opcode = opcodeGetChannel then
    (w.lib.readPduAt cmd [.str, .C]).map fun (id, type, _) => getChannelsCall w id type
  else if cmd.opcode = opcodeGetProgram then
    (w.lib.readPduAt cmd [.str, .C, .str, .L, .L]).map fun (id, type, num, start, stop, _) =>
      getProgramsCall w id type num start stop
  else none

/-- The `dtv_*` call made for the command returns the status. -/
def DriverReturns (s : Daemon) (ret : UInt8) : Prop :=
  ∃ call env, driverCall w cmd = some call ∧ call s.dtv.env = .ok (ret, env)

end DtvIo

/-! ### What a handler returns -/

variable {w : World} {cmd : Pdu} {α : Type}

/-- The handler returns a code made of the status that the call returns, if that is not
success. -/
def Reports (call : EnvM UInt8) (code : UInt8 → UInt8) (p : DaemonM Int32) : Prop :=
  ∀ s : Daemon, Ensures p s fun status _ => ∃ ret env, call s.dtv.env = .ok (ret, env) ∧
    ((ret = tvStatusSuccess ∧ (status = errorNone ∨ status = errorNomem)) ∨
      (ret ≠ tvStatusSuccess ∧ status = DtvIo.statusCode (code ret)))

/-- The handler succeeds, or has no memory. -/
def Replies (p : DaemonM Int32) : Prop :=
  ∀ s, Ensures p s fun status _ => status = errorNone ∨ status = errorNomem

namespace Replies

theorem bind {m : DaemonM α} {f : α → DaemonM Int32} (hf : ∀ a, Replies (f a)) : Replies (m >>= f) :=
  fun _ => ensures_bind.mpr fun a t _ => hf a t

theorem pure {status : Int32} (h : status = errorNone ∨ status = errorNomem) :
    Replies (Pure.pure status) := fun _ => ensures_pure.mpr h

theorem throw (e : Fault) : Replies (Exec.throw e) := fun _ => ensures_throw.mpr trivial

theorem reply (wbuf : Option Wbuf) (fill : DtvIo.Fill) (release : List HeapOp) :
    Replies (DtvIo.reply w cmd wbuf fill release) := by
  cases wbuf with
  | none => exact pure (.inr rfl)
  | some wbuf =>
    refine bind fun filled => ?_
    cases filled with
    | none => exact bind fun _ => bind fun _ => pure (.inr rfl)
    | some wbuf => exact bind fun _ => bind fun _ => pure (.inl rfl)

theorem createReply (capacity : ℕ) (fill : DtvIo.Fill) (release : List HeapOp) :
    Replies (DtvIo.createReply w cmd capacity fill release) := bind fun wbuf => reply wbuf _ _

end Replies

namespace Reports

/-- Calls that come before. -/
theorem bind {m : EnvM α} {call : α → EnvM UInt8} {code : UInt8 → UInt8} {f : α → DaemonM Int32}
    (h : ∀ a, Reports (call a) code (f a)) : Reports (m >>= call) code (onEnv m >>= f) := by
  intro s
  rw [ensures_bind, ensures_zoom]
  intro a env hrun
  refine (h a _).mono ?_
  rintro status _ ⟨ret, env', hcall, hstatus⟩
  exact ⟨ret, env', (bind_ok hrun _).trans hcall, hstatus⟩

/-- The call itself. -/
theorem call {m : EnvM UInt8} {code : UInt8 → UInt8} {f : UInt8 → DaemonM Int32}
    (h : ∀ ret, Reports (pure ret) code (f ret)) : Reports m code (onEnv m >>= f) := by
  have hbind := bind (m := m) h
  rwa [bind_pure] at hbind

/-- The status is there. -/
theorem status {ret : UInt8} {code : UInt8 → UInt8} {fail rest : DaemonM Int32}
    (hfail : ∀ s, Ensures fail s fun status _ => status = DtvIo.statusCode (code ret))
    (hrest : Replies rest) :
    Reports (pure ret) code (if ret ≠ tvStatusSuccess then fail else rest) := by
  intro s
  refine ensures_ite.mpr ⟨fun hret => ?_, fun hret => ?_⟩
  · exact (hfail s).mono fun status _ h => ⟨ret, _, rfl, .inr ⟨hret, h⟩⟩
  · exact (hrest s).mono fun status _ h => ⟨ret, _, rfl, .inl ⟨not_not.mp hret, h⟩⟩

/-- It is returned as it is. -/
theorem forwarded {ret : UInt8} {rest : DaemonM Int32} (hrest : Replies rest) :
    Reports (pure ret) id (if ret ≠ tvStatusSuccess then return DtvIo.statusCode ret else rest) :=
  status (fun _ => ensures_pure.mpr rfl) hrest

end Reports

/-! ### The handlers -/

namespace DtvIo

theorem getTuners_reports : Reports (getTunersCall w) (fun _ => 1) (getTuners w cmd) := by
  refine .bind fun tunerNum => .bind fun block => .bind fun result => ?_
  refine .status (fun _ => ensures_pure.mpr (by decide)) (.bind fun size => ?_)
  exact .createReply _ _ _

theorem setSource_reports {tunerId : CString} {type : UInt8} {rest : Fmt.Values []}
    (hread : w.lib.readPduAt cmd [.str, .C] = some (tunerId, type, rest)) :
    Reports (setSourceCall w tunerId type) id (setSource w cmd) := by
  unfold setSource
  rw [hread]
  refine .bind fun result => .forwarded ?_
  split
  · exact .throw _
  · exact .bind fun wbuf => .reply _ _ _

theorem scanCommand_reports {scan : CString → UInt8 → EnvM UInt8} {tunerId : CString} {type : UInt8}
    {rest : Fmt.Values []} (hread : w.lib.readPduAt cmd [.str, .C] = some (tunerId, type, rest)) :
    Reports (scan tunerId type) id (scanCommand w scan cmd) := by
  unfold scanCommand
  rw [hread]
  exact .call fun _ => .forwarded (.createReply _ _ _)

theorem cleanCache_reports : Reports w.dtv.dtvClnScannedChannelCache id (cleanCache w cmd) :=
  .call fun _ => .forwarded (.createReply _ _ _)

theorem setChannel_reports {tunerId chNum : CString} {type : UInt8} {rest : Fmt.Values []}
    (hread : w.lib.readPduAt cmd [.str, .C, .str] = some (tunerId, type, chNum, rest)) :
    Reports (setChannelCall w tunerId type chNum) id (setChannel w cmd) := by
  unfold setChannel
  rw [hread]
  refine .bind fun block => .bind fun result => .status (fun s => ?_) (.bind fun size => ?_)
  · exact ensures_bind.mpr fun _ _ _ => ensures_pure.mpr rfl
  · exact .createReply _ _ _

theorem getChannels_reports {tunerId : CString} {type : UInt8} {rest : Fmt.Values []}
    (hread : w.lib.readPduAt cmd [.str, .C] = some (tunerId, type, rest)) :
    Reports (getChannelsCall w tunerId type) id (getChannels w cmd) := by
  unfold getChannels
  rw [hread]
  refine .bind fun chNum => .bind fun block => .bind fun result => .forwarded (.bind fun size => ?_)
  exact .createReply _ _ _

theorem getPrograms_reports {tunerId chNum : CString} {type : UInt8} {startTime endTime : UInt64}
    {rest : Fmt.Values []} (hread : w.lib.readPduAt cmd [.str, .C, .str, .L, .L] =
      some (tunerId, type, chNum, startTime, endTime, rest)) :
    Reports (getProgramsCall w tunerId type chNum startTime endTime) id (getPrograms w cmd) := by
  unfold getPrograms
  rw [hread]
  refine .bind fun progNum => .bind fun block => .bind fun result => .forwarded (.bind fun size => ?_)
  exact .createReply _ _ _

/-- The handler makes the call, if there is one, and reports its status; where the payload
cannot be parsed it returns a code of its own. -/
def HandlerReports (call : Option (EnvM UInt8)) (code : UInt8 → UInt8) (p : DaemonM Int32) : Prop :=
  (call = none ∧ p = pure errorFail) ∨ ∃ m, call = some m ∧ Reports m code p

theorem HandlerReports.parsed {V : Type} {read : Option V} {call : V → EnvM UInt8} {code : UInt8 → UInt8}
    {p : DaemonM Int32} (hnone : read = none → p = pure errorFail)
    (hsome : ∀ v, read = some v → Reports (call v) code p) : HandlerReports (read.map call) code p := by
  cases hread : read with
  | none => exact .inl ⟨rfl, hnone hread⟩
  | some v => exact .inr ⟨call v, rfl, hsome v hread⟩

/-- The code that a handler returns for a status. -/
def reportedCode (opcode ret : UInt8) : UInt8 := if opcode = opcodeGetTuners then 1 else ret

/-- What the service returns for a command. -/
theorem dtvHandler_reports (cmd : Pdu) :
    (commandTable w cmd.opcode = none ∧ driverCall w cmd = none ∧
      dtvHandler w cmd = pure errorUnsupported) ∨
    (commandTable w cmd.opcode ≠ none ∧
      HandlerReports (driverCall w cmd) (reportedCode cmd.opcode) (dtvHandler w cmd)) := by
  rw [dtvHandler_eq]
  unfold driverCall commandTable
  by_cases hgetTuners : cmd.opcode = opcodeGetTuners
  · have hcode : reportedCode cmd.opcode = fun _ => 1 := by
      funext ret
      exact if_pos hgetTuners
    simp only [if_pos hgetTuners, hcode]
    exact .inr ⟨Option.some_ne_none _, .inr ⟨_, rfl, getTuners_reports⟩⟩
  -- from here on the status is passed on
  have hcode : reportedCode cmd.opcode = id := by
    funext ret
    exact if_neg hgetTuners
  simp only [if_neg hgetTuners, hcode]
  by_cases hsetSource : cmd.opcode = opcodeSetSource
  · simp only [if_pos hsetSource]
    refine .inr ⟨Option.some_ne_none _, .parsed (fun hread => ?_) fun _ hread => setSource_reports hread⟩
    rw [setSource, hread]
  simp only [if_neg hsetSource]
  by_cases hstartScan : cmd.opcode = opcodeStartScan
  · simp only [if_pos hstartScan]
    refine .inr ⟨Option.some_ne_none _, .parsed (fun hread => ?_) fun _ hread => scanCommand_reports hread⟩
    rw [startScan, scanCommand, hread]
  simp only [if_neg hstartScan]
  by_cases hstopScan : cmd.opcode = opcodeStopScan
  · simp only [if_pos hstopScan]
    refine .inr ⟨Option.some_ne_none _, .parsed (fun hread => ?_) fun _ hread => scanCommand_reports hread⟩
    rw [stopScan, scanCommand, hread]
  simp only [if_neg hstopScan]
  by_cases hclear : cmd.opcode = opcodeClearCache
  · simp only [if_pos hclear]
    exact .inr ⟨Option.some_ne_none _, .inr ⟨_, rfl, cleanCache_reports⟩⟩
  simp only [if_neg hclear]
  by_cases hchannel : cmd.opcode = opcodeSetChannel
  · simp only [if_pos hchannel]
    refine .inr ⟨Option.some_ne_none _, .parsed (fun hread => ?_) fun _ hread => setChannel_reports hread⟩
    rw [setChannel, hread]
  simp only [if_neg hchannel]
  by_cases hchannels : cmd.opcode = opcodeGetChannel
  · simp only [if_pos hchannels]
    refine .inr ⟨Option.some_ne_none _, .parsed (fun hread => ?_) fun _ hread => getChannels_reports hread⟩
    rw [getChannels, hread]
  simp only [if_neg hchannels]
  by_cases hprograms : cmd.opcode = opcodeGetProgram
  · simp only [if_pos hprograms]
    refine .inr ⟨Option.some_ne_none _, .parsed (fun hread => ?_) fun _ hread => getPrograms_reports hread⟩
    rw [getPrograms, hread]
  refine .inl ⟨if_neg hprograms, if_neg hprograms, ?_⟩
  rw [if_neg hprograms]

end DtvIo

/-! ### The error reply -/

/-- The client got an error reply with the code. -/
def ErrorReplied (s : Daemon) (cmd : Pdu) (t : Daemon) (code : UInt8) : Prop :=
  ∃ wbuf, passedWbufs t.io.log = passedWbufs s.io.log ++ [wbuf] ∧
    wbuf.pdu = ⟨cmd.service, DtvIo.opcodeError, [code]⟩

/-- The error codes that say more than that a command failed. -/
def specificErrors : List Int32 :=
  [errorNotReady, errorNomem, errorBusy, errorDone, errorUnsupported, errorParmInvalid]

/-- A specific code is the one for the status. -/
def RelatedCode (code ret : UInt8) : Prop := DtvIo.statusCode code ∈ specificErrors →
  (ret = tvStatusInvarg ∧ DtvIo.statusCode code = errorParmInvalid) ∨
    (ret = tvStatusNotSupported ∧ DtvIo.statusCode code = errorUnsupported)

theorem statusCode_injective : Function.Injective DtvIo.statusCode := by
  intro a b h
  rw [← statusCode_octet a, ← statusCode_octet b, h]

theorem statusCode_mem_specificErrors {code : UInt8} :
    DtvIo.statusCode code ∈ specificErrors ↔ 2 ≤ code.toNat ∧ code.toNat ≤ 7 := by
  have hcodes : specificErrors = ([2, 3, 4, 5, 6, 7] : List UInt8).map DtvIo.statusCode := by decide
  rw [hcodes, List.mem_map_of_injective statusCode_injective]
  simp only [List.mem_cons, List.not_mem_nil, or_false, ← UInt8.toNat_inj, UInt8.toNat_ofNat]
  omega

theorem statusCode_eq_unsupported {code : UInt8} :
    DtvIo.statusCode code = errorUnsupported ↔ code = 6 := by
  have hcode : errorUnsupported = DtvIo.statusCode 6 := by decide
  rw [hcode, statusCode_injective.eq_iff]

/-- Get tuners may report every status but one, and the other handlers those whose number
no specific error code has. -/
def CodeFits (opcode ret : UInt8) : Prop :=
  if opcode = DtvIo.opcodeGetTuners then ret ≠ tvStatusNotSupported
  else ret.toNat < 2 ∨ 7 < ret.toNat

/-- A status is reported as it should be exactly if its code fits. -/
theorem codeFits_iff {opcode ret : UInt8} :
    ((DtvIo.statusCode (DtvIo.reportedCode opcode ret) = errorUnsupported ↔ ret = tvStatusNotSupported) ∧
      RelatedCode (DtvIo.reportedCode opcode ret) ret) ↔ CodeFits opcode ret := by
  unfold CodeFits DtvIo.reportedCode
  split
  · have hrelated : RelatedCode 1 ret := fun h => absurd (statusCode_mem_specificErrors.mp h) (by decide)
    rw [and_iff_left hrelated, statusCode_eq_unsupported]
    exact ⟨fun h hret => absurd (h.mpr hret) (by decide), fun h => iff_of_false (by decide) h⟩
  · constructor
    · rintro ⟨-, hrelated⟩
      by_contra hspecific
      rcases hrelated (statusCode_mem_specificErrors.mpr (by omega)) with ⟨rfl, hcode⟩ | ⟨rfl, hcode⟩
      · exact absurd hcode (by decide)
      · exact absurd hcode (by decide)
    · intro hfits
      refine ⟨?_, fun h => ?_⟩
      · rw [statusCode_eq_unsupported]
        refine iff_of_false ?_ ?_
        · rintro rfl
          exact absurd hfits (by decide)
        · rintro rfl
          exact absurd hfits (by decide)
      · have hrange := statusCode_mem_specificErrors.mp h
        omega

/-! ### A command for the service -/

/-- A DTV command that is handled while the service is registered. -/
structure HandlesDtv (w : World) (s : Daemon) (cmd : Pdu) (t : Daemon) : Prop where
  service : cmd.service = serviceDtv
  registered : s.gServiceHandler serviceDtv = some .dtvHandler
  handled : ∃ res, Io.handlePdu w (.inTree w) cmd s = .ok (res, t)

/-- The client is told that the operation is unsupported exactly when it is, and no status
gets the number of an error code that has nothing to do with it. -/
structure ReportsUnsupported (w : World) (s : Daemon) (cmd : Pdu) (t : Daemon) : Prop where
  unsupported : (∃ code, ErrorReplied s cmd t code ∧ DtvIo.statusCode code = errorUnsupported) ↔
    DtvIo.commandTable w cmd.opcode = none ∨ DtvIo.DriverReturns w cmd s tvStatusNotSupported
  related : ∀ ret, DtvIo.DriverReturns w cmd s ret → ret ≠ tvStatusSuccess →
    ∀ code, ErrorReplied s cmd t code → RelatedCode code ret

/-- The command is served, and the code of an error reply is what the service returned. -/
theorem HandlesDtv.serve {s t : Daemon} (h : HandlesDtv w s cmd t) (hoctet : w.lib.AppendsOctet) :
    ∃ status u, DtvIo.dtvHandler w cmd (s.logged cmd) = .ok (status, u) ∧
      ∀ code, ErrorReplied s cmd t code ↔ code ≠ 0 ∧ status = DtvIo.statusCode code := by
  obtain ⟨res, hrun⟩ := h.handled
  obtain ⟨wbuf, status, u, hpass, -, hanswer, hserve⟩ := handlePdu_passes hoctet cmd s _ _ hrun
  have hpassed := (Daemon.logged_passes hpass).1
  have hdtv : DtvIo.dtvHandler w cmd (s.logged cmd) = .ok (status, u) := by
    have htable : (s.logged cmd).gServiceHandler cmd.service = some .dtvHandler := by
      rw [h.service]
      exact h.registered
    rw [← Io.serve_dtv htable]
    exact hserve
  refine ⟨status, u, hdtv, fun code => ?_⟩
  have hone : ErrorReplied s cmd t code ↔ wbuf.pdu = ⟨cmd.service, DtvIo.opcodeError, [code]⟩ :=
    exists_passed_iff hpassed
  rw [hone]
  rcases hanswer with ⟨hzero, -, hopcode⟩ | ⟨error, herror, hstatus, hpdu⟩
  · refine iff_of_false (fun hpdu => ?_) ?_
    · -- no handler has the opcode of an error reply
      have hnone : DtvIo.commandTable w cmd.opcode = none := by
        rw [← hopcode, hpdu]
        rfl
      rcases DtvIo.dtvHandler_reports (w := w) cmd with ⟨-, -, hunsupported⟩ | ⟨hsome, -⟩
      · rw [hunsupported] at hdtv
        cases hdtv
        exact absurd hzero (by decide)
      · exact hsome hnone
    · rintro ⟨hcode, hstatus⟩
      exact statusCode_ne_zero hcode (hstatus.symm.trans hzero)
  · rw [hpdu, hstatus, statusCode_injective.eq_iff]
    constructor
    · intro heq
      cases heq
      exact ⟨herror, rfl⟩
    · rintro ⟨-, rfl⟩
      rfl

/-- Where the service returned an error code, the client is told that code. -/
theorem code_eq_iff {status : Int32} {error code : UInt8} (herror : error ≠ 0)
    (hstatus : status = DtvIo.statusCode error) : (code ≠ 0 ∧ status = DtvIo.statusCode code) ↔ code = error := by
  rw [hstatus, statusCode_injective.eq_iff]
  constructor
  · exact fun h => h.2.symm
  · rintro rfl
    exact ⟨herror, rfl⟩

/-- What the client is told: one code where no handler or no call is there, and otherwise
the code made of the status, or that there was no memory for the reply. -/
theorem HandlesDtv.replies {s t : Daemon} (hoctet : w.lib.AppendsOctet) (h : HandlesDtv w s cmd t) :
    (DtvIo.commandTable w cmd.opcode = none ∧ (∀ ret, ¬DtvIo.DriverReturns w cmd s ret) ∧
      ∀ code, ErrorReplied s cmd t code ↔ code = 6) ∨
    (DtvIo.commandTable w cmd.opcode ≠ none ∧ (∀ ret, ¬DtvIo.DriverReturns w cmd s ret) ∧
      ∀ code, ErrorReplied s cmd t code ↔ code = 1) ∨
    (DtvIo.commandTable w cmd.opcode ≠ none ∧ ∃ ret, (∀ ret', DtvIo.DriverReturns w cmd s ret' ↔ ret' = ret) ∧
      ((ret = tvStatusSuccess ∧ ∀ code, ErrorReplied s cmd t code → code = 3) ∨
        (ret ≠ tvStatusSuccess ∧
          ∀ code, ErrorReplied s cmd t code ↔ code = DtvIo.reportedCode cmd.opcode ret))) := by
  obtain ⟨status, u, hdtv, hreplied⟩ := h.serve hoctet
  have huncalled (hcall : DtvIo.driverCall w cmd = none) (ret : UInt8) : ¬DtvIo.DriverReturns w cmd s ret := by
    rintro ⟨call, _, hcall', -⟩
    cases hcall.symm.trans hcall'
  rcases DtvIo.dtvHandler_reports (w := w) cmd with
    ⟨hnone, hcall, hunsupported⟩ | ⟨hsome, ⟨hcall, hfail⟩ | ⟨call, hcall, hreports⟩⟩
  · rw [hunsupported] at hdtv
    cases hdtv
    exact .inl ⟨hnone, huncalled hcall, fun code => (hreplied code).trans (code_eq_iff (by decide) (by decide))⟩
  · rw [hfail] at hdtv
    cases hdtv
    refine .inr (.inl ⟨hsome, huncalled hcall, fun code => ?_⟩)
    exact (hreplied code).trans (code_eq_iff (by decide) (by decide))
  · obtain ⟨ret, env, hrun, hstatus⟩ := hreports _ _ _ hdtv
    refine .inr (.inr ⟨hsome, ret, fun ret' => ?_, ?_⟩)
    · constructor
      · rintro ⟨call', env', hcall', hrun'⟩
        cases hcall.symm.trans hcall'
        cases hrun.symm.trans hrun'
        rfl
      · rintro rfl
        exact ⟨call, env, hcall, hrun⟩
    rcases hstatus with ⟨rfl, rfl | hstatus⟩ | ⟨hret, hstatus⟩
    · refine .inl ⟨rfl, fun code hcode => ?_⟩
      obtain ⟨hne, hzero⟩ := (hreplied code).mp hcode
      exact absurd hzero.symm (statusCode_ne_zero hne)
    · exact .inl ⟨rfl, fun code hcode => (code_eq_iff (by decide) hstatus).mp ((hreplied code).mp hcode)⟩
    · have hne : DtvIo.reportedCode cmd.opcode ret ≠ 0 := by
        unfold DtvIo.reportedCode
        split
        · decide
        · exact hret
      exact .inr ⟨hret, fun code => (hreplied code).trans (code_eq_iff hne hstatus)⟩

/-- A command that is handled while the DTV service is registered is told that it is
unsupported exactly when it is, and of no unrelated error, if and only if the status of
the `dtv_*` call made for it has a code that fits. -/
theorem reports_unsupported_iff {s t : Daemon} (hoctet : w.lib.AppendsOctet) (h : HandlesDtv w s cmd t) :
    ReportsUnsupported w s cmd t ↔ ∀ ret, DtvIo.DriverReturns w cmd s ret → CodeFits cmd.opcode ret := by
  rcases h.replies hoctet with
    ⟨hnone, hreturns, hcode⟩ | ⟨hsome, hreturns, hcode⟩ | ⟨hsome, ret, hreturns, hstatus⟩
  · -- no handler
    refine iff_of_true ⟨iff_of_true ⟨6, (hcode 6).mpr rfl, by decide⟩ (.inl hnone), ?_⟩ ?_
    · exact fun ret hret => absurd hret (hreturns ret)
    · exact fun ret hret => absurd hret (hreturns ret)
  · -- no call
    refine iff_of_true ⟨iff_of_false ?_ ?_, fun ret hret => absurd hret (hreturns ret)⟩
      fun ret hret => absurd hret (hreturns ret)
    · rintro ⟨code, hreply, hunsupported⟩
      rw [(hcode code).mp hreply] at hunsupported
      exact absurd hunsupported (by decide)
    · rintro (hnone | hret)
      · exact hsome hnone
      · exact hreturns _ hret
  have hfits : (∀ ret', DtvIo.DriverReturns w cmd s ret' → CodeFits cmd.opcode ret') ↔
      CodeFits cmd.opcode ret :=
    ⟨fun h => h ret ((hreturns ret).mpr rfl), fun h ret' hret' => (hreturns ret').mp hret' ▸ h⟩
  rw [hfits]
  rcases hstatus with ⟨rfl, hcode⟩ | ⟨hret, hone⟩
  · -- no status to report
    have hsuccess : CodeFits cmd.opcode tvStatusSuccess := by
      unfold CodeFits
      split
      · decide
      · exact .inl (by decide)
    refine iff_of_true ⟨iff_of_false ?_ ?_, fun ret' hret' hne => ?_⟩ hsuccess
    · rintro ⟨code, hreply, hunsupported⟩
      rw [hcode code hreply] at hunsupported
      exact absurd hunsupported (by decide)
    · rintro (hnone | hret)
      · exact hsome hnone
      · exact absurd ((hreturns _).mp hret) (by decide)
    · exact absurd ((hreturns ret').mp hret') hne
  · rw [← codeFits_iff]
    have hunsupported : (∃ code, ErrorReplied s cmd t code ∧ DtvIo.statusCode code = errorUnsupported) ↔
        DtvIo.statusCode (DtvIo.reportedCode cmd.opcode ret) = errorUnsupported := by
      simp only [hone, exists_eq_left]
    have hdriver : DtvIo.commandTable w cmd.opcode = none ∨
        DtvIo.DriverReturns w cmd s tvStatusNotSupported ↔ ret = tvStatusNotSupported := by
      rw [or_iff_right hsome, hreturns, eq_comm]
    constructor
    · intro h
      refine ⟨hunsupported.symm.trans (h.unsupported.trans hdriver), ?_⟩
      exact h.related ret ((hreturns ret).mpr rfl) hret _ ((hone _).mpr rfl)
    · rintro ⟨hiff, hrelated⟩
      refine ⟨hunsupported.trans (hiff.trans hdriver.symm), fun ret' hret' _ code hreply => ?_⟩
      rw [(hreturns ret').mp hret', (hone code).mp hreply]
      exact hrelated

/-! ### The in-tree interface -/

theorem HandlesDtv.handle {s : Daemon} (hservice : cmd.service = serviceDtv)
    (hregistered : s.gServiceHandler serviceDtv = some .dtvHandler)
    (hok : (Io.handlePdu w (.inTree w) cmd s).isOk = true) : HandlesDtv w s cmd (s.handle w cmd) :=
  ⟨hservice, hregistered, Daemon.handle_ok hok⟩

def getTunersPdu : Pdu := ⟨1, 1, []⟩

/-- Start scanning for channels on the first tuner. -/
def startScanPdu : Pdu := ⟨1, 3, [49, 0, 0]⟩

theorem reports_unsupported_getTuners : ReportsUnsupported (.onDriver steadyDriver)
    (tunerAvailable steadyDriver) getTunersPdu
    ((tunerAvailable steadyDriver).handle (.onDriver steadyDriver) getTunersPdu) := by
  refine (reports_unsupported_iff Lib.reference_documented.appendsOctet
    (.handle rfl (by decide +kernel) (by decide +kernel))).mpr ?_
  have hsuccess : (DtvIo.getTunersCall (.onDriver steadyDriver) (tunerAvailable steadyDriver).dtv.env).toOption.map
      Prod.fst = some tvStatusSuccess := by decide +kernel
  rintro ret ⟨call, env, hcall, hrun⟩
  cases hcall
  rw [hrun] at hsuccess
  cases hsuccess
  unfold CodeFits
  decide

/-- Scanning is not supported, and the client is told that the device is busy. -/
theorem reports_unsupported_not_startScan : ¬∀ (w : World) (s t : Daemon) (cmd : Pdu),
    w.lib.AppendsOctet → Daemon.Reachable w s → HandlesDtv w s cmd t → ReportsUnsupported w s cmd t := by
  intro h
  have hhandles : HandlesDtv (.onDriver steadyDriver) (tunerAvailable steadyDriver) startScanPdu
      ((tunerAvailable steadyDriver).handle (.onDriver steadyDriver) startScanPdu) :=
    .handle rfl (by decide +kernel) (by decide +kernel)
  have hreports := h _ _ _ startScanPdu Lib.reference_documented.appendsOctet tunerAvailable_reachable hhandles
  have hreturns : DtvIo.DriverReturns (.onDriver steadyDriver) startScanPdu (tunerAvailable steadyDriver)
      tvStatusNotSupported := ⟨pure tvStatusNotSupported, _, rfl, rfl⟩
  rcases hhandles.replies Lib.reference_documented.appendsOctet with
    ⟨-, hnone, -⟩ | ⟨-, hnone, -⟩ | ⟨-, ret, hret, ⟨hsuccess, -⟩ | ⟨hne, hone⟩⟩
  · exact hnone _ hreturns
  · exact hnone _ hreturns
  · rw [← (hret _).mp hreturns] at hsuccess
    exact absurd hsuccess (by decide)
  · -- the status has the number of the error code for a device that is busy
    have hbusy := (hone 4).mpr (by rw [← (hret _).mp hreturns]; rfl)
    rcases hreports.related _ hreturns (by decide) _ hbusy (by decide) with ⟨hinvarg, -⟩ | ⟨-, hcode⟩
    · exact absurd hinvarg (by decide)
    · exact absurd hcode (by decide)

end Tvd

import Tvd.Service.Exchange
import Tvd.Wire.Tuners
import Mathlib.Data.List.Perm.Basic

/-! The ends of scans, from the DTV interface to the client. Each that is reported becomes a
notification that waits for its task and is then passed to the send queue, in whatever
order the tasks run; what is lost on this way is lost in certain steps only. -/

namespace Tvd

open Exec

/-! ### The format -/

/-- A scan that is complete or was stopped. -/
structure ScanEnd where
  stopped : Bool
  tunerId : CString
  sourceType : UInt8
  deriving DecidableEq

namespace ScanEnd

/-- Both notifications hold the tuner ID and the source type. -/
def codec : Codec (CString × UInt8) := CString.codec.pair Codec.octet

def opcode (v : ScanEnd) : UInt8 := if v.stopped then DtvIo.opcodeScanStopped else DtvIo.opcodeScannedComplete

def pdu (v : ScanEnd) : Pdu := ⟨serviceDtv, v.opcode, codec.encode (v.tunerId, v.sourceType)⟩

end ScanEnd

/-- What a client reads from a PDU. -/
def Pdu.scanEnds (pdu : Pdu) : List ScanEnd :=
  if pdu.opcode = DtvIo.opcodeScannedComplete ∨ pdu.opcode = DtvIo.opcodeScanStopped then
    match ScanEnd.codec.decode pdu.payload with
    | some ((tunerId, sourceType), []) => [⟨pdu.opcode = DtvIo.opcodeScanStopped, tunerId, sourceType⟩]
    | _ => []
  else []

theorem ScanEnd.scanEnds_pdu (v : ScanEnd) : v.pdu.scanEnds = [v] := by
  have hdecode : codec.decode v.pdu.payload = some ((v.tunerId, v.sourceType), []) :=
    codec.decode_eq_iff.mpr rfl
  unfold Pdu.scanEnds
  rw [hdecode]
  obtain ⟨stopped, tunerId, sourceType⟩ := v
  cases stopped <;> rfl

theorem scanEnds_nil {pdu : Pdu} (hcomplete : pdu.opcode ≠ DtvIo.opcodeScannedComplete)
    (hstopped : pdu.opcode ≠ DtvIo.opcodeScanStopped) : pdu.scanEnds = [] :=
  if_neg fun h => h.elim hcomplete hstopped

theorem scanEnds_response {pdu : Pdu} (h : ¬pdu.IsNotification) : pdu.scanEnds = [] := by
  refine scanEnds_nil (fun hopcode => h ?_) fun hopcode => h ?_
  all_goals
    rw [Pdu.IsNotification, hopcode]
    decide

/-- What the DTV interface reports. Without a tuner id, that is nothing: the callbacks ignore
such a report. -/
def Input.scanEnds : Input → List ScanEnd
  | .scanStatus status (some tunerId) sourceType =>
    if status = dtvScanComplete then [⟨false, tunerId, sourceType⟩]
    else if status = dtvScanStopped then [⟨true, tunerId, sourceType⟩] else []
  | _ => []

/-- What was passed to the send queue and what still waits for its task. -/
def Daemon.scanEnds (s : Daemon) : List ScanEnd := (passedWbufs s.io.log ++ s.tasks).flatMap (·.pdu.scanEnds)

/-! ### What is lost -/

/-- The buffer of the notification. -/
def ScanEnd.wbuf (p : Platform) (v : ScanEnd) (id : ℕ) : Wbuf :=
  ⟨id, p.sizeT (v.tunerId.strlen + 1 + 1), 0, false, none, v.pdu⟩

/-- There is memory for the buffer, what is told fits into a PDU, and the task is queued. -/
def ScanEnd.Announced (w : World) (pdus : List PduOp) (v : ScanEnd) : Prop :=
  let wbuf := v.wbuf w.platform pdus.length
  w.lib.createPduWbuf pdus wbuf.capacity 0 = true ∧ v.pdu.payload.length ≤ pduMaxDataLength ∧
    0 ≤ (w.runTask (.append true :: .create wbuf.capacity 0 true :: pdus) wbuf).toInt

instance (w : World) (pdus : List PduOp) (v : ScanEnd) : Decidable (v.Announced w pdus) :=
  inferInstanceAs (Decidable (_ ∧ _ ∧ _))

/-- What a step loses: what cannot be announced, and what waited when the service was
gone. -/
def Daemon.lostScans (w : World) (s : Daemon) : Input → List ScanEnd
  | .task idx => if s.dtv.sendPdu = none then s.tasks[idx]?.toList.flatMap (·.pdu.scanEnds) else []
  | input => input.scanEnds.filter fun v => ¬v.Announced w s.pdus

/-! ### Callbacks -/

section

variable {w : World} {o : ByteOrder} {s t : Daemon} {input : Input}

theorem scanEnds_of_traffic (h : t.traffic = s.traffic) : t.scanEnds = s.scanEnds := by
  obtain ⟨hpassed, -, htasks⟩ := Daemon.traffic_eq_iff.mp h
  rw [Daemon.scanEnds, hpassed, htasks]
  rfl

theorem scanEnds_queued {more : List Wbuf} (hio : t.io = s.io) (htasks : t.tasks = s.tasks ++ more) :
    t.scanEnds = s.scanEnds ++ more.flatMap (·.pdu.scanEnds) := by
  rw [Daemon.scanEnds, hio, htasks, ← List.append_assoc, List.flatMap_append]
  rfl

theorem scanEnds_passes {wbuf : Wbuf} (h : s.Passes t wbuf) :
    t.scanEnds.Perm (s.scanEnds ++ wbuf.pdu.scanEnds) := by
  obtain ⟨hpassed, -, htasks⟩ := Daemon.traffic_eq_iff.mp h
  rw [Daemon.scanEnds, Daemon.scanEnds, hpassed, htasks]
  simp only [List.flatMap_append, List.flatMap_singleton, List.append_assoc]
  exact List.perm_append_comm.append_left _

theorem notify_queues {opcode : UInt8} (capacity : ℤ) {fill : DtvIo.Fill} (hfill : Proper fill) (s : Daemon) :
    Ensures (DtvIo.notify w opcode capacity fill) s fun _ t => t.io = s.io ∧
      ∃ more : List Wbuf, t.tasks = s.tasks ++ more ∧ ∀ wbuf ∈ more, wbuf.pdu.opcode = opcode := by
  have hnone : s.tasks = s.tasks ++ [] := (List.append_nil _).symm
  unfold DtvIo.notify
  rw [ensures_bind, ensures_zoom]
  refine (createPduWbuf_ensures _ _ _ _).mono ?_
  rintro _ _ (⟨-, rfl, rfl⟩ | ⟨-, rfl, rfl⟩)
  · exact ensures_pure.mpr ⟨rfl, [], hnone, fun _ h => absurd h List.not_mem_nil⟩
  dsimp only
  rw [ensures_bind, ensures_zoom]
  refine (hfill.same _ _).mono fun filled log hsame => ?_
  cases filled with
  | none => exact ensures_zoom.mpr (ensures_modify.mpr ⟨rfl, [], hnone, fun _ h => absurd h List.not_mem_nil⟩)
  | some wbuf =>
    have hopcode : wbuf.pdu.opcode = opcode := (hsame wbuf rfl).2.2
    dsimp only
    rw [ensures_bind, ensures_get, ensures_bind]
    refine ensures_zoom.mpr (ensures_modify.mpr (ensures_ite.mpr ⟨fun _ => ?_, fun _ => ?_⟩))
    · exact ensures_zoom.mpr (ensures_modify.mpr ⟨rfl, [], hnone, fun _ h => absurd h List.not_mem_nil⟩)
    · exact ensures_modify.mpr ⟨rfl, [wbuf], rfl, fun _ h => List.eq_of_mem_singleton h ▸ hopcode⟩

/-- The end of a scan waits for its task if it can be announced. -/
theorem scanEnded_queues (hdoc : w.lib.Documented o) (v : ScanEnd) (s : Daemon) :
    Ensures (DtvIo.scanEnded w v.opcode (some v.tunerId) v.sourceType) s fun _ t => t.io = s.io ∧
      t.tasks = s.tasks ++ if v.Announced w s.pdus then [v.wbuf w.platform s.pdus.length] else [] := by
  have hencode : encodeArgs o [.str, .C] [.ptr v.tunerId, uint8Arg v.sourceType] = some v.pdu.payload := by
    rw [encodeArgs_cons rfl (encodeArgs_cons (uint8Arg_encode _) rfl), List.append_nil]
    rfl
  have hlost (h : ¬v.Announced w s.pdus) :
      s.tasks = s.tasks ++ if v.Announced w s.pdus then [v.wbuf w.platform s.pdus.length] else [] := by
    rw [if_neg h, List.append_nil]
  dsimp only [DtvIo.scanEnded]
  unfold DtvIo.notify
  rw [ensures_bind, ensures_zoom]
  refine (createPduWbuf_ensures _ _ _ _).mono ?_
  rintro _ _ (⟨hcreate, rfl, rfl⟩ | ⟨hcreate, rfl, rfl⟩)
  · refine ensures_pure.mpr ⟨rfl, hlost fun h => ?_⟩
    cases hcreate.symm.trans h.1
  dsimp only
  rw [ensures_bind, ensures_zoom]
  refine (appendToPdu_ensures _ _ _ _).mono ?_
  rintro _ _ (⟨happend, rfl, rfl⟩ | ⟨payload, happend, rfl, rfl⟩)
  · refine ensures_zoom.mpr (ensures_modify.mpr ⟨rfl, hlost fun h => ?_⟩)
    cases happend.symm.trans (hdoc.fits _ _ _ _ _ hencode (by simpa [Wbuf.initPdu] using h.2.1))
  have hfits : v.pdu.payload.length ≤ pduMaxDataLength := by
    by_contra hfull
    cases happend.symm.trans (hdoc.full _ _ _ _ _ hencode (by simpa [Wbuf.initPdu] using hfull))
  cases happend.symm.trans (hdoc.fits _ _ _ _ _ hencode (by simpa [Wbuf.initPdu] using hfits))
  dsimp only
  rw [ensures_bind, ensures_get, ensures_bind]
  refine ensures_zoom.mpr (ensures_modify.mpr (ensures_ite.mpr ⟨fun hrefused => ?_, fun hqueued => ?_⟩))
  · refine ensures_zoom.mpr (ensures_modify.mpr ⟨rfl, hlost fun h => ?_⟩)
    exact absurd hrefused (Int.not_lt.mpr h.2.2)
  · have hannounced : v.Announced w s.pdus := ⟨hcreate, hfits, Int.not_lt.mp hqueued⟩
    rw [if_pos hannounced]
    exact ensures_modify.mpr ⟨rfl, rfl⟩

theorem flatMap_scanEnds_nil {more : List Wbuf} {opcode : UInt8} (hmore : ∀ wbuf ∈ more, wbuf.pdu.opcode = opcode)
    (hcomplete : opcode ≠ DtvIo.opcodeScannedComplete) (hstopped : opcode ≠ DtvIo.opcodeScanStopped) :
    more.flatMap (·.pdu.scanEnds) = [] := by
  refine List.flatMap_eq_nil_iff.mpr fun wbuf hwbuf => ?_
  have hopcode := hmore wbuf hwbuf
  exact scanEnds_nil (hopcode ▸ hcomplete) (hopcode ▸ hstopped)

/-- Only the two notifications of a scan tell that it ended. -/
theorem notify_quiet {opcode : UInt8} (hcomplete : opcode ≠ DtvIo.opcodeScannedComplete)
    (hstopped : opcode ≠ DtvIo.opcodeScanStopped) (capacity : ℤ) {fill : DtvIo.Fill} (hfill : Proper fill)
    (s : Daemon) : Ensures (DtvIo.notify w opcode capacity fill) s fun _ t => t.scanEnds = s.scanEnds := by
  refine (notify_queues capacity hfill s).mono ?_
  rintro _ t ⟨hio, more, htasks, hmore⟩
  rw [scanEnds_queued hio htasks, flatMap_scanEnds_nil hmore hcomplete hstopped, List.append_nil]

theorem scanEnded_scanEnds (hdoc : w.lib.Documented o) (v : ScanEnd) (s : Daemon) :
    Ensures (DtvIo.scanEnded w v.opcode (some v.tunerId) v.sourceType) s fun _ t =>
      (t.scanEnds ++ [v].filter fun v => ¬v.Announced w s.pdus) = s.scanEnds ++ [v] := by
  refine (scanEnded_queues hdoc v s).mono ?_
  rintro _ t ⟨hio, htasks⟩
  rw [scanEnds_queued hio htasks]
  by_cases hannounced : v.Announced w s.pdus
  · simp [hannounced, ScanEnd.wbuf, ScanEnd.scanEnds_pdu]
  · simp [hannounced]

/-- A callback of the DTV interface queues the end of a scan, or loses it. -/
theorem notify_scanEnds (hdoc : w.lib.Documented o) (hinput : input.IsNotify) (s : Daemon) :
    Ensures (Daemon.callback w input) s fun _ t =>
      (t.scanEnds ++ s.lostScans w input).Perm (s.scanEnds ++ input.scanEnds) := by
  have hok {m : DaemonM Unit} {P : Daemon → Prop} (hm : Ensures m s fun _ t => P t) :
      Ensures (do m; return IoResult.ok) s fun _ t => P t := by
    rw [ensures_bind]
    exact hm.mono fun _ t ht => ensures_pure.mpr ht
  have hsame {t : Daemon} (ht : t.scanEnds = s.scanEnds) : (t.scanEnds ++ []).Perm (s.scanEnds ++ []) := by rw [ht]
  cases input with
  | channelUpdate chStatus tunerId sourceType ch =>
    refine hok (ensures_ite.mpr ⟨fun _ => ?_, fun _ => ensures_pure.mpr (hsame rfl)⟩)
    cases tunerId with
    | none => exact ensures_pure.mpr (hsame rfl)
    | some tunerId =>
      refine ensures_bind.mpr (ensures_lift.mpr fun size _ => ?_)
      refine (notify_quiet (by decide) (by decide) _ (.seq (.args _ _) (proper_appendChannel ch)) s).mono ?_
      exact fun _ t ht => hsame ht
  | scanStatus status tunerId sourceType =>
    refine hok ?_
    cases tunerId with
    | none =>
      have hignored (opcode : UInt8) : Ensures (DtvIo.scanEnded w opcode none sourceType) s fun _ t =>
          (t.scanEnds ++ []).Perm (s.scanEnds ++ []) := ensures_pure.mpr (hsame rfl)
      refine ensures_ite.mpr ⟨fun _ => hignored _, fun _ => ensures_ite.mpr ⟨fun _ => hignored _, fun _ => ?_⟩⟩
      exact ensures_pure.mpr (hsame rfl)
    | some tunerId =>
      unfold Daemon.lostScans Input.scanEnds DtvIo.scanStatusNfyCb
      dsimp only
      refine ensures_ite.mpr ⟨fun hcomplete => ?_, fun hcomplete => ?_⟩
      · rw [if_pos hcomplete]
        exact (scanEnded_scanEnds hdoc ⟨false, tunerId, sourceType⟩ s).mono fun _ t ht => .of_eq ht
      refine ensures_ite.mpr ⟨fun hstopped => ?_, fun hstopped => ?_⟩
      · rw [if_neg hcomplete, if_pos hstopped]
        exact (scanEnded_scanEnds hdoc ⟨true, tunerId, sourceType⟩ s).mono fun _ t ht => .of_eq ht
      · rw [if_neg hcomplete, if_neg hstopped]
        exact ensures_pure.mpr (hsame rfl)
  | eventNfy tunerId sourceType ch progNum progs =>
    refine hok ?_
    cases tunerId with
    | none => exact ensures_pure.mpr (hsame rfl)
    | some tunerId =>
      refine ensures_bind.mpr (ensures_lift.mpr fun progSize _ => ?_)
      refine ensures_bind.mpr (ensures_lift.mpr fun chSize _ => ?_)
      refine (notify_quiet (by decide) (by decide) _ (.seq (.args _ _) (.seq (proper_appendChannel ch)
        (proper_appendRecords _ proper_appendProgram _ _))) s).mono fun _ t ht => ?_
      exact hsame ht
  | halEvent | task | readable | writable | err | hup => exact hinput.elim

/-- A task passes its notification on, unless the service is gone. -/
theorem runTask_scanEnds (idx : ℕ) (s : Daemon) : Ensures (Daemon.runTask w idx) s fun _ t =>
    (t.scanEnds ++ s.lostScans w (.task idx)).Perm s.scanEnds := by
  unfold Daemon.runTask Daemon.lostScans
  rw [ensures_bind, ensures_get]
  cases htask : s.tasks[idx]? with
  | none =>
    refine ensures_pure.mpr ?_
    simp [htask]
  | some wbuf =>
    dsimp only
    rw [ensures_bind, ensures_modify]
    have hperm : s.scanEnds.Perm (Daemon.scanEnds { s with tasks := s.tasks.eraseIdx idx } ++ wbuf.pdu.scanEnds) := by
      obtain ⟨hidx, hget⟩ := List.getElem?_eq_some_iff.mp htask
      have htasks : s.tasks.Perm (wbuf :: s.tasks.eraseIdx idx) := hget ▸ (List.getElem_cons_eraseIdx_perm hidx).symm
      unfold Daemon.scanEnds
      dsimp only
      rw [List.flatMap_append, List.flatMap_append, List.append_assoc]
      refine ((htasks.flatMap_right _).trans ?_).append_left _
      rw [List.flatMap_cons]
      exact List.perm_append_comm
    rw [DtvIo.sendNtfPdu, ensures_bind, ensures_get, ensures_ite]
    refine ⟨fun hnone => ensures_pure.mpr ?_, fun hsome => ?_⟩
    · rw [if_pos (Option.isNone_iff_eq_none.mp hnone), htask]
      simpa using hperm.symm
    · simp only [if_neg (mt Option.isNone_iff_eq_none.mpr hsome), List.append_nil]
      rw [ensures_bind]
      refine (DtvIo.sendPdu_passes wbuf _).mono fun _ t hpass => ensures_pure.mpr ?_
      exact (scanEnds_passes hpass).trans hperm.symm

/-- A command is answered with no such notification. -/
theorem handlePdu_scanEnds {services : Services} (cmd : Pdu) (s : Daemon) :
    Ensures (Io.handlePdu w services cmd) s fun _ t => t.scanEnds.Perm s.scanEnds := by
  refine (handlePdu_replies cmd s).mono ?_
  rintro _ t ⟨wbuf, -, -, hpass, -, -, hresponse, -⟩
  have hlogged : Daemon.scanEnds (s.logged cmd) = s.scanEnds := by
    have hpassed : passedWbufs (s.logged cmd).io.log = passedWbufs s.io.log := by
      change passedWbufs (.handlePdu cmd :: s.io.log) = _
      rw [passedWbufs_cons]
      exact List.append_nil _
    rw [Daemon.scanEnds, hpassed]
    rfl
  have hperm := scanEnds_passes hpass
  rwa [scanEnds_response hresponse, List.append_nil, hlogged] at hperm

/-- What a step has reported is waiting, passed on, or lost. -/
theorem Daemon.Step.scanEnds (hdoc : w.lib.Documented o) (hstep : Daemon.Step w s input t) :
    (t.scanEnds ++ s.lostScans w input).Perm (s.scanEnds ++ input.scanEnds) := by
  obtain ⟨result, v, hcallback, ht⟩ := hstep.callback
  have hv : t.scanEnds = v.scanEnds := by
    rw [ht]
    rfl
  by_cases hnotify : input.IsNotify
  · rw [hv]
    exact notify_scanEnds hdoc hnotify s _ _ hcallback
  by_cases htask : ∃ idx, input = .task idx
  · obtain ⟨idx, rfl⟩ := htask
    rw [hv]
    refine (runTask_scanEnds idx s _ _ hcallback).trans (.of_eq ?_)
    exact (List.append_nil _).symm
  have hquiet : s.lostScans w input = [] ∧ input.scanEnds = [] := by
    cases input with
    | channelUpdate | scanStatus | eventNfy => exact absurd trivial hnotify
    | task idx => exact absurd ⟨idx, rfl⟩ htask
    | halEvent | readable | writable | err | hup => exact ⟨rfl, rfl⟩
  rw [hquiet.1, hquiet.2, List.append_nil, List.append_nil]
  obtain ⟨u, heffect, htraffic, hu⟩ := hstep.effective
  have hsettled : t.scanEnds = u.scanEnds := by
    refine scanEnds_of_traffic (Prod.ext htraffic ?_)
    rw [hu]
    rfl
  rw [hsettled]
  cases heffect with
  | idle => exact .refl _
  | event event _ hrun => exact .of_eq (scanEnds_of_traffic (keeps_traffic_onEnv _ s _ _ hrun))
  | notified hinput => exact absurd hinput hnotify
  | task idx hinput => exact absurd ⟨idx, hinput⟩ htask
  | command cmd hresumes hrun =>
    obtain ⟨hsame, hresumed⟩ := hresumes
    refine (handlePdu_scanEnds cmd _ _ _ hrun).trans (.of_eq (scanEnds_of_traffic (Prod.ext hsame ?_)))
    rw [hresumed]
    rfl

/-- In every run from the connection on, what a client can read of the ends of scans from
the notifications passed to the send queue and from those that wait for their task, is with
what was lost exactly what the DTV interface reported with a tuner id. -/
theorem scans_conserved (hdoc : w.lib.Documented o) (hconnected : Daemon.Connected w s)
    {l : List (Transition Daemon Input)} (hrun : Run (Daemon.Step w) s l t) :
    (t.scanEnds ++ l.flatMap fun x => x.before.lostScans w x.label).Perm (l.flatMap fun x => x.label.scanEnds) := by
  have hstart : s.scanEnds = [] := by
    obtain ⟨hpassed, -, htasks⟩ := Daemon.traffic_eq_iff.mp hconnected.traffic
    rw [Daemon.scanEnds, hpassed, htasks]
    rfl
  have hconserved := hrun.conserved Daemon.scanEnds (fun _ input => input.scanEnds) (Daemon.lostScans w)
    fun _ _ _ hstep => hstep.scanEnds hdoc
  rwa [hstart, List.nil_append] at hconserved

/-- Two scans end, the task of the second runs, the service is unregistered, and the task
of the first runs. -/
def scanInputs : List Input :=
  [.readable (some [0, 1, 1, 0, 1]), .scanStatus dtvScanComplete (some tunerOne) 0,
    .scanStatus dtvScanStopped (some tunerOne) 0, .task 1, .readable (some [0, 2, 1, 0, 1]), .task 0]

def scanTrace : List (Transition Daemon Input) :=
  trace (Daemon.next (.onDriver switchingDriver)) (.connected (.onDriver switchingDriver)) scanInputs

def scanEnd : Daemon :=
  scanInputs.foldl (Daemon.next (.onDriver switchingDriver)) (.connected (.onDriver switchingDriver))

/-- Only the second is told. -/
theorem scans_conserved_switching :
    (scanEnd.scanEnds ++ [ScanEnd.mk false tunerOne 0]).Perm
      [ScanEnd.mk false tunerOne 0, ScanEnd.mk true tunerOne 0] := by
  have hlost : (scanTrace.flatMap fun x => x.before.lostScans (.onDriver switchingDriver) x.label) =
      [ScanEnd.mk false tunerOne 0] := by decide +kernel
  have hreported : (scanTrace.flatMap fun x => x.label.scanEnds) =
      [ScanEnd.mk false tunerOne 0, ScanEnd.mk true tunerOne 0] := by decide +kernel
  have hrun : Run (Daemon.Step (.onDriver switchingDriver)) (.connected (.onDriver switchingDriver)) scanTrace
      scanEnd :=
    Daemon.trace_run (by decide +kernel)
  have hconserved := scans_conserved Lib.reference_documented ⟨3, by decide, rfl⟩ hrun
  rwa [hlost, hreported] at hconserved

end

end Tvd

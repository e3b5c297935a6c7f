import Tvd.Service.Crashes
import Tvd.Service.Leaks
import Tvd.Service.Releases

/-! Which inputs the daemon handles safely: the step is there, and every pointer that it
passes to `free` was stored before. Neither holds of the commands and events that end the
daemon, and the second not of the commands for which the DTV service releases a record
with a field that was never stored. -/

namespace Tvd

open Exec

/-- The step returns, and frees only what was stored. -/
def Daemon.StepsSafely (w : World) (s : Daemon) (input : Input) : Prop :=
  ∃ t, Daemon.Step w s input t ∧ FreesStored s t

/-- The packet frames a command for which the DTV service, registered, releases a record
with a field that was never stored: Get tuners with a tuner listed and a buffer for the
reply, or a Set channel command that can be read and has its record. -/
inductive Daemon.FreesUnset (w : World) (o : ByteOrder) (s : Daemon) : Input → Prop
  | command {packet : List UInt8} {rbuf : Rbuf} {cmd : Pdu} (hrbuf : s.io.rbuf = some rbuf)
      (hframe : framePdu o rbuf.maxlen packet = some cmd) (hservice : cmd.service = serviceDtv)
      (hregistered : s.gServiceHandler serviceDtv ≠ none) (hreleases : ¬ReleasesNone w s cmd) :
      FreesUnset w o s (.readable (some packet))

/-! ### One step -/

section

variable {w : World} {o : ByteOrder} {s t : Daemon} {input : Input} {cmd : Pdu}

theorem handlePdu_freesStored_iff (hw : w.IsInTree) (hreach : Daemon.Reachable w s) (hfit : s.dtv.env.hal.Fits)
    {io : IoState} {res : Int32} (hrun : Io.handlePdu w (.inTree w) cmd { s with io } = .ok (res, t)) :
    FreesStored s t ↔ (cmd.service = serviceDtv → s.gServiceHandler serviceDtv ≠ none → ReleasesNone w s cmd) := by
  rw [Io.handlePdu_eq] at hrun
  obtain ⟨status, u, hserve, hrest⟩ := bind_eq_ok.mp hrun
  have hu : t.heap = u.heap := by
    split at hrest
    · obtain ⟨_, v, hsend, hpure⟩ := bind_eq_ok.mp hrest
      cases hpure
      exact keepsHeap_sendErrorReply _ _ _ _ _ hsend
    · cases hrest
      rfl
  have hiff : FreesStored s u ↔ _ :=
    serve_freesStored_iff hw hreach hfit (Daemon.logged { s with io } cmd).io hserve
  rw [← hiff, FreesStored, FreesStored, hu]

/-- A packet that frames no command, or no packet at all, frees nothing. -/
theorem Daemon.Step.freesStored_iff (hw : w.IsInTree) (hframes : w.lib.Frames o) (hreports : w.fdio.Reports)
    (hreach : Daemon.Reachable w s) (hfit : s.dtv.env.hal.Fits) (hstep : Daemon.Step w s input t) :
    FreesStored s t ↔ ¬Daemon.FreesUnset w o s input := by
  obtain ⟨maxlen, hroom, hattached⟩ := hreach.attached hframes hreports
  have hreceived := (hstep.received hframes hroom hreports hattached).2
  rcases hstep.heap with ⟨hheap, hnone⟩ | ⟨cmd, io, res, v, hcmd, hrun, hheap⟩
  · refine iff_of_true (freesStored_of_heap hheap) ?_
    rintro ⟨hrbuf, hframe, -⟩
    obtain ⟨rbuf, hrbuf', rfl⟩ := hattached hstep.2.1
    cases hrbuf.symm.trans hrbuf'
    rw [hnone] at hreceived
    have hempty := List.self_eq_append_right.mp hreceived
    simp [Input.packet, hframe] at hempty
  have hfrees : FreesStored s t ↔ FreesStored s v := by rw [FreesStored, FreesStored, hheap]
  rw [hfrees, handlePdu_freesStored_iff hw hreach hfit hrun]
  -- the command that was handled is the one that the packet frames
  rw [hcmd] at hreceived
  have hframed := List.append_cancel_left hreceived
  cases input with
  | readable packet =>
    obtain ⟨rbuf, hrbuf, rfl⟩ := hattached hstep.2.1
    cases packet with
    | none => cases hframed
    | some packet =>
      have hframe : framePdu o rbuf.maxlen packet = some cmd := by
        cases hframe : framePdu o rbuf.maxlen packet with
        | none => simp [Input.packet, hframe] at hframed
        | some cmd' =>
          simp only [Input.packet, Option.toList_some, List.filterMap_cons, hframe, List.filterMap_nil] at hframed
          cases hframed
          rfl
      constructor
      · rintro hnone ⟨hrbuf', hframe', hservice, hregistered, hreleases⟩
        cases hrbuf.symm.trans hrbuf'
        cases hframe.symm.trans hframe'
        exact hreleases (hnone hservice hregistered)
      · intro hsafe hservice hregistered
        by_contra hreleases
        exact hsafe (.command hrbuf hframe hservice hregistered hreleases)
  | halEvent | channelUpdate | scanStatus | eventNfy | task | writable | err | hup => cases hframed

end

section

variable {lib : Lib} {fdio : Fdio} {driver : Driver} {p : Platform} {runTask : List PduOp → Wbuf → Int32}
  {o : ByteOrder} {s : Daemon} {input : Input}

/-- In every reachable state of the in-tree daemon, whichever allocations fail, an input that
can arrive is handled safely if and only if it is not one that ends the daemon, nor a
command for which a field that was never stored is freed. -/
theorem daemon_safe_iff (hframes : lib.Frames o) (hdoc : lib.Documented o) (hregisters : fdio.Registers)
    (hreports : fdio.Reports) (hwhole : driver.OpensWhole)
    (hreach : Daemon.Reachable (.inTree lib fdio driver p runTask) s) (hrunning : s.running = true)
    (henabled : s.Enabled input) (hinput : ¬input.IsNotify) :
    s.StepsSafely (.inTree lib fdio driver p runTask) input ↔
      ¬Daemon.Crashes (.inTree lib fdio driver p runTask) o s input ∧
        ¬Daemon.FreesUnset (.inTree lib fdio driver p runTask) o s input := by
  rw [← daemon_steps_iff hframes hdoc hregisters hreports hwhole hreach hrunning henabled hinput]
  have hfrees {t : Daemon} (hstep : Daemon.Step (.inTree lib fdio driver p runTask) s input t) :
      FreesStored s t ↔ ¬Daemon.FreesUnset (.inTree lib fdio driver p runTask) o s input :=
    hstep.freesStored_iff rfl hframes hreports hreach hreach.halReady.fits
  constructor
  · rintro ⟨t, hstep, hstored⟩
    exact ⟨⟨t, hstep⟩, (hfrees hstep).mp hstored⟩
  · rintro ⟨⟨t, hstep⟩, hsafe⟩
    exact ⟨t, hstep, (hfrees hstep).mpr hsafe⟩

end

/-! ### A stream that is asked for twice -/

/-- The service is registered, tuner 1 arrives, and its stream is asked for. -/
def streamTaken : List Input :=
  [.readable (some [0, 1, 1, 0, 1]), .halEvent (arrival 1), .readable (some setSourceOne)]

def Daemon.streaming : Daemon :=
  streamTaken.foldl (Daemon.next (.onDriver steadyDriver)) (.connected (.onDriver steadyDriver))

theorem streaming_reachable : Daemon.Reachable (.onDriver steadyDriver) .streaming :=
  .ofInputs rfl streamTaken (by decide +kernel)

theorem ready_registers : Fdio.ready.Registers := by
  intro log fd events
  change 0 ≤ (0 : Int32).toInt
  decide

theorem ready_reports : Fdio.ready.Reports := by
  intro log fd events
  change (0 : Int32).toInt ≤ 0
  decide

theorem steadyDriver_opensWhole : steadyDriver.OpensWhole := by
  intro calls deviceId streamId handle hopen
  cases hopen
  decide

/-- When it is asked for again, the daemon crashes. When the tuners are asked for, the types
of the tuner are freed, which were never stored. What can be sent is sent. -/
theorem daemon_safe_streaming :
    ¬Daemon.streaming.StepsSafely (.onDriver steadyDriver) (.readable (some setSourceOne)) ∧
      ¬Daemon.streaming.StepsSafely (.onDriver steadyDriver) (.readable (some [1, 1, 0, 0])) ∧
      Daemon.streaming.StepsSafely (.onDriver steadyDriver) .writable := by
  have hrbuf : Daemon.streaming.io.rbuf = some ⟨65539, 0, setSourceOne⟩ := by decide +kernel
  have hframe : framePdu .little 65539 setSourceOne = some ⟨1, 2, [49, 0, 0]⟩ := by decide +kernel
  have hframe' : framePdu .little 65539 [1, 1, 0, 0] = some getTunersPdu := by decide +kernel
  have hacting : AlreadyActing steadyDriver Daemon.streaming.dtv.env.hal 1 :=
    ⟨⟨5, .independentVideoSource, 0, 0⟩, ⟨1, .tuner, 5⟩, by decide +kernel, by decide +kernel, rfl, by decide⟩
  have hnames : Names (.onDriver steadyDriver) ⟨1, 2, [49, 0, 0]⟩ 1 :=
    ⟨tunerOne, 0, (), by decide +kernel, by decide +kernel⟩
  have hsafe (input : Input) (henabled : Daemon.streaming.Enabled input) (hinput : ¬input.IsNotify) :=
    daemon_safe_iff Lib.reference_frames Lib.reference_documented ready_registers ready_reports
      steadyDriver_opensWhole streaming_reachable (by decide +kernel) henabled hinput
  refine ⟨fun h => ?_, fun h => ?_, (hsafe _ (by decide +kernel) id).mpr ⟨nofun, nofun⟩⟩
  · exact ((hsafe _ (by decide +kernel) id).mp h).1 (.repeated hrbuf hframe rfl (by decide +kernel) rfl hnames hacting)
  · refine ((hsafe _ (by decide +kernel) id).mp h).2 (.command hrbuf hframe' rfl (by decide +kernel) ?_)
    intro hnone
    rcases hnone.getTuners rfl with hempty | hbuffer
    · exact absurd hempty (by decide +kernel)
    · cases hbuffer

end Tvd

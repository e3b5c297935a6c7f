import Tvd.Service.InTree
import Tvd.Service.SourceFailure
import Tvd.Service.Statuses
import Tvd.Service.Unregistered

/-! The fields that the release functions free. A field of a new record is indeterminate
until it is stored. `dtv_get_tuners` stores the id of a tuner but not its types, and
`dtv_set_channel` stores nothing, while `release_tuners` and `release_channels` free every
field of their records. -/

namespace Tvd

open Exec

/-! ### The frees of a command -/

/-- The command is handled by its service, which returns. -/
def Serves (w : World) (s : Daemon) (cmd : Pdu) (t : Daemon) : Prop :=
  ∃ status, Io.serve w (.inTree w) (s.logged cmd) cmd (s.logged cmd) = .ok (status, t)

/-- The daemon once it returned. -/
def Daemon.served (s : Daemon) (w : World) (cmd : Pdu) : Daemon :=
  match Io.serve w (.inTree w) (s.logged cmd) cmd (s.logged cmd) with
  | .ok (_, t) => t
  | .error _ => s

theorem Serves.served {w : World} {s : Daemon} {cmd : Pdu}
    (hok : (Io.serve w (.inTree w) (s.logged cmd) cmd (s.logged cmd)).isOk = true) :
    Serves w s cmd (s.served w cmd) := by
  unfold Serves Daemon.served
  cases hrun : Io.serve w (.inTree w) (s.logged cmd) cmd (s.logged cmd) with
  | ok r => exact ⟨r.1, rfl⟩
  | error e =>
    rw [hrun] at hok
    cases hok

/-- Every pointer that was freed had been stored. -/
def FreesStored (s t : Daemon) : Prop := ∃ ops, t.heap = ops ++ s.heap ∧ HeapOp.free none ∉ ops

/-- No record is released with a field that was not stored: no tuner is listed, or there
is no buffer for the reply, and there is no record of a channel. -/
structure ReleasesNone (w : World) (s : Daemon) (cmd : Pdu) : Prop where
  getTuners : cmd.opcode = DtvIo.opcodeGetTuners → s.dtv.env.tunerIds = [] ∨
    w.lib.createPduWbuf s.pdus (tunersSize s.dtv.env.tunerIds) 0 = false
  setChannel : ¬DtvIo.ReleasesChannel w cmd s

theorem freesStored_iff {s t : Daemon} {ops : List HeapOp} (h : t.heap = ops ++ s.heap) :
    FreesStored s t ↔ HeapOp.free none ∉ ops := by
  constructor
  · rintro ⟨ops', h', hfree⟩
    rwa [List.append_cancel_right (h.symm.trans h')]
  · exact fun hfree => ⟨ops, h, hfree⟩

theorem freesStored_of_heap {s t : Daemon} (h : t.heap = s.heap) : FreesStored s t :=
  ⟨[], h, List.not_mem_nil⟩

/-! ### The records of the tuners -/

theorem free_none_allocated (sizes : List ℕ) : HeapOp.free none ∉ allocated sizes := by
  intro h
  obtain ⟨size, -, heq⟩ := mem_allocated h
  cases heq

/-- Each record is released with types that were never stored. -/
theorem free_none_releaseTuners {ids : List Int32} (hids : ids ≠ []) (hlen : ids.length ≤ 100)
    (array block : ℕ) : HeapOp.free none ∈
      releaseTuners (UInt32.ofNat ids.length) (some ⟨array, tunerRecords block ids⟩) := by
  obtain ⟨id, rest, rfl⟩ := List.exists_cons_of_ne_nil hids
  have hnum : (UInt32.ofNat (id :: rest).length).toNat = (id :: rest).length :=
    UInt32.toNat_ofNat_of_lt' (hlen.trans_lt (by decide))
  refine List.mem_append_left _ (List.mem_flatMap.mpr ⟨0, ?_, ?_⟩)
  · rw [hnum, List.mem_range]
    exact Nat.succ_pos _
  · exact List.mem_cons_of_mem _ (List.mem_cons_of_mem _ (List.mem_cons_of_mem _ List.mem_cons_self))

theorem free_none_releaseTuners_zero (tuners : Option (Records TvTuner)) :
    HeapOp.free none ∉ releaseTuners 0 tuners := by
  cases tuners with
  | none => exact List.not_mem_nil
  | some tuners =>
    intro h
    rcases List.mem_append.mp h with h | h
    · exact absurd h List.not_mem_nil
    · cases List.mem_singleton.mp h

section

variable {w : World} {s t : Daemon} {cmd : Pdu}

/-- Get tuners frees what was never stored exactly when it replies with a tuner. -/
theorem getTuners_freesStored_iff (hw : w.IsInTree) (hfit : s.dtv.env.hal.Fits) {status : Int32}
    (hrun : DtvIo.getTuners w cmd s = .ok (status, t)) :
    FreesStored s t ↔ s.dtv.env.tunerIds = [] ∨
      w.lib.createPduWbuf s.pdus (tunersSize s.dtv.env.tunerIds) 0 = false := by
  by_cases hlisted : s.dtv.env.tunerIds = []
  · obtain ⟨tuners, frees, ok, ok', heq, hfrees⟩ := DtvIo.getTuners_empty hw hfit hlisted cmd
    rw [heq] at hrun
    have hheap := DtvIo.createReply_heap _ _ _ _ _ _ _ hrun
    have hquery : HeapOp.free none ∉ frees ++ [.malloc 0 ok, .malloc 0 ok'] := by
      intro h
      rcases List.mem_append.mp h with h | h
      · obtain ⟨block, hblock⟩ := hfrees _ h
        cases hblock
      · simp at h
    refine iff_of_true ?_ (.inl hlisted)
    change t.heap = _ ++ (_ ++ s.heap) at hheap
    rw [← List.append_assoc] at hheap
    refine (freesStored_iff hheap).mpr fun h => ?_
    rcases List.mem_append.mp h with h | h
    · split at h
      · exact free_none_releaseTuners_zero tuners (List.mem_reverse.mp h)
      · cases h
    · exact hquery h
  · by_cases halloc : Allocates w.lib s.dtv.env.heap (tunersAllocations w.platform s.dtv.env.tunerIds)
    case neg =>
      rw [DtvIo.getTuners_null hw hfit hlisted halloc] at hrun
      cases hrun
    rw [DtvIo.getTuners_listed hw hfit halloc] at hrun
    have hheap := DtvIo.createReply_heap _ _ _ _ _ _ _ hrun
    have hpdus (ops : List HeapOp) : (s.withHeap ops).pdus = s.pdus := rfl
    change t.heap = _ ++ (_ ++ s.heap) at hheap
    rw [← List.append_assoc, hpdus] at hheap
    have hquery : HeapOp.free none ∉ HeapOp.free (some (s.dtv.env.heap.length + 1)) ::
        allocated (tunersAllocations w.platform s.dtv.env.tunerIds) := by
      intro h
      rcases List.mem_cons.mp h with h | h
      · cases h
      · exact free_none_allocated _ h
    rw [freesStored_iff hheap, or_iff_right hlisted, List.mem_append, or_iff_left hquery]
    cases w.lib.createPduWbuf s.pdus (tunersSize s.dtv.env.tunerIds) 0 with
    | false => exact iff_of_true (fun h => by cases h) rfl
    | true =>
      refine iff_of_false (not_not.mpr (List.mem_reverse.mpr ?_)) (by decide)
      exact free_none_releaseTuners hlisted (DtvEnv.tunerIds_length_le hfit) _ _

/-- So does the DTV service, with the record of a channel as the other case. -/
theorem dtvHandler_freesStored_iff (hw : w.IsInTree) (hfit : s.dtv.env.hal.Fits) {status : Int32}
    (hrun : DtvIo.dtvHandler w cmd s = .ok (status, t)) : FreesStored s t ↔ ReleasesNone w s cmd := by
  have hother {opcode : UInt8} (h : cmd.opcode = opcode) (hne : opcode ≠ DtvIo.opcodeSetChannel) :
      ¬DtvIo.ReleasesChannel w cmd s := fun hchannel => hne (h.symm.trans hchannel.1)
  by_cases hget : cmd.opcode = DtvIo.opcodeGetTuners
  · rw [DtvIo.dtvHandler_getTuners hget] at hrun
    rw [getTuners_freesStored_iff hw hfit hrun]
    exact ⟨fun h => ⟨fun _ => h, hother hget (by decide)⟩, fun h => h.getTuners hget⟩
  by_cases hset : cmd.opcode = DtvIo.opcodeSetSource
  · rw [DtvIo.dtvHandler_setSource hset] at hrun
    refine iff_of_true (freesStored_of_heap (DtvIo.keepsHeap_setSource hw cmd s _ _ hrun)) ?_
    exact ⟨fun h => absurd h hget, hother hset (by decide)⟩
  obtain ⟨code, ops, hfail, -, hfree⟩ := DtvIo.dtvHandler_fails hw hget hset s
  cases hfail.symm.trans hrun
  rw [freesStored_iff rfl, hfree]
  exact ⟨fun h => ⟨fun heq => absurd heq hget, h⟩, fun h => h.setChannel⟩

end

/-! ### A command of a client -/

section

variable {w : World} {s t : Daemon} {cmd : Pdu}

theorem releasesNone_io (io : IoState) : ReleasesNone w { s with io } cmd ↔ ReleasesNone w s cmd :=
  ⟨fun h => ⟨h.getTuners, h.setChannel⟩, fun h => ⟨h.getTuners, h.setChannel⟩⟩

/-- Only the DTV service, where it is registered, frees what was never stored. -/
theorem serve_freesStored_iff (hw : w.IsInTree) (hreach : Daemon.Reachable w s) (hfit : s.dtv.env.hal.Fits)
    (io : IoState) {status : Int32}
    (hrun : Io.serve w (.inTree w) (s.logged cmd) cmd { s with io } = .ok (status, t)) :
    FreesStored s t ↔ (cmd.service = serviceDtv → s.gServiceHandler serviceDtv ≠ none → ReleasesNone w s cmd) := by
  rcases serve_cases hreach cmd with ⟨hservice, heq⟩ | ⟨hservice, hregistered, heq⟩ | ⟨-, hnone, heq⟩
  · rw [heq] at hrun
    have hother : cmd.service ≠ serviceDtv := by
      rw [hservice]
      decide
    have hheap := keepsHeap_registryHandler hw cmd _ _ _ hrun
    exact iff_of_true (freesStored_of_heap hheap) fun h => absurd h hother
  · rw [heq] at hrun
    have hiff : FreesStored s t ↔ ReleasesNone w { s with io } cmd :=
      dtvHandler_freesStored_iff (s := { s with io }) hw hfit hrun
    rw [hiff, releasesNone_io]
    exact ⟨fun h _ _ => h, fun h => h hservice hregistered⟩
  · rw [heq] at hrun
    cases hrun
    exact iff_of_true (freesStored_of_heap rfl) fun hservice hregistered => absurd (hnone hservice) hregistered

end

/-- In every reachable state of the in-tree daemon, a command that is handled frees only
what was stored, if and only if the DTV service, where it is registered, releases no
record with a field that was not. -/
theorem frees_stored_iff {lib : Lib} {fdio : Fdio} {driver : Driver} {p : Platform}
    {runTask : List PduOp → Wbuf → Int32} {s t : Daemon} {cmd : Pdu}
    (hreach : Daemon.Reachable (.inTree lib fdio driver p runTask) s)
    (h : Serves (.inTree lib fdio driver p runTask) s cmd t) :
    FreesStored s t ↔ (cmd.service = serviceDtv → s.gServiceHandler serviceDtv ≠ none →
      ReleasesNone (.inTree lib fdio driver p runTask) s cmd) := by
  obtain ⟨status, hrun⟩ := h
  exact serve_freesStored_iff rfl hreach hreach.halReady.fits (s.logged cmd).io hrun

/-! ### A tuner without a reply, and with one -/

/-- With tuner 1 listed and no buffer for the reply, only the array of the ids is freed. -/
theorem frees_stored_shortBuffers : FreesStored (tunerListedIn .shortBuffers)
    ((tunerListedIn .shortBuffers).served .shortBuffers getTunersPdu) := by
  refine (frees_stored_iff shortBuffers_reachable (.served (by decide +kernel))).mpr fun _ _ => ⟨fun _ => .inr ?_, ?_⟩
  · decide +kernel
  · exact fun hchannel => absurd hchannel.1 (by decide)

/-- The types of the one tuner are freed although they were never stored. -/
theorem frees_unset : ¬∀ (lib : Lib) (fdio : Fdio) (driver : Driver) (p : Platform)
    (runTask : List PduOp → Wbuf → Int32) (s t : Daemon) (cmd : Pdu),
    Daemon.Reachable (.inTree lib fdio driver p runTask) s →
    Serves (.inTree lib fdio driver p runTask) s cmd t → FreesStored s t := by
  intro h
  obtain ⟨ops, hheap, hfree⟩ := h _ _ _ _ _ _ _ getTunersPdu tunerAvailable_reachable (.served (by decide +kernel))
  have hempty : (tunerAvailable steadyDriver).heap = [] := by decide +kernel
  rw [hempty, List.append_nil] at hheap
  rw [← hheap] at hfree
  exact absurd hfree (by decide +kernel)

end Tvd

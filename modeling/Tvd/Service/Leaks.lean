import Tvd.Heap.Blocks
import Tvd.Service.InTree
import Tvd.Service.Packets

/-! What the commands leave on the heap. Each block that a command allocates is released
before the command is done, but for the records of Get tuners without a buffer for the
reply, and for the lists of Get channels and Get programs, which fail behind the
allocation. Nothing else of the daemon uses the heap, and what was left is never given
back. -/

namespace Tvd

open Exec

/-! ### Get tuners -/

section

variable {lib : Lib} {p : Platform} {s : DtvEnv} {R : Set ℕ}

/-- The array of the tuners, unless there is no memory for it. -/
def tunersArray (lib : Lib) (p : Platform) (s : DtvEnv) : Option ℕ :=
  if lib.malloc s.heap (p.sizeT (p.sizeofTvTuner * s.tunerIds.length)) = true then some s.heap.length else none

theorem tunersArray_eq {array : ℕ} (h : tunersArray lib p s = some array) : array = s.heap.length := by
  unfold tunersArray at h
  split at h
  · exact (Option.some.inj h).symm
  · cases h

/-- The blocks of the array and of the strings. -/
def tunersBlocks (lib : Lib) (p : Platform) (s : DtvEnv) : Set ℕ :=
  {block | tunersArray lib p s = some block} ∪
    Set.Ico (s.heap.length + 2) (s.heap.length + 2 + s.tunerIds.length)

/-- With no tuner listed, the array of their ids is given back if it is there. -/
theorem dtvGetTuners_owns (hfit : s.hal.Fits) (hlisted : s.tunerIds = []) (tuners : Option ℕ)
    (h : Owns s.heap R) : ∃ ops, dtvGetTuners lib p 0 tuners s = .ok ((tvStatusSuccess, []), s.withHeap ops) ∧
      Owns (ops ++ s.heap) R := by
  let block := if lib.malloc s.heap 0 = true then some s.heap.length else none
  let t := s.withHeap [.malloc 0 (lib.malloc s.heap 0)]
  have hcall : onHal (tvInputHalGetInputsByType 0 .tuner (block.map fun _ => [])) t =
      .ok ((tvStatusSuccess, block.map fun _ => []), t) :=
    zoom_ok (getInputsByType_empty hfit hlisted _)
  have hfill : fillTunerIds lib p 0 s = .ok ((block, tvStatusSuccess, block.map fun _ => []), t) := by
    have hsize : p.sizeT (4 * (0 : UInt32).toNat) = 0 := sizeT_zero p
    rw [fillTunerIds, hsize, bind_ok (onHeap_malloc lib 0 s)]
    exact bind_ok hcall _
  rw [dtvGetTuners_eq, bind_ok hfill]
  unfold block t
  cases lib.malloc s.heap 0 with
  | false => exact ⟨[.malloc 0 false], rfl, h.malloc_null 0⟩
  | true =>
    refine ⟨[.free (some s.heap.length), .malloc 0 true], rfl, ?_⟩
    have hfresh : s.heap.length ∉ R := fun hmem => Nat.lt_irrefl _ (h.lt _ hmem)
    have hfreed := (h.malloc 0).free (Set.mem_insert _ R)
    rwa [Set.insert_sdiff_self_of_notMem hfresh] at hfreed

/-- The array of the tuners is held if it is there. -/
theorem queryTuners_none (hfit : s.hal.Fits) (hlisted : s.tunerIds = []) (h : Owns s.heap R) : ∃ ops,
    queryTuners lib p s = .ok ((0, tunersArray lib p s, tvStatusSuccess, []), s.withHeap ops) ∧
      Owns (ops ++ s.heap) (R ∪ {block | tunersArray lib p s = some block}) := by
  have hsize : p.sizeT (p.sizeofTvTuner * (0 : UInt32).toNat) = 0 := by
    rw [UInt32.toNat_zero, Nat.cast_zero, Int.mul_zero, sizeT_zero]
  have harray : tunersArray lib p s = if lib.malloc s.heap 0 = true then some s.heap.length else none := by
    rw [tunersArray, hlisted, List.length_nil, Nat.cast_zero, Int.mul_zero, sizeT_zero]
  have hnum : dtvGetTunerNum s = .ok (0, s) := by
    rw [dtvGetTunerNum_ok hfit, hlisted]
    rfl
  let t := s.withHeap [.malloc 0 (lib.malloc s.heap 0)]
  have ht : Owns t.heap (R ∪ {block | tunersArray lib p s = some block}) := by
    rw [harray]
    exact h.malloc_ptr 0 _
  obtain ⟨ops, hget, howns⟩ : ∃ ops, dtvGetTuners lib p 0 (tunersArray lib p s) t =
      .ok ((tvStatusSuccess, []), t.withHeap ops) ∧ Owns (ops ++ t.heap) _ :=
    dtvGetTuners_owns (s := t) hfit hlisted _ ht
  rw [harray] at hget
  refine ⟨ops ++ [.malloc 0 (lib.malloc s.heap 0)], ?_, ?_⟩
  · rw [queryTuners, bind_ok hnum, hsize, bind_ok (onHeap_malloc lib 0 s), bind_ok hget, harray]
    rw [DtvEnv.withHeap_withHeap]
    rfl
  · rw [List.append_assoc]
    exact howns

/-- What Get tuners holds when it has its records: their array and their strings. -/
theorem queryTuners_owns (hfit : s.hal.Fits) {t : DtvEnv} {r : UInt32 × Option ℕ × UInt8 × List TvTuner}
    (hrun : queryTuners lib p s = .ok (r, t)) (h : Owns s.heap R) :
    r = (UInt32.ofNat s.tunerIds.length, tunersArray lib p s, tvStatusSuccess,
      tunerRecords (s.heap.length + 2) s.tunerIds) ∧ (∃ ops, t = s.withHeap ops) ∧
    (tunersArray lib p s = none → s.tunerIds = []) ∧
    Owns t.heap (R ∪ tunersBlocks lib p s) := by
  rw [tunersBlocks, ← Set.union_assoc]
  by_cases hlisted : s.tunerIds = []
  · obtain ⟨ops, heq, howns⟩ := queryTuners_none (p := p) hfit hlisted h
    cases heq.symm.trans hrun
    rw [hlisted]
    refine ⟨rfl, ⟨ops, rfl⟩, fun _ => rfl, ?_⟩
    have hnone : Set.Ico (s.heap.length + 2) (s.heap.length + 2 + ([] : List Int32).length) = ∅ := by simp
    rw [hnone, Set.union_empty]
    exact howns
  · have halloc : Allocates lib s.heap (tunersAllocations p s.tunerIds) := by
      by_contra hnot
      cases (queryTuners_null hfit hlisted hnot).symm.trans hrun
    have harray : tunersArray lib p s = some s.heap.length := if_pos halloc.1
    cases (queryTuners_ok hfit halloc).symm.trans hrun
    rw [harray]
    refine ⟨rfl, ⟨_, rfl⟩, fun h => absurd h (Option.some_ne_none _), ?_⟩
    have hall := h.allocated (tunersAllocations p s.tunerIds)
    have hlen : (tunersAllocations p s.tunerIds).length = s.tunerIds.length + 2 := by
      simp [tunersAllocations]
    rw [hlen] at hall
    have hids : s.heap.length + 1 ∈ R ∪ Set.Ico s.heap.length (s.heap.length + (s.tunerIds.length + 2)) :=
      .inr ⟨by omega, by omega⟩
    have hset : (R ∪ Set.Ico s.heap.length (s.heap.length + (s.tunerIds.length + 2))) \ {s.heap.length + 1} =
        R ∪ {block | some s.heap.length = some block} ∪
          Set.Ico (s.heap.length + 2) (s.heap.length + 2 + s.tunerIds.length) := by
      ext b
      simp only [Set.mem_sdiff, Set.mem_union, Set.mem_Ico, Set.mem_singleton_iff, Set.mem_ofPred_eq,
        Option.some.injEq]
      constructor
      · rintro ⟨hb | hb, hne⟩
        · exact .inl (.inl hb)
        · by_cases heq : s.heap.length = b
          · exact .inl (.inr heq)
          · right; omega
      · rintro ((hb | hb) | hb)
        · have := h.lt b hb
          exact ⟨.inl hb, by omega⟩
        · exact ⟨.inr (by omega), by omega⟩
        · exact ⟨.inr (by omega), by omega⟩
    rw [← hset]
    exact hall.free hids

/-- Releasing the records gives back what the query left. -/
theorem tunersBlocks_released {ops : List HeapOp} (h : Owns (ops ++ s.heap) (R ∪ tunersBlocks lib p s))
    (hR : Owns s.heap R) (hlen : s.tunerIds.length ≤ 100) (hnone : tunersArray lib p s = none → s.tunerIds = []) :
    Owns ((releaseTuners (UInt32.ofNat s.tunerIds.length) ((tunersArray lib p s).map fun block =>
      ⟨block, tunerRecords (s.heap.length + 2) s.tunerIds⟩)).reverse ++ (ops ++ s.heap)) R := by
  unfold tunersBlocks at h
  rw [← Set.union_assoc] at h
  cases harray : tunersArray lib p s with
  | none =>
    rw [harray, hnone harray] at h
    have hset : R ∪ {block | (none : Option ℕ) = some block} ∪
        Set.Ico (s.heap.length + 2) (s.heap.length + 2 + ([] : List Int32).length) = R := by simp
    rwa [hset] at h
  | some array =>
    cases tunersArray_eq harray
    rw [harray] at h
    have hset : R ∪ {block | some s.heap.length = some block} = insert s.heap.length R := by
      ext b
      simp [eq_comm]
    rw [hset] at h
    exact Owns.releaseTuners (hlen.trans_lt (by decide)) (fun hmem => Nat.lt_irrefl _ (hR.lt _ hmem))
      (fun b hb => (hR.lt b hb).trans (by omega)) (by omega) h

/-- It is nothing exactly if there is no array. -/
theorem tunersBlocks_eq_iff (hR : Owns s.heap R) (hnone : tunersArray lib p s = none → s.tunerIds = []) :
    R ∪ tunersBlocks lib p s = R ↔ tunersArray lib p s = none := by
  rw [Set.union_eq_left]
  constructor
  · intro hsub
    cases harray : tunersArray lib p s with
    | none => rfl
    | some array =>
      have hmem : array ∈ R := hsub (.inl harray)
      cases tunersArray_eq harray
      exact absurd (hR.lt _ hmem) (Nat.lt_irrefl _)
  · intro harray
    simp [tunersBlocks, harray, hnone harray]

end

/-! ### Commands -/

/-- What is held stays held, and more is held at the end exactly if there is a leak. -/
def Retains {α : Type} (m : DaemonM α) (s : Daemon) (leaks : Prop) : Prop :=
  ∀ R, Owns s.heap R → Ensures m s fun _ t => ∃ R', Owns t.heap R' ∧ R ⊆ R' ∧ (R' = R ↔ ¬leaks)

theorem Retains.of_keeps {α : Type} {m : DaemonM α} (h : Keeps Daemon.heap m) (s : Daemon) {leaks : Prop}
    (hnot : ¬leaks) : Retains m s leaks := fun R hR =>
  (h s).mono fun _ _ ht => ⟨R, ht ▸ hR, subset_rfl, iff_of_true rfl hnot⟩

/-- The command leaves what it allocated: the records of the tuners, or an empty list that
is not NULL. -/
inductive DtvIo.Leaks (w : World) (cmd : Pdu) (s : Daemon) : Prop
  | getTuners (hopcode : cmd.opcode = opcodeGetTuners)
      (harray : tunersArray w.lib w.platform s.dtv.env ≠ none)
      (hwbuf : w.lib.createPduWbuf s.pdus (tunersSize s.dtv.env.tunerIds) 0 = false)
  | getChannels (hopcode : cmd.opcode = opcodeGetChannel) (hread : w.lib.readPduAt cmd [.str, .C] ≠ none)
      (hlist : w.lib.malloc s.heap 0 = true)
  | getPrograms (hopcode : cmd.opcode = opcodeGetProgram)
      (hread : w.lib.readPduAt cmd [.str, .C, .str, .L, .L] ≠ none) (hlist : w.lib.malloc s.heap 0 = true)

section

variable {w : World} {cmd : Pdu} {s : Daemon}

namespace DtvIo

theorem getTuners_retains (hw : w.IsInTree) (hfit : s.dtv.env.hal.Fits) (hopcode : cmd.opcode = opcodeGetTuners) :
    Retains (getTuners w cmd) s (Leaks w cmd s) := by
  intro R hR
  have hleaks : Leaks w cmd s ↔ tunersArray w.lib w.platform s.dtv.env ≠ none ∧
      w.lib.createPduWbuf s.pdus (tunersSize s.dtv.env.tunerIds) 0 = false := by
    refine ⟨fun h => ?_, fun h => .getTuners hopcode h.1 h.2⟩
    cases h with
    | getTuners _ harray hwbuf => exact ⟨harray, hwbuf⟩
    | getChannels hother | getPrograms hother => exact absurd (hopcode.symm.trans hother) (by decide)
  have hlen : s.dtv.env.tunerIds.length ≤ 100 := DtvEnv.tunerIds_length_le hfit
  rw [getTuners_eq hw, ensures_bind]
  intro r u hquery
  obtain ⟨_, env, hrun, heq⟩ := zoom_eq_ok.mp hquery
  cases heq
  obtain ⟨rfl, ⟨ops, rfl⟩, hnone, howns⟩ := queryTuners_owns hfit hrun hR
  dsimp only
  rw [if_neg (not_not.mpr rfl), answerTuners, ensures_bind, ensures_lift]
  intro size hsize
  have hcapacity : size.toNat = tunersSize s.dtv.env.tunerIds := by
    cases harray : tunersArray w.lib w.platform s.dtv.env with
    | none =>
      rw [harray, hnone harray] at hsize
      cases hsize
      rw [hnone harray]
      rfl
    | some array =>
      rw [harray] at hsize
      cases (sizeRecords_tuners hlen array _).symm.trans hsize
      exact UInt32.toNat_ofNat_of_lt' (tunersSize_lt hlen)
  refine (createReply_heap _ _ _ _ _).mono fun _ t ht => ?_
  rw [hcapacity] at ht
  change t.heap = (if w.lib.createPduWbuf s.pdus (tunersSize s.dtv.env.tunerIds) 0 = true then
    (releaseTuners (UInt32.ofNat s.dtv.env.tunerIds.length) ((tunersArray w.lib w.platform s.dtv.env).map fun block =>
      ⟨block, tunerRecords (s.dtv.env.heap.length + 2) s.dtv.env.tunerIds⟩)).reverse else []) ++
        (ops ++ s.dtv.env.heap) at ht
  rw [hleaks, ht]
  cases hwbuf : w.lib.createPduWbuf s.pdus (tunersSize s.dtv.env.tunerIds) 0 with
  | true =>
    rw [if_pos rfl]
    refine ⟨R, ?_, subset_rfl, iff_of_true rfl fun h => by cases h.2⟩
    exact tunersBlocks_released howns hR hlen hnone
  | false =>
    rw [if_neg (by decide), List.nil_append]
    refine ⟨_, howns, Set.subset_union_left, ?_⟩
    rw [and_iff_left rfl, not_not, tunersBlocks_eq_iff hR hnone]

/-- A block that is allocated and forgotten. -/
theorem retains_malloc {size : ℕ} (status : Int32) :
    Retains (do let _ ← onEnv (onHeap (malloc w.lib size)); return status) s (w.lib.malloc s.heap size = true) := by
  intro R hR
  rw [ensures_bind, ensures_zoom, ensures_zoom]
  rintro _ _ ⟨⟩
  refine ensures_pure.mpr ⟨_, hR.malloc_ptr size (w.lib.malloc s.heap size), Set.subset_union_left, ?_⟩
  rw [Set.union_eq_left]
  constructor
  · intro hsub hok
    rw [hok] at hsub
    exact absurd (hR.lt _ (hsub rfl)) (Nat.lt_irrefl _)
  · intro hnull block hblock
    rw [if_neg hnull] at hblock
    cases hblock

theorem getChannels_retains (hw : w.IsInTree) (hopcode : cmd.opcode = opcodeGetChannel) :
    Retains (getChannels w cmd) s (Leaks w cmd s) := by
  have hleaks : Leaks w cmd s ↔ w.lib.readPduAt cmd [.str, .C] ≠ none ∧ w.lib.malloc s.heap 0 = true := by
    refine ⟨fun h => ?_, fun h => .getChannels hopcode h.1 h.2⟩
    cases h with
    | getChannels _ hread hlist => exact ⟨hread, hlist⟩
    | getTuners hother | getPrograms hother => exact absurd (hopcode.symm.trans hother) (by decide)
  rw [hleaks]
  unfold getChannels
  cases w.lib.readPduAt cmd [.str, .C] with
  | none => exact .of_keeps (keeps_pure _ _) s fun h => h.1 rfl
  | some values =>
    rw [and_iff_right (Option.some_ne_none _), ← sizeT_zero w.platform]
    dsimp only
    rw [hw]
    exact retains_malloc _

theorem getPrograms_retains (hw : w.IsInTree) (hopcode : cmd.opcode = opcodeGetProgram) :
    Retains (getPrograms w cmd) s (Leaks w cmd s) := by
  have hleaks : Leaks w cmd s ↔
      w.lib.readPduAt cmd [.str, .C, .str, .L, .L] ≠ none ∧ w.lib.malloc s.heap 0 = true := by
    refine ⟨fun h => ?_, fun h => .getPrograms hopcode h.1 h.2⟩
    cases h with
    | getPrograms _ hread hlist => exact ⟨hread, hlist⟩
    | getTuners hother | getChannels hother => exact absurd (hopcode.symm.trans hother) (by decide)
  rw [hleaks]
  unfold getPrograms
  cases w.lib.readPduAt cmd [.str, .C, .str, .L, .L] with
  | none => exact .of_keeps (keeps_pure _ _) s fun h => h.1 rfl
  | some values =>
    rw [and_iff_right (Option.some_ne_none _), ← sizeT_zero w.platform]
    dsimp only
    rw [hw]
    exact retains_malloc _

/-- The record of the channel is released as it is. -/
theorem setChannel_retains (hw : w.IsInTree) (hopcode : cmd.opcode = opcodeSetChannel) :
    Retains (setChannel w cmd) s (Leaks w cmd s) := by
  have hnot : ¬Leaks w cmd s := by
    rintro (hother | hother | hother)
    · exact absurd (hopcode.symm.trans hother) (by decide)
    · exact absurd (hopcode.symm.trans hother) (by decide)
    · exact absurd (hopcode.symm.trans hother) (by decide)
  unfold setChannel
  cases w.lib.readPduAt cmd [.str, .C, .str] with
  | none => exact .of_keeps (keeps_pure _ _) s hnot
  | some values =>
    intro R hR
    dsimp only
    cases hmalloc : w.lib.malloc s.dtv.env.heap w.platform.sizeofTvChannel with
    | false =>
      have hrun : onEnv (onHeap (malloc w.lib w.platform.sizeofTvChannel)) s =
          .ok (none, s.withHeap [.malloc w.platform.sizeofTvChannel false]) :=
        onEnv_withHeap (onHeap_malloc_null hmalloc)
      rw [hw]
      intro status t ht
      rw [bind_ok hrun] at ht
      cases ht
      exact ⟨R, hR.malloc_null _, subset_rfl, iff_of_true rfl hnot⟩
    | true =>
      have hrun : onEnv (onHeap (malloc w.lib w.platform.sizeofTvChannel)) s =
          .ok (some s.dtv.env.heap.length, s.withHeap [.malloc w.platform.sizeofTvChannel true]) :=
        onEnv_withHeap (onHeap_malloc_ok hmalloc)
      rw [hw]
      intro status t ht
      rw [bind_ok hrun] at ht
      cases ht
      refine ⟨R, ?_, subset_rfl, iff_of_true rfl hnot⟩
      exact Owns.releaseChannels (fun hmem => Nat.lt_irrefl _ (hR.lt _ hmem)) (hR.malloc _)

theorem keepsHeap_scanCommand {scan : CString → UInt8 → EnvM UInt8}
    (hscan : ∀ id type, scan id type = pure tvStatusNotSupported) (cmd : Pdu) :
    Keeps Daemon.heap (scanCommand w scan cmd) := by
  unfold scanCommand
  cases w.lib.readPduAt cmd [.str, .C] with
  | none => exact keeps_pure _ _
  | some values =>
    dsimp only
    rw [hscan]
    exact keeps_pure _ (statusCode tvStatusNotSupported)

theorem keepsHeap_cleanCache (hw : w.IsInTree) (cmd : Pdu) : Keeps Daemon.heap (cleanCache w cmd) := by
  unfold cleanCache
  rw [hw]
  exact keeps_pure _ (statusCode tvStatusNotSupported)

/-- What the commands of the service leave. -/
theorem dtvHandler_retains (hw : w.IsInTree) (hfit : s.dtv.env.hal.Fits) (cmd : Pdu) :
    Retains (dtvHandler w cmd) s (Leaks w cmd s) := by
  have hstart (id : CString) (type : UInt8) : w.dtv.dtvStartScanning id type = pure tvStatusNotSupported := by
    rw [hw]
    rfl
  have hstop (id : CString) (type : UInt8) : w.dtv.dtvStopScanning id type = pure tvStatusNotSupported := by
    rw [hw]
    rfl
  by_cases htuners : cmd.opcode = opcodeGetTuners
  · rw [dtvHandler_getTuners htuners]
    exact getTuners_retains hw hfit htuners
  by_cases hchannels : cmd.opcode = opcodeGetChannel
  · rw [dtvHandler_eq, hchannels]
    exact getChannels_retains hw hchannels
  by_cases hprograms : cmd.opcode = opcodeGetProgram
  · rw [dtvHandler_eq, hprograms]
    exact getPrograms_retains hw hprograms
  have hnot : ¬Leaks w cmd s := by
    rintro (hopcode | hopcode | hopcode)
    · exact htuners hopcode
    · exact hchannels hopcode
    · exact hprograms hopcode
  by_cases hset : cmd.opcode = opcodeSetSource
  · rw [dtvHandler_setSource hset]
    exact .of_keeps (keepsHeap_setSource hw cmd) s hnot
  by_cases hchannel : cmd.opcode = opcodeSetChannel
  · rw [dtvHandler_eq, hchannel]
    exact setChannel_retains hw hchannel
  refine .of_keeps ?_ s hnot
  rw [dtvHandler_eq]
  unfold commandTable
  rw [if_neg htuners, if_neg hset]
  by_cases hstartScan : cmd.opcode = opcodeStartScan
  · rw [if_pos hstartScan]
    exact keepsHeap_scanCommand hstart cmd
  by_cases hstopScan : cmd.opcode = opcodeStopScan
  · rw [if_neg hstartScan, if_pos hstopScan]
    exact keepsHeap_scanCommand hstop cmd
  by_cases hclear : cmd.opcode = opcodeClearCache
  · rw [if_neg hstartScan, if_neg hstopScan, if_pos hclear]
    exact keepsHeap_cleanCache hw cmd
  rw [if_neg hstartScan, if_neg hstopScan, if_neg hclear, if_neg hchannel, if_neg hchannels, if_neg hprograms]
  exact keeps_pure _ _

end DtvIo

/-! ### Steps -/

theorem keepsHeap_sendErrorReply (service error : UInt8) :
    Keeps Daemon.heap (Io.sendErrorReply w service error) := by
  refine (keepsHeap_onPdus _).bind fun wbuf => ?_
  cases wbuf with
  | none => exact keeps_throw _ _
  | some wbuf =>
    refine (keepsHeap_onPdus _).bind fun appended => (keepsHeap_onIo _).bind fun res => ?_
    exact .ite (keeps_throw _ _) (keeps_pure _ _)

theorem keepsHeap_sendNtfPdu (wbuf : Wbuf) : Keeps Daemon.heap (DtvIo.sendNtfPdu w wbuf) :=
  (keeps_get _).bind fun _ => .ite (keeps_pure _ _) ((keepsHeap_dtvSendPdu wbuf).bind fun _ => keeps_pure _ _)

/-- The DTV service, where it is registered, handles the command, and leaves what it
allocated. -/
def Daemon.Leaks (w : World) (s : Daemon) (cmd : Pdu) : Prop :=
  cmd.service = serviceDtv ∧ s.gServiceHandler serviceDtv ≠ none ∧ DtvIo.Leaks w cmd s

theorem leaks_io (io : IoState) : DtvIo.Leaks w cmd { s with io } ↔ DtvIo.Leaks w cmd s := by
  constructor
  · rintro (⟨hopcode, harray, hwbuf⟩ | ⟨hopcode, hread, hlist⟩ | ⟨hopcode, hread, hlist⟩)
    · exact .getTuners hopcode harray hwbuf
    · exact .getChannels hopcode hread hlist
    · exact .getPrograms hopcode hread hlist
  · rintro (⟨hopcode, harray, hwbuf⟩ | ⟨hopcode, hread, hlist⟩ | ⟨hopcode, hread, hlist⟩)
    · exact .getTuners hopcode harray hwbuf
    · exact .getChannels hopcode hread hlist
    · exact .getPrograms hopcode hread hlist

theorem handlePdu_retains (hw : w.IsInTree) (hreach : Daemon.Reachable w s) (hfit : s.dtv.env.hal.Fits)
    (cmd : Pdu) (io : IoState) : Retains (Io.handlePdu w (.inTree w) cmd) { s with io } (s.Leaks w cmd) := by
  intro R hR res t hrun
  rw [Io.handlePdu_eq] at hrun
  obtain ⟨status, u, hserve, hrest⟩ := bind_eq_ok.mp hrun
  have hu : t.heap = u.heap := by
    split at hrest
    · obtain ⟨_, v, hsend, hpure⟩ := bind_eq_ok.mp hrest
      cases hpure
      exact keepsHeap_sendErrorReply _ _ _ _ _ hsend
    · cases hrest
      rfl
  have hserve' : Io.serve w (.inTree w) (s.logged cmd) cmd (Daemon.logged { s with io } cmd) = .ok (status, u) :=
    hserve
  rw [hu]
  rcases serve_cases hreach cmd with ⟨hservice, heq⟩ | ⟨hservice, hregistered, heq⟩ | ⟨-, hnone, heq⟩
  · rw [heq] at hserve'
    have hnot : ¬s.Leaks w cmd := fun h => absurd (hservice.symm.trans h.1) (by decide)
    exact Retains.of_keeps (keepsHeap_registryHandler hw cmd) (Daemon.logged { s with io } cmd) hnot R hR _ _ hserve'
  · rw [heq] at hserve'
    have hretains := DtvIo.dtvHandler_retains (s := Daemon.logged { s with io } cmd) hw hfit cmd R hR _ _ hserve'
    obtain ⟨R', hR', hsub, hiff⟩ := hretains
    have hleaks : DtvIo.Leaks w cmd (Daemon.logged { s with io } cmd) ↔ DtvIo.Leaks w cmd s :=
      leaks_io (s := s) (Daemon.logged { s with io } cmd).io
    refine ⟨R', hR', hsub, hiff.trans (not_congr (hleaks.trans ?_))⟩
    exact ⟨fun h => ⟨hservice, hregistered, h⟩, fun h => h.2.2⟩
  · rw [heq] at hserve'
    cases hserve'
    exact ⟨R, hR, subset_rfl, iff_of_true rfl fun h => h.2.1 (hnone h.1)⟩

/-- A task leaves the heap alone, and handles no command. -/
theorem runTask_heap (idx : ℕ) (s : Daemon) : Ensures (Daemon.runTask w idx) s fun _ t =>
    t.heap = s.heap ∧ handledPdus t.io.log = handledPdus s.io.log := by
  rw [Daemon.runTask, ensures_bind, ensures_get]
  cases s.tasks[idx]? with
  | none => exact ensures_pure.mpr ⟨rfl, rfl⟩
  | some wbuf =>
    rw [ensures_bind]
    refine ensures_modify.mpr fun result t hrun => ⟨?_, ?_⟩
    · exact keepsHeap_sendNtfPdu wbuf { s with tasks := s.tasks.eraseIdx idx } _ _ hrun
    · rcases sendNtfPdu_passes wbuf _ _ _ hrun with rfl | hpass
      · rfl
      · exact (Daemon.traffic_eq_iff.mp hpass).2.1

/-- The step handles a command that leaves what it allocated. -/
def LeakyStep (w : World) (s : Daemon) (_ : Input) (t : Daemon) : Prop :=
  ∃ cmd, handledPdus t.io.log = handledPdus s.io.log ++ [cmd] ∧ s.Leaks w cmd

/-- A step leaves the heap alone and handles no command, or it handles one. -/
theorem Daemon.Step.heap {t : Daemon} {input : Input} (hstep : Daemon.Step w s input t) :
    t.heap = s.heap ∧ handledPdus t.io.log = handledPdus s.io.log ∨
      ∃ cmd io res v, handledPdus t.io.log = handledPdus s.io.log ++ [cmd] ∧
        Io.handlePdu w (.inTree w) cmd { s with io } = .ok (res, v) ∧ t.heap = v.heap := by
  obtain ⟨v, heffect, hsame, ht⟩ := hstep.effective
  have hhandled : handledPdus t.io.log = handledPdus v.io.log := congrArg Prod.snd hsame
  have hheap : t.heap = v.heap := by rw [ht]; rfl
  rw [hhandled, hheap]
  cases heffect with
  | idle => exact .inl ⟨rfl, rfl⟩
  | event event _ hrun =>
    obtain ⟨_, env, henv, heq⟩ := zoom_eq_ok.mp hrun
    obtain ⟨_, hal, -, heq'⟩ := zoom_eq_ok.mp henv
    cases heq'
    cases heq
    exact .inl ⟨rfl, rfl⟩
  | notified _ hv =>
    cases hv with
    | ignored | noMemory | unfilled | rejected | queued => exact .inl ⟨rfl, rfl⟩
  | task idx _ hrun => exact .inl (runTask_heap idx s _ _ hrun)
  | @command cmd u _ _ hu hrun =>
    obtain ⟨htraffic, heq⟩ := hu
    obtain ⟨-, -, -, hcmd⟩ := handlePdu_inbound cmd u _ _ hrun
    have hhandled₀ : handledPdus u.io.log = handledPdus s.io.log := congrArg Prod.snd htraffic
    rw [heq] at hrun
    exact .inr ⟨cmd, u.io, _, v, hhandled₀ ▸ hcmd, hrun, rfl⟩

theorem Daemon.Step.retains {t : Daemon} {input : Input} (hw : w.IsInTree) (hreach : Daemon.Reachable w s)
    (hfit : s.dtv.env.hal.Fits) (hstep : Daemon.Step w s input t) {R : Set ℕ} (hR : Owns s.heap R) :
    ∃ R', Owns t.heap R' ∧ R ⊆ R' ∧ (R' = R ↔ ¬LeakyStep w s input t) := by
  rcases hstep.heap with ⟨hheap, hnone⟩ | ⟨cmd, io, res, v, hcmd, hrun, hheap⟩
  · refine ⟨R, hheap ▸ hR, subset_rfl, iff_of_true rfl ?_⟩
    rintro ⟨cmd, hcmd, -⟩
    rw [hnone] at hcmd
    exact absurd (List.self_eq_append_right.mp hcmd) (List.cons_ne_nil _ _)
  · obtain ⟨R', hR', hsub, hiff⟩ := handlePdu_retains hw hreach hfit cmd io R hR _ _ hrun
    refine ⟨R', hheap ▸ hR', hsub, hiff.trans (not_congr ⟨fun h => ⟨cmd, hcmd, h⟩, ?_⟩)⟩
    rintro ⟨cmd', hcmd', hleaks⟩
    rw [hcmd] at hcmd'
    cases List.append_cancel_left hcmd'
    exact hleaks

end

/-! ### Runs -/

/-- What is held on the heap. -/
def Daemon.blocks (s : Daemon) : Set ℕ := HeapOp.blocks.held s.heap

section

variable {lib : Lib} {fdio : Fdio} {driver : Driver} {p : Platform} {runTask : List PduOp → Wbuf → Int32}
variable {s t : Daemon} {input : Input}

theorem Daemon.Connected.heap (h : Daemon.Connected (.inTree lib fdio driver p runTask) s) : s.heap = [] := by
  obtain ⟨fd, rbuf, result, -, -, rfl⟩ := h.eq
  rfl

/-- Only blocks that are held are freed, and loaded from when records are released. -/
theorem Daemon.Reachable.heap_sound (h : Daemon.Reachable (.inTree lib fdio driver p runTask) s) :
    HeapOp.blocks.Sound s.heap := by
  obtain ⟨s₀, hs₀, hreach₀⟩ := h
  have htree : (World.inTree lib fdio driver p runTask).IsInTree := rfl
  have hempty : HeapOp.blocks.Sound s₀.heap := by
    rw [hs₀.heap]
    trivial
  have hinv : Daemon.Reachable (.inTree lib fdio driver p runTask) s ∧ HeapOp.blocks.Sound s.heap := by
    refine hreach₀.invariant (P := fun s => Daemon.Reachable _ s ∧ HeapOp.blocks.Sound s.heap) ?_
      ⟨⟨s₀, hs₀, .refl s₀⟩, hempty⟩
    rintro s input t hstep ⟨hreach, hsound⟩
    obtain ⟨R', hR', -⟩ := hstep.retains htree hreach hreach.halReady.fits ⟨hsound, rfl⟩
    exact ⟨hreach.step hstep, hR'.sound⟩
  exact hinv.2

/-- A step gives nothing back, and leaves more exactly if it is leaky. -/
theorem Daemon.Step.blocks (hreach : Daemon.Reachable (.inTree lib fdio driver p runTask) s)
    (hstep : Daemon.Step (.inTree lib fdio driver p runTask) s input t) :
    s.blocks ⊆ t.blocks ∧ (t.blocks = s.blocks ↔ ¬LeakyStep (.inTree lib fdio driver p runTask) s input t) := by
  have htree : (World.inTree lib fdio driver p runTask).IsInTree := rfl
  obtain ⟨R', hR', hsub, hiff⟩ := hstep.retains htree hreach hreach.halReady.fits ⟨hreach.heap_sound, rfl⟩
  cases hR'.held
  exact ⟨hsub, hiff⟩

/-- In a run of the daemon only blocks that are held are freed, and loaded from when records
are released; pointers that were never stored are not counted. What a command leaves is
never given back, and nothing is left exactly if no step was leaky. -/
theorem blocks_left_iff {l : List (Transition Daemon Input)}
    (hs : Daemon.Connected (.inTree lib fdio driver p runTask) s)
    (hrun : Run (Daemon.Step (.inTree lib fdio driver p runTask)) s l t) :
    HeapOp.blocks.Sound t.heap ∧ (∀ x ∈ l, x.after.blocks ⊆ t.blocks) ∧
    (t.blocks = ∅ ↔ ∀ x ∈ l, ¬LeakyStep (.inTree lib fdio driver p runTask) x.before x.label x.after) := by
  have hreach : Daemon.Reachable (.inTree lib fdio driver p runTask) s := ⟨s, hs, .refl s⟩
  have hempty : s.blocks = ∅ := by
    rw [Daemon.blocks, hs.heap]
    rfl
  refine ⟨Daemon.Reachable.heap_sound ⟨s, hs, l, hrun⟩, ?_, ?_⟩
  · exact (hrun.le_last (fun _ _ _ hstep h => h.step hstep) (fun _ _ _ hstep h => (hstep.blocks h).1) hreach).2
  · rw [← hempty]
    exact hrun.last_eq_iff (fun _ _ _ hstep h => h.step hstep) (fun _ _ _ hstep h => (hstep.blocks h).1)
      (fun _ _ _ hstep h => (hstep.blocks h).2) hreach

end

/-- A Register command, and a Get channels command. -/
def listsChannels : List Input :=
  [.readable (some [0, 1, 1, 0, 1]), .readable (some [1, 7, 3, 0, 49, 0, 0])]

/-- The list of the channels is left. -/
theorem blocks_left_listsChannels :
    (listsChannels.foldl (Daemon.next (.onDriver steadyDriver)) (.connected (.onDriver steadyDriver))).blocks ≠ ∅ := by
  have hconnected : Daemon.Connected (.onDriver steadyDriver) (.connected (.onDriver steadyDriver)) :=
    ⟨3, by decide, rfl⟩
  have hrun : Run (Daemon.Step (.onDriver steadyDriver)) (.connected (.onDriver steadyDriver))
      (trace (Daemon.next (.onDriver steadyDriver)) (.connected (.onDriver steadyDriver)) listsChannels) _ :=
    Daemon.trace_run (by decide +kernel)
  intro hnone
  refine (blocks_left_iff hconnected hrun).2.2.mp hnone _ (List.mem_cons_of_mem _ List.mem_cons_self) ?_
  refine ⟨⟨1, 7, [49, 0, 0]⟩, by decide +kernel, rfl, by decide +kernel, ?_⟩
  exact .getChannels rfl (by decide +kernel) (by decide +kernel)

end Tvd

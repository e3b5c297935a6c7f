import Tvd.Wire.Calls
import Tvd.Wire.Languages
import Tvd.Wire.Records
import Mathlib.Data.List.GetD
import Mathlib.Algebra.BigOperators.Group.List.Basic

/-! The buffer of a Get program reply. Its capacity is a 32-bit sum of string lengths,
while the length of what is appended is bounded by the length field of a PDU alone, so a
list whose strings take more than 32 bits to count can be given too small a buffer. -/

namespace Tvd

open Exec

/-! ### What is appended -/

section

variable {lib : Lib} {w : World}

/-- `append_to_pdu(pdu, "0", langs[idx])`. -/
def langCall (langs : Ptr (List (Ptr CString))) (idx : ℕ) : Except Fault (List Fmt × List Arg) := do
  let lang ← langAt langs idx
  let arg ← ptrArg lang
  return ([.str], [arg])

/-- The calls that append a program. -/
def TvProgram.appendCalls (prog : TvProgram) : AppendCalls :=
  (do let args ← programArgs prog; return (programFmt, args)) ::
    ((List.range prog.langNum.toNat).map (langCall prog.langs) ++
      .ok ([.I], [.int prog.stlLangNum]) ::
        (List.range prog.langNum.toNat).map (langCall prog.stlLangs))

/-- The calls that append the program at an index. -/
def programCallsAt (programs : Option (Records TvProgram)) (idx : ℕ) : AppendCalls :=
  match Records.ref .unset idx programs with
  | .error e => [.error e]
  | .ok none => [.error .nullPointer]
  | .ok (some prog) => prog.appendCalls

/-- The calls that fill a Get program reply. -/
def programsCalls (num : UInt32) (programs : Option (Records TvProgram)) : AppendCalls :=
  .ok ([.I], [.int num]) :: (List.range num.toNat).flatMap (programCallsAt programs)

theorem appendLangs_eq (n : UInt32) (langs : Ptr (List (Ptr CString))) :
    appendLangs lib n langs = appendAll lib ((List.range n.toNat).map (langCall langs)) := by
  rw [← appendEach_eq_appendAll]
  funext wbuf
  unfold appendLangs
  congr 1
  funext wbuf idx
  rw [langCall, lift_bind, bind_assoc]
  congr 1
  funext lang
  rw [lift_bind, bind_assoc]
  rfl

theorem appendProgram_eq (prog : TvProgram) :
    (fun wbuf => appendProgram lib wbuf (some prog)) = appendAll lib prog.appendCalls := by
  rw [TvProgram.appendCalls, appendAll, appendAll_append, ← appendLangs_eq, appendAll, ← appendLangs_eq]
  funext wbuf
  dsimp only [appendProgram]
  unfold DtvIo.Fill.seq
  rw [lift_bind, bind_assoc, bind_assoc]
  rfl

theorem appendRecords_eq (num : UInt32) (programs : Option (Records TvProgram)) :
    DtvIo.appendRecords w .unset (appendProgram w.lib) num programs =
      appendAll w.lib (programsCalls num programs) := by
  have hstep (idx : ℕ) : (fun wbuf => do
      appendProgram w.lib wbuf (← Exec.lift (Records.ref .unset idx programs))) =
        appendAll w.lib (programCallsAt programs idx) := by
    unfold programCallsAt
    cases Records.ref .unset idx programs with
    | error e => rfl
    | ok prog =>
      cases prog with
      | none => rfl
      | some prog => exact appendProgram_eq prog
  rw [programsCalls, appendAll, ← appendEach_eq_flatMap hstep]
  rfl

end

/-! ### How many bytes that is -/

/-- A program with everything stored, whose lists both hold as many strings as there are
audio languages. -/
structure TvProgram.Listed (prog : TvProgram) : Prop where
  stored : none ∉ prog.blocks
  langs : prog.langs.val.length = prog.langNum.toNat
  stlLangs : prog.stlLangs.val.length = prog.langNum.toNat

/-- A string and its NUL. -/
def Ptr.size (str : Ptr CString) : ℕ := str.val.strlen + 1

/-- The bytes of the calls that append a program: the title is not among them. -/
def TvProgram.callSizes (prog : TvProgram) : List ℕ :=
  (prog.evtId.size + (8 + (8 + (prog.descpt.size + (prog.rating.size + 4))))) ::
    (prog.langs.val.map Ptr.size ++ 4 :: prog.stlLangs.val.map Ptr.size)

/-- The bytes of the calls that fill the reply. -/
def programsCallSizes (progs : List TvProgram) : List ℕ := 4 :: progs.flatMap TvProgram.callSizes

/-- The bytes of all fields of the programs, behind their number. -/
def programsSize (progs : List TvProgram) : ℕ :=
  4 + (progs.map fun prog => prog.title.size + prog.callSizes.sum).sum

/-- The records of an array that may be NULL. -/
def recordItems {α : Type} (records : Option (Records α)) : List α := (records.map Records.items).getD []

section

variable {lib : Lib} {o : ByteOrder} {w : World} {prog : TvProgram}

theorem encodeArgs_str (o : ByteOrder) (s : CString) :
    encodeArgs o [.str] [.ptr s] = some (CString.codec.encode s) := by
  rw [encodeArgs_cons rfl rfl, List.append_nil]

theorem langCalls_sizes {langs : Ptr (List (Ptr CString))} (h : StoredLangs langs) (o : ByteOrder) :
    CallSizes o ((List.range langs.val.length).map (langCall langs)) (langs.val.map Ptr.size) := by
  refine List.forall₂_iff_get.mpr ⟨by simp, fun i hi _ => ?_⟩
  have hidx : i < langs.val.length := by simpa using hi
  refine ⟨[.str], [.ptr langs.val[i].val], CString.codec.encode langs.val[i].val, ?_, encodeArgs_str _ _, ?_⟩
  · have hcall : langCall langs i = .ok ([.str], [.ptr langs.val[i].val]) := by
      rw [langCall, h.langAt hidx]
      dsimp only [bind, Except.bind]
      rw [ptrArg_ok (h.get hidx)]
      rfl
    simpa using hcall
  · rw [CString.codec_encode_length, List.get_eq_getElem, List.getElem_map, Ptr.size]

theorem TvProgram.Listed.callSizes (h : prog.Listed) (o : ByteOrder) :
    CallSizes o prog.appendCalls prog.callSizes := by
  obtain ⟨hevt, -, hdescpt, hrating⟩ := fields_stored h.stored
  have hargs : programArgs prog = .ok [.ptr prog.evtId.val, .long prog.startTime, .long prog.duration,
      .ptr prog.descpt.val, .ptr prog.rating.val, .int prog.langNum] := by
    rw [programArgs, ptrArg_ok (get_of_block hevt), ptrArg_ok (get_of_block hdescpt),
      ptrArg_ok (get_of_block hrating)]
    rfl
  have hlangs := langCalls_sizes (storedLangs_langs h.stored) o
  have hstlLangs := langCalls_sizes (storedLangs_stlLangs h.stored) o
  rw [h.langs] at hlangs
  rw [h.stlLangs] at hstlLangs
  unfold CallSizes TvProgram.appendCalls TvProgram.callSizes
  rw [hargs]
  refine .cons ⟨_, _, _, rfl, encodeArgs_cons rfl (encodeArgs_cons rfl (encodeArgs_cons rfl
    (encodeArgs_cons rfl (encodeArgs_cons rfl (encodeArgs_cons rfl rfl))))), ?_⟩ ?_
  · simp only [List.length_append, List.length_nil, CString.codec_encode_length,
      Codec.word64_encode_length, Codec.word32_encode_length, Ptr.size, Nat.add_zero]
  · refine List.rel_append hlangs (.cons ⟨_, _, _, rfl, encodeArgs_cons rfl rfl, ?_⟩ hstlLangs)
    simp

theorem addStrlen_ptr {str : Ptr CString} (h : str.block ≠ none) (n : ℕ) :
    addStrlen (UInt32.ofNat n) str = .ok (UInt32.ofNat (n + str.size)) :=
  addStrlen_ofNat (get_of_block h) n

/-- The loop of the size function over a list. -/
theorem langsSize_eq {langs : Ptr (List (Ptr CString))} (h : StoredLangs langs) (start : ℕ) :
    (List.range langs.val.length).foldlM (fun size idx => do
      addStrlen size (← langAt langs idx)) (UInt32.ofNat start) =
        .ok (UInt32.ofNat (start + (langs.val.map Ptr.size).sum)) := by
  have hsum : langs.val.map Ptr.size =
      (List.range langs.val.length).map fun idx => (langs.val.getD idx .unset).size := by
    conv_lhs => rw [← map_getD_range langs.val .unset, List.map_map]
    rfl
  rw [hsum]
  refine foldlM_ofNat (fun idx hidx k => ?_) start
  have hget : langs.val.getD idx .unset = langs.val[idx] := by
    rw [List.getD_eq_getElem?_getD, List.getElem?_eq_getElem hidx, Option.getD_some]
  rw [h.langAt hidx, hget]
  exact addStrlen_ptr (h.strings _ (List.getElem_mem hidx)) k

/-- The size of a program, title included. -/
theorem TvProgram.Listed.calculateProgSize (h : prog.Listed) :
    calculateProgSize (some prog) = .ok (UInt32.ofNat (prog.title.size + prog.callSizes.sum)) := by
  obtain ⟨hevt, htitle, hdescpt, hrating⟩ := fields_stored h.stored
  have hsum : prog.title.size + prog.callSizes.sum = 0 + prog.evtId.size + prog.title.size + 8 + 8 +
      prog.descpt.size + prog.rating.size + 4 + (prog.langs.val.map Ptr.size).sum + 4 +
        (prog.stlLangs.val.map Ptr.size).sum := by
    rw [TvProgram.callSizes, List.sum_cons, List.sum_append, List.sum_cons]
    omega
  have hadd (n k : ℕ) : UInt32.ofNat n + UInt32.ofNat k = UInt32.ofNat (n + k) := (UInt32.ofNat_add n k).symm
  have hlangs := langsSize_eq (storedLangs_langs h.stored)
  have hstlLangs := langsSize_eq (storedLangs_stlLangs h.stored)
  rw [h.langs] at hlangs
  rw [h.stlLangs] at hstlLangs
  rw [hsum, Tvd.calculateProgSize, show (0 : UInt32) = UInt32.ofNat 0 from rfl,
    show (8 : UInt32) = UInt32.ofNat 8 from rfl, show (4 : UInt32) = UInt32.ofNat 4 from rfl,
    addStrlen_bind (get_of_block hevt), addStrlen_bind (get_of_block htitle)]
  dsimp only
  rw [hadd, hadd, addStrlen_bind (get_of_block hdescpt), addStrlen_bind (get_of_block hrating),
    hadd, hlangs]
  dsimp only [bind, Except.bind]
  rw [hadd]
  exact hstlLangs _

end

/-! ### The buffer of the reply -/

section

variable {o : ByteOrder} {w : World} {num : UInt32} {programs : Option (Records TvProgram)}

/-- An array of so many programs, each with its lists. -/
structure ListedPrograms (num : UInt32) (programs : Option (Records TvProgram)) : Prop where
  length : (recordItems programs).length = num.toNat
  listed : ∀ prog ∈ recordItems programs, prog.Listed

theorem ListedPrograms.ref (h : ListedPrograms num programs) {idx : ℕ} (hidx : idx < num.toNat) :
    ∃ prog, prog.Listed ∧ (recordItems programs).getD idx .unset = prog ∧
      Records.ref .unset idx programs = .ok (some prog) := by
  have hlen := h.length
  cases programs with
  | none =>
    rw [recordItems, Option.map_none, Option.getD_none, List.length_nil] at hlen
    omega
  | some records =>
    have hmem : idx < (recordItems (some records)).length := by omega
    refine ⟨(recordItems (some records)).getD idx .unset, h.listed _ ?_, rfl, rfl⟩
    rw [List.getD_eq_getElem _ _ hmem]
    exact List.getElem_mem hmem

/-- The capacity of the reply: the sum of the sizes, in 32 bits. -/
theorem ListedPrograms.size (h : ListedPrograms num programs) :
    DtvIo.sizeRecords .unset calculateProgSize num programs 4 =
      .ok (UInt32.ofNat (programsSize (recordItems programs))) := by
  have hsum : (recordItems programs).map (fun prog => prog.title.size + prog.callSizes.sum) =
      (List.range num.toNat).map fun idx =>
        ((recordItems programs).getD idx .unset).title.size +
          ((recordItems programs).getD idx .unset).callSizes.sum := by
    conv_lhs => rw [← map_getD_range (recordItems programs) .unset, List.map_map, h.length]
    rfl
  rw [programsSize, hsum, DtvIo.sizeRecords, show (4 : UInt32) = UInt32.ofNat 4 from rfl]
  refine foldlM_ofNat (fun idx hidx k => ?_) 4
  obtain ⟨prog, hlisted, hprog, href⟩ := h.ref hidx
  rw [href, hprog]
  dsimp only [bind, Except.bind]
  rw [hlisted.calculateProgSize, UInt32.ofNat_add k]
  rfl

theorem ListedPrograms.callSizes (h : ListedPrograms num programs) (o : ByteOrder) :
    CallSizes o (programsCalls num programs) (programsCallSizes (recordItems programs)) := by
  have hitems : (recordItems programs).flatMap TvProgram.callSizes =
      (List.range num.toNat).flatMap fun idx => ((recordItems programs).getD idx .unset).callSizes := by
    conv_lhs => rw [← map_getD_range (recordItems programs) .unset, List.flatMap_map, h.length]
  have hloop (n : ℕ) : n ≤ num.toNat → CallSizes o ((List.range n).flatMap (programCallsAt programs))
      ((List.range n).flatMap fun idx => ((recordItems programs).getD idx .unset).callSizes) := by
    induction n with
    | zero => exact fun _ => .nil
    | succ n ih =>
      intro hn
      obtain ⟨prog, hlisted, hprog, href⟩ := h.ref (show n < num.toNat by omega)
      rw [List.range_succ, List.flatMap_append, List.flatMap_append, List.flatMap_singleton,
        List.flatMap_singleton, programCallsAt, href, hprog]
      exact List.rel_append (ih (by omega)) (hlisted.callSizes o)
  rw [programsCalls, programsCallSizes, hitems]
  refine .cons ⟨_, _, _, rfl, encodeArgs_cons rfl rfl, ?_⟩ (hloop num.toNat le_rfl)
  rw [List.length_append, Codec.word32_encode_length]
  rfl

/-- Whatever is appended to an empty reply fits the capacity that it is created with. -/
def FitsCapacity (w : World) (num : UInt32) (programs : Option (Records TvProgram)) : Prop :=
  ∃ size, DtvIo.sizeRecords .unset calculateProgSize num programs 4 = .ok size ∧
    ∀ log service opcode, (appendedPdu w.lib log ⟨service, opcode, []⟩
      (programsCalls num programs)).payload.length ≤ size.toNat

/-- So does the reply that `get_programs` fills. -/
theorem FitsCapacity.appendRecords (h : FitsCapacity w num programs) {wbuf : Wbuf}
    (hempty : wbuf.pdu.payload = []) (log : List PduOp) :
    ∃ size, DtvIo.sizeRecords .unset calculateProgSize num programs 4 = .ok size ∧
      Ensures (DtvIo.appendRecords w .unset (appendProgram w.lib) num programs wbuf) log fun r _ =>
        ∀ filled, r = some filled → filled.pdu.payload.length ≤ size.toNat := by
  obtain ⟨size, hsize, hfits⟩ := h
  refine ⟨size, hsize, ?_⟩
  have hpdu : wbuf.pdu = ⟨wbuf.pdu.service, wbuf.pdu.opcode, []⟩ := by rw [← hempty]
  rw [appendRecords_eq]
  refine (appendAll_appended (programsCalls num programs) wbuf log).mono fun r _ happended filled hfilled => ?_
  rw [happended filled hfilled, hpdu]
  exact hfits log _ _

/-- The calls append at most the bytes of all fields. -/
theorem take_programsCallSizes_le (progs : List TvProgram) (k : ℕ) :
    ((programsCallSizes progs).take k).sum ≤ programsSize progs := by
  have hall : (programsCallSizes progs).sum ≤ programsSize progs := by
    rw [programsCallSizes, List.sum_cons, programsSize]
    refine Nat.add_le_add_left ?_ 4
    induction progs with
    | nil => exact le_rfl
    | cons prog progs ih =>
      rw [List.flatMap_cons, List.sum_append, List.map_cons, List.sum_cons]
      omega
  have hsplit := List.sum_take_add_sum_drop (programsCallSizes progs) k
  omega

/-- The reply fits when no front of the calls that fits a PDU is longer than the capacity. -/
theorem fitsCapacity_iff_front (hdoc : w.lib.Documented o) (h : ListedPrograms num programs) :
    FitsCapacity w num programs ↔
      ∀ k, ((programsCallSizes (recordItems programs)).take k).sum ≤ pduMaxDataLength →
        ((programsCallSizes (recordItems programs)).take k).sum ≤
          programsSize (recordItems programs) % 2 ^ 32 := by
  have hfront (log : List PduOp) (service opcode : UInt8) (capacity : ℕ) :
      (appendedPdu w.lib log ⟨service, opcode, []⟩ (programsCalls num programs)).payload.length ≤ capacity ↔
        ∀ k, ((programsCallSizes (recordItems programs)).take k).sum ≤ pduMaxDataLength →
          ((programsCallSizes (recordItems programs)).take k).sum ≤ capacity := by
    rw [appendedPdu_length_le_iff hdoc (h.callSizes o) capacity _ _ (Nat.zero_le _)]
    simp only [List.length_nil, Nat.zero_add]
  have hcapacity : (UInt32.ofNat (programsSize (recordItems programs))).toNat =
      programsSize (recordItems programs) % 2 ^ 32 := UInt32.toNat_ofNat'
  rw [← hcapacity]
  constructor
  · rintro ⟨size, hsize, hfits⟩
    rw [h.size, Except.ok.injEq] at hsize
    subst hsize
    exact (hfront [] 0 0 _).mp (hfits [] 0 0)
  · intro hall
    exact ⟨_, h.size, fun log service opcode => (hfront log service opcode _).mpr hall⟩

/-- What is appended fits the buffer when the size of all fields fits 32 bits. A larger
size is cut down, and then the reply fits if no front of the calls that fits a PDU is
longer than what is left of the size. -/
theorem fitsCapacity_iff (hdoc : w.lib.Documented o) (h : ListedPrograms num programs) :
    FitsCapacity w num programs ↔
      programsSize (recordItems programs) < 2 ^ 32 ∨
        ∀ k, ((programsCallSizes (recordItems programs)).take k).sum ≤ pduMaxDataLength →
          ((programsCallSizes (recordItems programs)).take k).sum ≤
            programsSize (recordItems programs) % 2 ^ 32 := by
  rw [fitsCapacity_iff_front hdoc h]
  constructor
  · exact .inr
  · rintro (hlt | hall)
    · intro k _
      rw [Nat.mod_eq_of_lt hlt]
      exact take_programsCallSizes_le _ k
    · exact hall

theorem programSubtitled_fitsCapacity :
    FitsCapacity (.onDriver steadyDriver) 1 (some ⟨0, [programSubtitled]⟩) := by
  refine (fitsCapacity_iff Lib.reference_documented ⟨rfl, fun prog hprog => ?_⟩).mpr (.inl (by decide))
  cases List.mem_singleton.mp hprog
  exact ⟨by decide, rfl, rfl⟩

/-- A program with a title of so many bytes, and else with empty strings and lists. -/
def programTitled (len : ℕ) : TvProgram :=
  { programAt 1 with
    title := ⟨some 2, ⟨List.replicate len 65, fun h => by cases List.eq_of_mem_replicate h⟩⟩
    langNum := 0
    langs := ⟨some 5, []⟩ }

theorem programTitled_listed (len : ℕ) : ListedPrograms 1 (some ⟨0, [programTitled len]⟩) := by
  refine ⟨rfl, fun prog hprog => ?_⟩
  cases List.mem_singleton.mp hprog
  exact ⟨by simp [programTitled, programAt, TvProgram.blocks, langBlocks], rfl, rfl⟩

theorem programsSize_programTitled (len : ℕ) :
    programsSize (recordItems (some ⟨0, [programTitled len]⟩)) = len + 32 := by
  have htitle : (programTitled len).title.size = len + 1 := by
    simp [programTitled, Ptr.size, CString.strlen]
  have hcalls : (programTitled len).callSizes.sum = 27 := rfl
  change 4 + ((programTitled len).title.size + (programTitled len).callSizes.sum + 0) = _
  omega

/-- The fields of a program with a title of 2 ^ 32 - 32 bytes take 2 ^ 32 bytes, so the
reply is created without any room. -/
theorem programTitled_not_fitsCapacity : ¬∀ (w : World) (o : ByteOrder) (num : UInt32)
    (programs : Option (Records TvProgram)), w.lib.Documented o → ListedPrograms num programs →
    FitsCapacity w num programs := by
  intro h
  have hfits := h (.onDriver steadyDriver) .little 1 _ Lib.reference_documented
    (programTitled_listed (2 ^ 32 - 32))
  have hnum (progs : List TvProgram) : ((programsCallSizes progs).take 1).sum = 4 := rfl
  have hfront := (fitsCapacity_iff_front Lib.reference_documented (programTitled_listed _)).mp hfits 1
  rw [hnum, programsSize_programTitled] at hfront
  exact absurd (hfront (by decide)) (by decide)

end

end Tvd

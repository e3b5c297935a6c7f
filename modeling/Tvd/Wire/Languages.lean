import Tvd.Exec.Trace
import Tvd.Heap.Programs
import Tvd.Wire.Appends

/-! How the two language lists of a program are traversed. The size function and the
appending function are followed with the entries they read and the calls they make.
`release_programs` counts each list by its own number, but both of them count the
subtitle languages by the audio languages. -/

namespace Tvd

open Exec

/-- A read of an entry of `langs` or of `stl_langs`, or a call of `append_to_pdu`. -/
inductive ProgEvent where
  | lang (idx : ℕ)
  | stlLang (idx : ℕ)
  | append (fmt : List Fmt) (args : List Arg)

namespace ProgEvent

def langIdx : ProgEvent → Option ℕ
  | lang idx => some idx
  | stlLang _ | append .. => none

def stlLangIdx : ProgEvent → Option ℕ
  | stlLang idx => some idx
  | lang _ | append .. => none

def call : ProgEvent → Option (List Fmt × List Arg)
  | append fmt args => some (fmt, args)
  | lang _ | stlLang _ => none

end ProgEvent

/-- Code that records what it does with the lists. -/
abbrev TraceM (σ : Type) := Exec Fault (Traced ProgEvent σ)

/-! ### The functions with their traces -/

/-- `langs[idx]`, recorded. -/
def readLang {σ : Type} (event : ℕ → ProgEvent) (langs : Ptr (List (Ptr CString))) (idx : ℕ) :
    TraceM σ (Ptr CString) := do
  record (event idx)
  Exec.lift (langAt langs idx)

/-- One iteration of the loops of the size function. -/
def addLang {σ : Type} (event : ℕ → ProgEvent) (langs : Ptr (List (Ptr CString))) (size : UInt32)
    (idx : ℕ) : TraceM σ UInt32 := do
  let lang ← readLang event langs idx
  Exec.lift (addStrlen size lang)

/-- Add up the sizes of the first `n` strings of a list. -/
def langsSizeTrace {σ : Type} (event : ℕ → ProgEvent) (n : UInt32) (langs : Ptr (List (Ptr CString)))
    (size : UInt32) : TraceM σ UInt32 :=
  (List.range n.toNat).foldlM (addLang event langs) size

def progSizeTrace {σ : Type} (prog : TvProgram) : TraceM σ UInt32 := do
  let size ← Exec.lift (addStrlen 0 prog.evtId)
  let size ← Exec.lift (addStrlen size prog.title)
  let size := size + 8 + 8
  let size ← Exec.lift (addStrlen size prog.descpt)
  let size ← Exec.lift (addStrlen size prog.rating)
  let size ← langsSizeTrace .lang prog.langNum prog.langs (size + 4)
  langsSizeTrace .stlLang prog.langNum prog.stlLangs (size + 4)

/-- A recorded call of `append_to_pdu`. -/
def appendTrace (lib : Lib) (wbuf : Wbuf) (fmt : List Fmt) (args : List Arg) :
    TraceM (List PduOp) (Option Wbuf) := do
  record (.append fmt args)
  untraced (appendToPdu lib wbuf fmt args)

def langsTrace (lib : Lib) (event : ℕ → ProgEvent) (n : UInt32) (langs : Ptr (List (Ptr CString)))
    (wbuf : Wbuf) : TraceM (List PduOp) (Option Wbuf) :=
  accumulate (fun idx wbuf => do
    let lang ← readLang event langs idx
    let arg ← Exec.lift (ptrArg lang)
    appendTrace lib wbuf [.str] [arg]) n.toNat 0 wbuf

def programTrace (lib : Lib) (wbuf : Wbuf) (prog : TvProgram) :
    TraceM (List PduOp) (Option Wbuf) := do
  let args ← Exec.lift (programArgs prog)
  match ← appendTrace lib wbuf programFmt args with
  | none => return none
  | some wbuf =>
  match ← langsTrace lib .lang prog.langNum prog.langs wbuf with
  | none => return none
  | some wbuf =>
  match ← appendTrace lib wbuf [.I] [.int prog.stlLangNum] with
  | none => return none
  | some wbuf => langsTrace lib .stlLang prog.langNum prog.stlLangs wbuf

/-! ### The traces are those of the functions -/

section

variable {lib : Lib} {wbuf : Wbuf} {prog : TvProgram} {langs : Ptr (List (Ptr CString))}

theorem readLang_erases {σ : Type} (event : ℕ → ProgEvent) (langs : Ptr (List (Ptr CString)))
    (idx : ℕ) : Erases (readLang event langs idx : TraceM σ (Ptr CString)) (Exec.lift (langAt langs idx)) :=
  .record_bind _ (.lift _)

theorem progSizeTrace_erases {σ : Type} (prog : TvProgram) :
    Erases (progSizeTrace prog : TraceM σ UInt32) (Exec.lift (calculateProgSize (some prog))) := by
  have hloop (event : ℕ → ProgEvent) (langs : Ptr (List (Ptr CString))) (n size : UInt32) :
      Erases (langsSizeTrace event n langs size : TraceM σ UInt32)
        (Exec.lift ((List.range n.toNat).foldlM (fun size idx => do
          addStrlen size (← langAt langs idx)) size)) :=
    .foldlM (fun size idx => (readLang_erases event langs idx).bind_lift fun lang => .lift _) _ size
  refine .bind_lift (.lift _) fun size => .bind_lift (.lift _) fun size => ?_
  refine .bind_lift (.lift _) fun size => .bind_lift (.lift _) fun size => ?_
  exact .bind_lift (hloop _ _ _ _) fun size => hloop _ _ _ _

theorem appendTrace_erases (lib : Lib) (wbuf : Wbuf) (fmt : List Fmt) (args : List Arg) :
    Erases (appendTrace lib wbuf fmt args) (appendToPdu lib wbuf fmt args) :=
  .record_bind _ (.untraced _)

theorem langsTrace_erases (lib : Lib) (event : ℕ → ProgEvent) (n : UInt32)
    (langs : Ptr (List (Ptr CString))) (wbuf : Wbuf) :
    Erases (langsTrace lib event n langs wbuf) (appendLangs lib n langs wbuf) := by
  refine .accumulate (fun idx wbuf => ?_) _ 0 wbuf
  exact (readLang_erases event langs idx).bind fun lang => (Erases.lift _).bind fun arg =>
    appendTrace_erases _ _ _ _

theorem programTrace_erases (lib : Lib) (wbuf : Wbuf) (prog : TvProgram) :
    Erases (programTrace lib wbuf prog) (appendProgram lib wbuf (some prog)) := by
  refine (Erases.lift _).bind fun args => (appendTrace_erases _ _ _ _).bind fun r => ?_
  cases r with
  | none => exact .pure none
  | some wbuf =>
  refine (langsTrace_erases _ _ _ _ _).bind fun r => ?_
  cases r with
  | none => exact .pure none
  | some wbuf =>
  refine (appendTrace_erases _ _ _ _).bind fun r => ?_
  cases r with
  | none => exact .pure none
  | some wbuf => exact langsTrace_erases _ _ _ _ _

end

/-! ### What they do -/

section

variable {lib : Lib} {wbuf : Wbuf} {prog : TvProgram} {langs : Ptr (List (Ptr CString))}

/-- A list that is stored, with all of its strings. -/
structure StoredLangs (langs : Ptr (List (Ptr CString))) : Prop where
  block : langs.block ≠ none
  strings : ∀ lang ∈ langs.val, lang.block ≠ none

theorem StoredLangs.langAt (h : StoredLangs langs) {idx : ℕ} (hidx : idx < langs.val.length) :
    langAt langs idx = .ok langs.val[idx] := by
  rw [Tvd.langAt, Ptr.get, if_pos (Option.isSome_iff_ne_none.mpr h.block)]
  dsimp only [bind, Except.bind]
  rw [List.getElem?_eq_getElem hidx]

theorem StoredLangs.langAt_end (h : StoredLangs langs) {idx : ℕ} (hidx : langs.val.length ≤ idx) :
    Tvd.langAt langs idx = .error .outOfBounds := by
  rw [Tvd.langAt, Ptr.get, if_pos (Option.isSome_iff_ne_none.mpr h.block)]
  dsimp only [bind, Except.bind]
  rw [List.getElem?_eq_none hidx]

theorem StoredLangs.get (h : StoredLangs langs) {idx : ℕ} (hidx : idx < langs.val.length) :
    langs.val[idx].get = .ok langs.val[idx].val := by
  rw [Ptr.get, if_pos (Option.isSome_iff_ne_none.mpr (h.strings _ (List.getElem_mem hidx)))]

/-- The blocks of a program that are all stored. -/
theorem storedLangs_of_blocks (h : none ∉ langBlocks langs) : StoredLangs langs where
  block hnone := h (List.mem_append_right _ (by rw [hnone]; exact List.mem_cons_self))
  strings lang hlang hnone := h (List.mem_append_left _ (List.mem_map.mpr ⟨lang, hlang, hnone⟩))

section

variable {σ : Type} {event : ℕ → ProgEvent} {size : UInt32} {s : Traced ProgEvent σ}

theorem addLang_ok (event : ℕ → ProgEvent) (h : StoredLangs langs) {idx : ℕ} (hidx : idx < langs.val.length)
    (size : UInt32) (s : Traced ProgEvent σ) :
    ∃ size', addLang event langs size idx s = .ok (size', { s with trace := s.trace ++ [event idx] }) := by
  have hread : readLang event langs idx s =
      .ok (langs.val[idx], { s with trace := s.trace ++ [event idx] }) := by
    rw [readLang, h.langAt hidx]
    rfl
  refine ⟨size + UInt32.ofNat ((langs.val[idx]).val.strlen + 1), ?_⟩
  rw [addLang, bind_ok hread, addStrlen, h.get hidx]
  rfl

theorem addLang_error (event : ℕ → ProgEvent) (h : StoredLangs langs) {idx : ℕ}
    (hidx : langs.val.length ≤ idx) (size : UInt32) (s : Traced ProgEvent σ) :
    addLang event langs size idx s = .error .outOfBounds := by
  unfold addLang readLang
  rw [h.langAt_end hidx]
  rfl

/-- A loop of the size function reads the first entries of its list, in order. -/
theorem langsSizeTrace_ok (event : ℕ → ProgEvent) (h : StoredLangs langs) {n : UInt32}
    (hn : n.toNat ≤ langs.val.length) (size : UInt32) (s : Traced ProgEvent σ) :
    ∃ size', langsSizeTrace event n langs size s =
      .ok (size', { s with trace := s.trace ++ (List.range n.toNat).map event }) := by
  have hloop (k : ℕ) : ∀ i size (s : Traced ProgEvent σ), i + k ≤ langs.val.length →
      ∃ size', ((List.range' i k).foldlM (addLang event langs) size : TraceM σ UInt32) s =
        .ok (size', { s with trace := s.trace ++ (List.range' i k).map event }) := by
    induction k with
    | zero =>
      intro i size s _
      rw [List.range'_zero, List.map_nil, List.append_nil]
      exact ⟨size, rfl⟩
    | succ k ih =>
      intro i size s hik
      obtain ⟨size₁, hstep⟩ := addLang_ok event h (by omega : i < langs.val.length) size s
      obtain ⟨size₂, hrest⟩ := ih (i + 1) size₁ { s with trace := s.trace ++ [event i] } (by omega)
      refine ⟨size₂, ?_⟩
      rw [List.range'_succ, List.foldlM_cons, bind_ok hstep, hrest, List.map_cons, List.append_assoc]
      rfl
  rw [langsSizeTrace, List.range_eq_range']
  exact hloop n.toNat 0 size s (by omega)

/-- A loop that goes on past the end of its list reads out of bounds. -/
theorem langsSizeTrace_error (event : ℕ → ProgEvent) (h : StoredLangs langs) {n : UInt32}
    (hn : langs.val.length < n.toNat) (size : UInt32) (s : Traced ProgEvent σ) :
    langsSizeTrace event n langs size s = .error .outOfBounds := by
  have hloop (k : ℕ) : ∀ i size (s : Traced ProgEvent σ), i ≤ langs.val.length →
      langs.val.length < i + k →
      ((List.range' i k).foldlM (addLang event langs) size : TraceM σ UInt32) s =
        .error .outOfBounds := by
    induction k with
    | zero => intro i size s hi hend; omega
    | succ k ih =>
      intro i size s hi hend
      rw [List.range'_succ, List.foldlM_cons]
      by_cases hlt : i < langs.val.length
      · obtain ⟨size₁, hstep⟩ := addLang_ok event h hlt size s
        rw [bind_ok hstep]
        exact ih (i + 1) size₁ _ (by omega) (by omega)
      · exact bind_error (addLang_error event h (by omega) size s) _
  rw [langsSizeTrace, List.range_eq_range']
  exact hloop n.toNat 0 size s (by omega) (by omega)

end

theorem storedLangs_langs (h : none ∉ prog.blocks) : StoredLangs prog.langs :=
  storedLangs_of_blocks fun hmem => h (List.mem_append_left _ (List.mem_append_right _ hmem))

theorem storedLangs_stlLangs (h : none ∉ prog.blocks) : StoredLangs prog.stlLangs :=
  storedLangs_of_blocks fun hmem => h (List.mem_append_right _ hmem)

theorem get_of_block {α : Type} {s : Ptr α} (h : s.block ≠ none) : s.get = .ok s.val := by
  rw [Ptr.get, if_pos (Option.isSome_iff_ne_none.mpr h)]

theorem fields_stored (h : none ∉ prog.blocks) :
    prog.evtId.block ≠ none ∧ prog.title.block ≠ none ∧ prog.descpt.block ≠ none ∧
      prog.rating.block ≠ none := by
  have hfield {b : Option ℕ} (hmem : b ∈ prog.blocks) : b ≠ none := fun hnone => h (hnone ▸ hmem)
  refine ⟨hfield ?_, hfield ?_, hfield ?_, hfield ?_⟩ <;> simp [TvProgram.blocks]

/-- The size function up to the loops over the languages. -/
theorem progSizeTrace_eq (σ : Type) (h : none ∉ prog.blocks) : ∃ start,
    (progSizeTrace prog : TraceM σ UInt32) =
      langsSizeTrace .lang prog.langNum prog.langs start >>= fun size =>
        langsSizeTrace .stlLang prog.langNum prog.stlLangs (size + 4) := by
  obtain ⟨hevt, htitle, hdescpt, hrating⟩ := fields_stored h
  unfold progSizeTrace addStrlen
  rw [get_of_block hevt, get_of_block htitle, get_of_block hdescpt, get_of_block hrating]
  exact ⟨_, rfl⟩

/-- The events of one iteration of the appending loops. -/
def langEvents (event : ℕ → ProgEvent) (langs : Ptr (List (Ptr CString))) (idx : ℕ) : List ProgEvent :=
  [event idx, .append [.str] [.ptr (langs.val.getD idx .unset).val]]

theorem langAt_eq_getD {idx : ℕ} {lang : Ptr CString} (h : langAt langs idx = .ok lang) :
    lang = langs.val.getD idx .unset := by
  unfold langAt Ptr.get at h
  split at h
  · dsimp only [bind, Except.bind] at h
    cases hidx : langs.val[idx]? with
    | none =>
      rw [hidx] at h
      cases h
    | some found =>
      rw [hidx] at h
      cases h
      rw [List.getD_eq_getElem?_getD, hidx]
      rfl
  · cases h

theorem ptrArg_eq {str : Ptr CString} {arg : Arg} (h : ptrArg str = .ok arg) : arg = .ptr str.val := by
  unfold ptrArg Ptr.get at h
  split at h
  · cases h
    rfl
  · cases h

theorem appendTrace_ensures (lib : Lib) (wbuf : Wbuf) (fmt : List Fmt) (args : List Arg)
    (s : Traced ProgEvent (List PduOp)) :
    Ensures (appendTrace lib wbuf fmt args) s fun _ t => t.trace = s.trace ++ [.append fmt args] := by
  unfold appendTrace record
  rw [ensures_bind, ensures_modify]
  exact untraced_ensures

theorem langsTrace_ensures (lib : Lib) (event : ℕ → ProgEvent) (n : UInt32)
    (langs : Ptr (List (Ptr CString))) (wbuf : Wbuf) (s : Traced ProgEvent (List PduOp)) :
    Ensures (langsTrace lib event n langs wbuf) s fun r t => ∀ filled, r = some filled →
      t.trace = s.trace ++ (List.range n.toNat).flatMap (langEvents event langs) := by
  have hloop : Ensures (langsTrace lib event n langs wbuf) s fun r t => ∀ filled, r = some filled →
      t.trace = s.trace ++ (List.range (0 + n.toNat)).flatMap (langEvents event langs) := by
    refine accumulate_ensures
      (fun idx _ t => t.trace = s.trace ++ (List.range idx).flatMap (langEvents event langs))
      n.toNat 0 wbuf s ?_ fun idx wbuf t _ _ ht => ?_
    · rw [List.range_zero, List.flatMap_nil, List.append_nil]
    · unfold readLang record
      simp only [ensures_bind, ensures_modify, ensures_lift]
      intro lang hlang arg harg
      refine (appendTrace_ensures lib wbuf _ _ _).mono fun r u hu next _ => ?_
      rw [hu, ht, List.range_succ, List.flatMap_append, List.flatMap_singleton, langEvents,
        ptrArg_eq harg, langAt_eq_getD hlang, List.append_assoc, List.append_assoc]
      rfl
  rwa [Nat.zero_add] at hloop

/-- A program is appended by one call, a call for each language, a call for the number of
subtitle languages, and again a call for each audio language. -/
theorem programTrace_ensures (lib : Lib) (wbuf : Wbuf) (prog : TvProgram)
    (s : Traced ProgEvent (List PduOp)) :
    Ensures (programTrace lib wbuf prog) s fun r t => ∀ filled, r = some filled →
      ∃ args, t.trace = s.trace ++ ([.append programFmt args] ++
        (List.range prog.langNum.toNat).flatMap (langEvents .lang prog.langs) ++
        [.append [.I] [.int prog.stlLangNum]] ++
        (List.range prog.langNum.toNat).flatMap (langEvents .stlLang prog.stlLangs)) := by
  unfold programTrace
  rw [ensures_bind, ensures_lift]
  intro args hargs
  rw [ensures_bind]
  refine (appendTrace_ensures lib wbuf programFmt args s).mono fun r t ht => ?_
  cases r with
  | none => exact ensures_pure.mpr fun _ hnone => by cases hnone
  | some wbuf =>
  rw [ensures_bind]
  refine (langsTrace_ensures lib .lang prog.langNum prog.langs wbuf t).mono fun r u hu => ?_
  cases r with
  | none => exact ensures_pure.mpr fun _ hnone => by cases hnone
  | some wbuf =>
  have hlangs := hu wbuf rfl
  rw [ensures_bind]
  refine (appendTrace_ensures lib wbuf [.I] [.int prog.stlLangNum] u).mono fun r v hv => ?_
  cases r with
  | none => exact ensures_pure.mpr fun _ hnone => by cases hnone
  | some wbuf =>
  refine (langsTrace_ensures lib .stlLang prog.langNum prog.stlLangs wbuf v).mono fun r x hx => ?_
  intro filled hfilled
  refine ⟨args, ?_⟩
  rw [hx filled hfilled, hv, hlangs, ht]
  simp only [List.append_assoc]

theorem appendTrace_inBounds (lib : Lib) (wbuf : Wbuf) (fmt : List Fmt) (args : List Arg) :
    Avoids .outOfBounds (appendTrace lib wbuf fmt args) :=
  (avoids_modify _ _).bind fun _ => (avoids_appendToPdu (by decide) lib wbuf fmt args).untraced

/-- No iteration over as many entries as there are reads out of bounds. -/
theorem langsTrace_inBounds (lib : Lib) (event : ℕ → ProgEvent) (h : StoredLangs langs) {n : UInt32}
    (hn : n.toNat ≤ langs.val.length) (wbuf : Wbuf) :
    Avoids .outOfBounds (langsTrace lib event n langs wbuf) := by
  refine avoids_accumulate n.toNat 0 wbuf fun idx wbuf _ hidx => ?_
  have hlang : Avoids .outOfBounds (readLang event langs idx : TraceM (List PduOp) (Ptr CString)) := by
    refine (avoids_modify _ _).bind fun _ => avoids_lift ?_
    rw [h.langAt (by omega)]
    exact fun heq => by cases heq
  refine hlang.bind fun lang => (avoids_lift ?_).bind fun arg => appendTrace_inBounds _ _ _ _
  unfold ptrArg Ptr.get
  split <;> exact fun heq => by cases heq

theorem programTrace_inBounds (lib : Lib) (wbuf : Wbuf) (h : none ∉ prog.blocks)
    (hlangs : prog.langNum.toNat ≤ prog.langs.val.length)
    (hstl : prog.langNum.toNat ≤ prog.stlLangs.val.length) :
    Avoids .outOfBounds (programTrace lib wbuf prog) := by
  obtain ⟨hevt, -, hdescpt, hrating⟩ := fields_stored h
  unfold programTrace programArgs ptrArg
  rw [get_of_block hevt, get_of_block hdescpt, get_of_block hrating]
  refine (avoids_lift fun heq => by cases heq).bind fun args =>
    (appendTrace_inBounds _ _ _ _).bind fun r => ?_
  cases r with
  | none => exact avoids_pure _ _
  | some wbuf =>
  refine (langsTrace_inBounds lib _ (storedLangs_langs h) hlangs wbuf).bind fun r => ?_
  cases r with
  | none => exact avoids_pure _ _
  | some wbuf =>
  refine (appendTrace_inBounds _ _ _ _).bind fun r => ?_
  cases r with
  | none => exact avoids_pure _ _
  | some wbuf => exact langsTrace_inBounds lib _ (storedLangs_stlLangs h) hstl wbuf

end

/-! ### Traversals -/

/-- The reads of a trace: entries of `langs` that exist, and each subtitle language once,
which are the strings that `release_programs` frees. -/
structure Traverses (prog : TvProgram) (trace : List ProgEvent) : Prop where
  langs : ∀ idx ∈ trace.filterMap ProgEvent.langIdx, idx < prog.langNum.toNat
  stlLangs : (trace.filterMap ProgEvent.stlLangIdx).Perm (List.range prog.stlLangNum.toNat)
  released : ∀ array, ((trace.filterMap ProgEvent.stlLangIdx).map fun idx =>
    (prog.stlLangs.val.getD idx .unset).block).Perm
      ((releaseStrings array prog.stlLangNum prog.stlLangs).filterMap HeapOp.freed)

/-- Behind the number of subtitle languages, as many strings are appended. -/
def CountMatches (prog : TvProgram) (trace : List ProgEvent) : Prop :=
  ∃ before strings, trace.filterMap ProgEvent.call =
      before ++ ([.I], [.int prog.stlLangNum]) :: strings ∧
    (∀ call ∈ strings, call.1 = [.str]) ∧ strings.length = prog.stlLangNum.toNat

/-- The size function returns and traverses the lists. No run of the appending function
reads out of bounds, and one that does not fail traverses the lists too. -/
structure TraversesLanguages (lib : Lib) (prog : TvProgram) : Prop where
  size : ∃ size t, (progSizeTrace prog : TraceM Unit UInt32) ⟨[], ()⟩ = .ok (size, t) ∧
    Traverses prog t.trace
  reads : ∀ wbuf log, programTrace lib wbuf prog ⟨[], log⟩ ≠ .error .outOfBounds
  append : ∀ wbuf log filled t, programTrace lib wbuf prog ⟨[], log⟩ = .ok (some filled, t) →
    Traverses prog t.trace ∧ CountMatches prog t.trace

section

variable {prog : TvProgram}

/-- Both loops run to the number of audio languages. -/
theorem traverses_of_range (hcounted : prog.Counted) (heq : prog.langNum = prog.stlLangNum)
    {trace : List ProgEvent} (hlang : trace.filterMap ProgEvent.langIdx = List.range prog.langNum.toNat)
    (hstl : trace.filterMap ProgEvent.stlLangIdx = List.range prog.langNum.toNat) :
    Traverses prog trace where
  langs idx hidx := by
    rw [hlang] at hidx
    exact List.mem_range.mp hidx
  stlLangs := by rw [hstl, heq]
  released array := by
    rw [hstl, heq, freed_releaseStrings hcounted.2, ← hcounted.2]
    conv_rhs => rw [← map_getD_range prog.stlLangs.val .unset, List.map_map]
    exact .refl _

/-- What is selected from the events of a loop of the appending function. -/
theorem filterMap_langEvents {β : Type} {f : ProgEvent → Option β} {event : ℕ → ProgEvent}
    {langs : Ptr (List (Ptr CString))} {g : ℕ → List β}
    (h : ∀ idx, (langEvents event langs idx).filterMap f = g idx) (n : ℕ) :
    ((List.range n).flatMap (langEvents event langs)).filterMap f = (List.range n).flatMap g := by
  rw [List.filterMap_flatMap]
  simp only [h]

/-- The reads of the appending function, and its calls. -/
theorem programTrace_selected (prog : TvProgram) (args : List Arg) {trace : List ProgEvent}
    (h : trace = [.append programFmt args] ++
      (List.range prog.langNum.toNat).flatMap (langEvents .lang prog.langs) ++
      [.append [.I] [.int prog.stlLangNum]] ++
      (List.range prog.langNum.toNat).flatMap (langEvents .stlLang prog.stlLangs)) :
    trace.filterMap ProgEvent.langIdx = List.range prog.langNum.toNat ∧
      trace.filterMap ProgEvent.stlLangIdx = List.range prog.langNum.toNat ∧
      trace.filterMap ProgEvent.call = ((programFmt, args) ::
        (List.range prog.langNum.toNat).map fun idx =>
          ([.str], [.ptr (prog.langs.val.getD idx .unset).val])) ++ ([.I], [.int prog.stlLangNum]) ::
        (List.range prog.langNum.toNat).map fun idx =>
          ([.str], [.ptr (prog.stlLangs.val.getD idx .unset).val]) := by
  have hself (n : ℕ) : (List.range n).flatMap (fun idx => [idx]) = List.range n := by
    rw [← List.map_eq_flatMap, List.map_id']
  have hnone (n : ℕ) : (List.range n).flatMap (fun _ => ([] : List ℕ)) = [] := by
    rw [List.flatMap_eq_nil_iff]
    exact fun _ _ => rfl
  subst h
  refine ⟨?_, ?_, ?_⟩
  · rw [List.filterMap_append, List.filterMap_append, List.filterMap_append,
      filterMap_langEvents (g := fun idx => [idx]) fun _ => rfl,
      filterMap_langEvents (g := fun _ => []) fun _ => rfl, hself, hnone]
    exact (List.append_nil _).trans (List.append_nil _)
  · rw [List.filterMap_append, List.filterMap_append, List.filterMap_append,
      filterMap_langEvents (g := fun _ => []) fun _ => rfl,
      filterMap_langEvents (g := fun idx => [idx]) fun _ => rfl, hself, hnone]
    rfl
  · rw [List.filterMap_append, List.filterMap_append, List.filterMap_append,
      filterMap_langEvents (g := fun idx => [([.str], [.ptr (prog.langs.val.getD idx .unset).val])])
        fun _ => rfl,
      filterMap_langEvents (g := fun idx => [([.str], [.ptr (prog.stlLangs.val.getD idx .unset).val])])
        fun _ => rfl, ← List.map_eq_flatMap, ← List.map_eq_flatMap, List.append_assoc]
    rfl

/-- Both functions traverse the languages of a program that has as many of one kind as of
the other, and no other's: with fewer subtitle languages the size function reads past
the end of their list, and with more it drops some. -/
theorem traversesLanguages_iff (lib : Lib) (hcounted : prog.Counted) (hstored : none ∉ prog.blocks) :
    TraversesLanguages lib prog ↔ prog.langNum = prog.stlLangNum := by
  have hlangs := storedLangs_langs hstored
  have hstlLangs := storedLangs_stlLangs hstored
  obtain ⟨start, hsize⟩ := progSizeTrace_eq Unit hstored
  obtain ⟨size₁, hfirst⟩ := langsSizeTrace_ok .lang hlangs hcounted.1.ge start (⟨[], ()⟩ : Traced ProgEvent Unit)
  constructor
  · rintro ⟨⟨size, t, hrun, htraverses⟩, -, -⟩
    rw [hsize, bind_ok hfirst] at hrun
    by_cases hlt : prog.stlLangs.val.length < prog.langNum.toNat
    · rw [langsSizeTrace_error .stlLang hstlLangs hlt] at hrun
      cases hrun
    · obtain ⟨size₂, hsecond⟩ := langsSizeTrace_ok .stlLang hstlLangs (not_lt.mp hlt) (size₁ + 4)
        (⟨[] ++ (List.range prog.langNum.toNat).map .lang, ()⟩ : Traced ProgEvent Unit)
      rw [hsecond] at hrun
      cases hrun
      have hlen : prog.langNum.toNat = prog.stlLangNum.toNat := by
        simpa [ProgEvent.stlLangIdx, Function.comp_def] using htraverses.stlLangs.length_eq
      exact UInt32.toNat_inj.mp hlen
  · intro heq
    have hstlLen : prog.langNum.toNat ≤ prog.stlLangs.val.length := by rw [hcounted.2, heq]
    refine ⟨?_, fun wbuf log => ?_, fun wbuf log filled t hrun => ?_⟩
    · obtain ⟨size₂, hsecond⟩ := langsSizeTrace_ok .stlLang hstlLangs hstlLen (size₁ + 4)
        (⟨[] ++ (List.range prog.langNum.toNat).map .lang, ()⟩ : Traced ProgEvent Unit)
      refine ⟨size₂, _, by rw [hsize, bind_ok hfirst]; exact hsecond, ?_⟩
      refine traverses_of_range hcounted heq ?_ ?_ <;>
        simp [ProgEvent.langIdx, ProgEvent.stlLangIdx, Function.comp_def]
    · exact programTrace_inBounds lib wbuf hstored hcounted.1.ge hstlLen _
    · obtain ⟨args, htrace⟩ := programTrace_ensures lib wbuf prog _ _ _ hrun filled rfl
      rw [List.nil_append] at htrace
      obtain ⟨hlang, hstl, hcall⟩ := programTrace_selected prog args htrace
      refine ⟨traverses_of_range hcounted heq hlang hstl, _, _, hcall, ?_, ?_⟩
      · intro call hmem
        obtain ⟨idx, -, rfl⟩ := List.mem_map.mp hmem
        rfl
      · rw [List.length_map, List.length_range, heq]

/-- A program in one language, with subtitles in one. -/
def programSubtitled : TvProgram :=
  { programAt 1 with stlLangNum := 1, stlLangs := ⟨some 7, [⟨some 8, emptyString⟩]⟩ }

theorem programSubtitled_traversesLanguages : TraversesLanguages .reference programSubtitled :=
  (traversesLanguages_iff .reference (by decide) (by decide)).mpr rfl

/-- The subtitle languages of a program that has none are read. -/
theorem programAt_not_traversesLanguages : ¬∀ (lib : Lib) (prog : TvProgram), prog.Counted →
    none ∉ prog.blocks → TraversesLanguages lib prog := by
  intro h
  obtain ⟨⟨size, t, hrun, -⟩, -, -⟩ := h .reference (programAt 1) (by decide) (by decide)
  cases hrun

end

end Tvd

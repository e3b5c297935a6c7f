import Tvd.Ledger.Releases
import Tvd.Model.TvUtils

/-! The blocks that `release_programs` frees. The array is freed behind each program
rather than behind the last: with one program every block is freed once, with none the
array is leaked, and with more it is read and freed again after it was freed. -/

namespace Tvd

open Ledger

/-! ### Frees and loads -/

/-- The pointer that was freed. -/
def HeapOp.freed : HeapOp → Option (Option ℕ)
  | .free block => some block
  | .malloc .. | .load _ => none

/-- The block that was read, as a pointer. -/
def HeapOp.read : HeapOp → Option (Option ℕ)
  | .load block => some (some block)
  | .malloc .. | .free _ => none

section

variable {array : ℕ} {fields : List (Option ℕ)} {num : UInt32} {langs : Ptr (List (Ptr CString))}

theorem map_getD_range {α : Type} (l : List α) (d : α) :
    (List.range l.length).map (fun idx => l.getD idx d) = l := by
  refine List.ext_getElem (by simp) fun i _ hi => ?_
  simp [List.getD_eq_getElem?_getD, hi]

theorem freed_freeFields (array : ℕ) (fields : List (Option ℕ)) :
    (freeFields array fields).filterMap HeapOp.freed = fields := by
  induction fields with
  | nil => rfl
  | cons p fields ih => exact congrArg (p :: ·) ih

theorem read_freeFields {p : Option ℕ} (h : p ∈ (freeFields array fields).filterMap HeapOp.read) :
    p = some array := by
  induction fields with
  | nil => cases h
  | cons q fields ih =>
    rcases List.mem_cons.mp h with rfl | h
    · rfl
    · exact ih h

theorem usedBefore_freeFields (h : some array ∉ fields) :
    UsedBefore HeapOp.freed HeapOp.read (freeFields array fields) := by
  refine usedBefore_of_disjoint fun p hp hread => h ?_
  rw [freed_freeFields, read_freeFields hread] at hp
  exact hp

/-! ### The loop over a language list -/

/-- The loop without the free of the list. -/
def releaseStrings (array : ℕ) (num : UInt32) (langs : Ptr (List (Ptr CString))) : List HeapOp :=
  (List.range num.toNat).flatMap fun attrIdx =>
    .load array :: (langs.block.toList.map .load) ++ [.free (langs.val.getD attrIdx .unset).block]

theorem releaseLangs_eq (array : ℕ) (num : UInt32) (langs : Ptr (List (Ptr CString))) :
    releaseLangs array num langs = releaseStrings array num langs ++ freeFields array [langs.block] := rfl

theorem freed_releaseStrings (hlen : langs.val.length = num.toNat) :
    (releaseStrings array num langs).filterMap HeapOp.freed = langs.val.map Ptr.block := by
  have hiter (attrIdx : ℕ) : (HeapOp.load array :: (langs.block.toList.map HeapOp.load) ++
      [HeapOp.free (langs.val.getD attrIdx .unset).block]).filterMap HeapOp.freed =
        [(langs.val.getD attrIdx .unset).block] := by
    cases langs.block <;> rfl
  rw [releaseStrings, List.filterMap_flatMap]
  simp only [hiter]
  rw [← List.map_eq_flatMap, ← hlen]
  conv_rhs => rw [← map_getD_range langs.val .unset, List.map_map]
  rfl

theorem read_releaseStrings {p : Option ℕ}
    (h : p ∈ (releaseStrings array num langs).filterMap HeapOp.read) :
    p = some array ∨ p = langs.block := by
  obtain ⟨op, hop, hread⟩ := List.mem_filterMap.mp h
  obtain ⟨attrIdx, -, hop⟩ := List.mem_flatMap.mp hop
  rcases List.mem_append.mp hop with hop | hop
  · rcases List.mem_cons.mp hop with rfl | hop
    · exact .inl (Option.some_inj.mp hread).symm
    · obtain ⟨block, hblock, rfl⟩ := List.mem_map.mp hop
      rw [Option.mem_toList] at hblock
      exact .inr ((Option.some_inj.mp hread).symm.trans hblock.symm)
  · rw [List.mem_singleton.mp hop] at hread
    cases hread

/-- The blocks of a language list. -/
def langBlocks (langs : Ptr (List (Ptr CString))) : List (Option ℕ) :=
  langs.val.map Ptr.block ++ [langs.block]

theorem freed_releaseLangs (hlen : langs.val.length = num.toNat) :
    (releaseLangs array num langs).filterMap HeapOp.freed = langBlocks langs := by
  rw [releaseLangs_eq, List.filterMap_append, freed_releaseStrings hlen, freed_freeFields]
  rfl

theorem read_releaseLangs {p : Option ℕ} (h : p ∈ (releaseLangs array num langs).filterMap HeapOp.read) :
    p = some array ∨ p = langs.block := by
  rw [releaseLangs_eq, List.filterMap_append] at h
  rcases List.mem_append.mp h with h | h
  · exact read_releaseStrings h
  · exact .inl (read_freeFields h)

/-- The list is read for each of its strings, and freed behind them. -/
theorem usedBefore_releaseLangs (hlen : langs.val.length = num.toNat)
    (hnodup : (langBlocks langs).Nodup) (harray : some array ∉ langBlocks langs) :
    UsedBefore HeapOp.freed HeapOp.read (releaseLangs array num langs) := by
  have hlist : langs.block ∉ langs.val.map Ptr.block := by
    have hmiddle := List.nodup_middle.mp hnodup
    rw [List.append_nil] at hmiddle
    exact (List.nodup_cons.mp hmiddle).1
  have harray' : some array ∉ langs.val.map Ptr.block :=
    fun h => harray (List.mem_append_left _ h)
  rw [releaseLangs_eq, usedBefore_append]
  refine ⟨usedBefore_of_disjoint fun p hp hread => ?_, usedBefore_freeFields ?_, fun p hp hread => ?_⟩
  · rw [freed_releaseStrings hlen] at hp
    rcases read_releaseStrings hread with rfl | rfl
    · exact harray' hp
    · exact hlist hp
  · exact fun h => harray (List.mem_append_right _ h)
  · rw [freed_releaseStrings hlen, read_freeFields hread] at hp
    exact harray' hp

end

/-! ### Programs -/

/-- The blocks of a program, and of an array of programs. -/
def TvProgram.blocks (prog : TvProgram) : List (Option ℕ) :=
  [prog.evtId.block, prog.title.block, prog.descpt.block, prog.rating.block] ++
    langBlocks prog.langs ++ langBlocks prog.stlLangs

def Records.programBlocks (programs : Records TvProgram) : List (Option ℕ) :=
  programs.items.flatMap TvProgram.blocks ++ [some programs.block]

/-- The counts of a program are the lengths of its lists. -/
def TvProgram.Counted (prog : TvProgram) : Prop :=
  prog.langs.val.length = prog.langNum.toNat ∧ prog.stlLangs.val.length = prog.stlLangNum.toNat

instance (prog : TvProgram) : Decidable prog.Counted := inferInstanceAs (Decidable (_ ∧ _))

section

variable {array : ℕ} {prog : TvProgram} {num : UInt32} {programs : Records TvProgram}

theorem freed_releaseProgram (h : prog.Counted) :
    (releaseProgram array prog).filterMap HeapOp.freed = prog.blocks := by
  rw [releaseProgram, List.filterMap_append, List.filterMap_append, freed_freeFields,
    freed_releaseLangs h.1, freed_releaseLangs h.2]
  rfl

/-- A program whose blocks are all different is released without reading a freed block. -/
theorem usedBefore_releaseProgram (h : prog.Counted) (hnodup : prog.blocks.Nodup)
    (harray : some array ∉ prog.blocks) :
    UsedBefore HeapOp.freed HeapOp.read (releaseProgram array prog) := by
  have hfields : ∀ p ∈ [prog.evtId.block, prog.title.block, prog.descpt.block, prog.rating.block],
      p ∈ prog.blocks := fun p hp => List.mem_append_left _ (List.mem_append_left _ hp)
  have hlangs : ∀ p ∈ langBlocks prog.langs, p ∈ prog.blocks :=
    fun p hp => List.mem_append_left _ (List.mem_append_right _ hp)
  have hstl : ∀ p ∈ langBlocks prog.stlLangs, p ∈ prog.blocks := fun p hp => List.mem_append_right _ hp
  obtain ⟨hfront, hstlNodup, hstlOnly⟩ := List.nodup_append.mp hnodup
  obtain ⟨-, hlangsNodup, hlangsOnly⟩ := List.nodup_append.mp hfront
  have hlangsList : prog.langs.block ∈ langBlocks prog.langs := List.mem_append_right _ List.mem_cons_self
  have hstlList : prog.stlLangs.block ∈ langBlocks prog.stlLangs :=
    List.mem_append_right _ List.mem_cons_self
  rw [releaseProgram, usedBefore_append, usedBefore_append, List.filterMap_append, freed_freeFields,
    freed_releaseLangs h.1]
  refine ⟨⟨usedBefore_freeFields fun hmem => harray (hfields _ hmem),
    usedBefore_releaseLangs h.1 hlangsNodup fun hmem => harray (hlangs _ hmem), fun p hp hread => ?_⟩,
    usedBefore_releaseLangs h.2 hstlNodup fun hmem => harray (hstl _ hmem), fun p hp hread => ?_⟩
  · rcases read_releaseLangs hread with rfl | rfl
    · exact harray (hfields _ hp)
    · exact hlangsOnly _ hp _ hlangsList rfl
  · rcases read_releaseLangs hread with rfl | rfl
    · exact harray (List.mem_append_left _ hp)
    · exact hstlOnly _ hp _ hstlList rfl

/-- An array of so many programs with counted lists, all blocks of which are stored and
different. -/
structure Records.Owned (num : UInt32) (programs : Records TvProgram) : Prop where
  length : programs.items.length = num.toNat
  counted : ∀ prog ∈ programs.items, prog.Counted
  stored : none ∉ programs.programBlocks
  nodup : programs.programBlocks.Nodup

theorem releasePrograms_eq (hlen : programs.items.length = num.toNat) :
    releasePrograms num (some programs) = programs.items.flatMap fun prog =>
      releaseProgram programs.block prog ++ [.free (some programs.block)] := by
  conv_rhs => rw [← map_getD_range programs.items .unset, List.flatMap_map]
  rw [hlen]
  rfl

theorem freed_releasePrograms (h : programs.Owned num) :
    (releasePrograms num (some programs)).filterMap HeapOp.freed =
      programs.items.flatMap fun prog => prog.blocks ++ [some programs.block] := by
  rw [releasePrograms_eq h.length, List.filterMap_flatMap]
  refine List.flatMap_congr fun prog hprog => ?_
  rw [List.filterMap_append, freed_releaseProgram (h.counted prog hprog)]
  rfl

/-- Every block of an array of programs is freed once, and none is read afterwards, if
and only if there is one program. -/
theorem releasePrograms_once_iff (h : programs.Owned num) :
    ReleasedOnce HeapOp.freed HeapOp.read programs.programBlocks (releasePrograms num (some programs)) ↔
      num = 1 := by
  have hlen := h.length
  constructor
  · rintro ⟨hperm, hnodup, -⟩
    rw [freed_releasePrograms h] at hperm hnodup
    rw [← UInt32.toNat_inj, ← hlen]
    rcases hitems : programs.items with _ | ⟨first, _ | ⟨second, rest⟩⟩
    · -- the array is never freed
      rw [hitems, Records.programBlocks, hitems] at hperm
      cases hperm.length_eq
    · rfl
    · -- it is freed behind the first and the second
      rw [hitems, List.flatMap_cons, List.flatMap_cons] at hnodup
      have hfirst : some programs.block ∈ first.blocks ++ [some programs.block] :=
        List.mem_append_right _ List.mem_cons_self
      have hsecond : some programs.block ∈ second.blocks ++ [some programs.block] ++
          rest.flatMap fun prog => prog.blocks ++ [some programs.block] :=
        List.mem_append_left _ (List.mem_append_right _ List.mem_cons_self)
      exact absurd rfl ((List.nodup_append.mp hnodup).2.2 _ hfirst _ hsecond)
  · rintro rfl
    obtain ⟨prog, hitems⟩ := List.length_eq_one_iff.mp hlen
    have hcounted : prog.Counted := h.counted prog (by rw [hitems]; exact List.mem_cons_self)
    have hblocks : programs.programBlocks = prog.blocks ++ [some programs.block] := by
      rw [Records.programBlocks, hitems, List.flatMap_singleton]
    have hfreed : (releasePrograms 1 (some programs)).filterMap HeapOp.freed = programs.programBlocks := by
      rw [freed_releasePrograms h, hblocks, hitems, List.flatMap_singleton]
    have hnodup := h.nodup
    rw [hblocks] at hnodup
    obtain ⟨hprog, -, harray⟩ := List.nodup_append.mp hnodup
    refine ⟨hfreed ▸ .refl _, hfreed ▸ h.nodup, ?_⟩
    rw [releasePrograms_eq hlen, hitems, List.flatMap_singleton, usedBefore_append]
    refine ⟨usedBefore_releaseProgram hcounted hprog fun hmem => ?_, List.pairwise_singleton .., ?_⟩
    · exact harray _ hmem _ List.mem_cons_self rfl
    · intro p _ hread
      cases hread

end

/-! ### One program, and two -/

/-- A program of the blocks from `base` on, in one language. -/
def programAt (base : ℕ) : TvProgram :=
  ⟨⟨some base, emptyString⟩, ⟨some (base + 1), emptyString⟩, 0, 0, ⟨some (base + 2), emptyString⟩,
    ⟨some (base + 3), emptyString⟩, 1, ⟨some (base + 4), [⟨some (base + 5), emptyString⟩]⟩, 0,
    ⟨some (base + 6), []⟩⟩

theorem releasePrograms_once_single :
    ReleasedOnce HeapOp.freed HeapOp.read (Records.mk 0 [programAt 1]).programBlocks
      (releasePrograms 1 (some ⟨0, [programAt 1]⟩)) :=
  (releasePrograms_once_iff ⟨rfl, by decide, by decide, by decide⟩).mpr rfl

/-- The second program is read out of the array after that was freed. -/
theorem releasePrograms_twice : ¬∀ (num : UInt32) (programs : Records TvProgram), programs.Owned num →
    ReleasedOnce HeapOp.freed HeapOp.read programs.programBlocks (releasePrograms num (some programs)) := by
  intro h
  have honce := h 2 ⟨0, [programAt 1, programAt 10]⟩ ⟨rfl, by decide, by decide, by decide⟩
  exact absurd honce.nodup (by decide)

end Tvd

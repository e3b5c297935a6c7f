import Tvd.Dtv.Capacity

/-! The allocations of a Get tuners command: the array of tuners, the array of their
ids, and then a string for each id. Nothing tests their results, and with a tuner
listed, each block is stored to. So all of them succeed, and what is stored where is
known, or the run ends at the first one that does not. -/

namespace Tvd

open Exec

/-! ### Allocations in a row -/

/-- Allocations of these sizes, made one after the other, all succeed. -/
def Allocates (lib : Lib) : List HeapOp → List ℕ → Prop
  | _, [] => True
  | log, size :: sizes => lib.malloc log size = true ∧ Allocates lib (.malloc size true :: log) sizes

instance decidableAllocates (lib : Lib) : (log : List HeapOp) → (sizes : List ℕ) →
    Decidable (Allocates lib log sizes)
  | _, [] => inferInstanceAs (Decidable True)
  | log, size :: sizes =>
    have := decidableAllocates lib (.malloc size true :: log) sizes
    inferInstanceAs (Decidable (_ ∧ _))

/-- The log of allocations that all succeeded. -/
def allocated (sizes : List ℕ) : List HeapOp := (sizes.map (.malloc · true)).reverse

theorem allocated_cons (size : ℕ) (sizes : List ℕ) :
    allocated (size :: sizes) = allocated sizes ++ [.malloc size true] := by
  rw [allocated, List.map_cons, List.reverse_cons]
  rfl

theorem mem_allocated {sizes : List ℕ} {op : HeapOp} (h : op ∈ allocated sizes) :
    ∃ size ∈ sizes, op = .malloc size true := by
  obtain ⟨size, hsize, rfl⟩ := List.mem_map.mp (List.mem_reverse.mp h)
  exact ⟨size, hsize, rfl⟩

/-- The state once the heap was used like this. -/
def DtvEnv.withHeap (s : DtvEnv) (ops : List HeapOp) : DtvEnv := { s with heap := ops ++ s.heap }

theorem DtvEnv.withHeap_withHeap (s : DtvEnv) (ops ops' : List HeapOp) :
    (s.withHeap ops).withHeap ops' = s.withHeap (ops' ++ ops) := by
  rw [withHeap, withHeap, withHeap, List.append_assoc]

theorem onHeap_malloc (lib : Lib) (size : ℕ) (s : DtvEnv) : onHeap (malloc lib size) s =
    .ok (if lib.malloc s.heap size = true then some s.heap.length else none,
      s.withHeap [.malloc size (lib.malloc s.heap size)]) := rfl

theorem onHeap_malloc_ok {lib : Lib} {size : ℕ} {s : DtvEnv} (h : lib.malloc s.heap size = true) :
    onHeap (malloc lib size) s = .ok (some s.heap.length, s.withHeap [.malloc size true]) := by
  rw [onHeap_malloc, h]
  rfl

theorem onHeap_malloc_null {lib : Lib} {size : ℕ} {s : DtvEnv} (h : lib.malloc s.heap size = false) :
    onHeap (malloc lib size) s = .ok (none, s.withHeap [.malloc size false]) := by
  rw [onHeap_malloc, h]
  rfl

/-! ### The strings -/

/-- What is allocated for the string of an id. -/
def idSize (id : Int32) : ℕ := (getIntLength id.toUInt32).toNat + 1

/-- The records for these ids; the first string is in this block, the others follow. -/
def tunerRecords : ℕ → List Int32 → List TvTuner
  | _, [] => []
  | block, id :: ids =>
    { TvTuner.unset with id := ⟨some block, tunerString id⟩ } :: tunerRecords (block + 1) ids

section

variable {lib : Lib} {tuners : Option ℕ} {entries : List (Option Int32)} {j : ℕ} {id : Int32}
  {items : List TvTuner} {s : DtvEnv}

theorem onHeap_load (hentry : entries[j]? = some (some id)) (s : DtvEnv) :
    onHeap (IntArray.load lib (some entries) j) s = .ok (id, s) := by
  have hload : IntArray.load lib (some entries) j s.heap = .ok (id, s.heap) := by
    unfold IntArray.load
    rw [get_bind_apply]
    dsimp only
    rw [hentry]
    rfl
  exact zoom_ok hload

/-- An iteration stores a record, -/
theorem tunerBody_ok {block : ℕ} (hentry : entries[j]? = some (some id))
    (hmalloc : lib.malloc s.heap (idSize id) = true) :
    tunerBody lib (some block) (some entries) j items s =
      .ok (some (items ++ [{ TvTuner.unset with id := ⟨some s.heap.length, tunerString id⟩ }]),
        s.withHeap [.malloc (idSize id) true]) := by
  rw [tunerBody, bind_ok (onHeap_load hentry s)]
  have hstr : onHeap (malloc lib ((getIntLength id.toUInt32).toNat + 1)) s =
      .ok (some s.heap.length, s.withHeap [.malloc (idSize id) true]) := onHeap_malloc_ok hmalloc
  rw [bind_ok hstr]
  rfl

/-- or ends the run, where the array or the string is missing. -/
theorem tunerBody_null (hentry : entries[j]? = some (some id))
    (hnull : tuners = none ∨ lib.malloc s.heap (idSize id) = false) :
    tunerBody lib tuners (some entries) j items s = .error .nullPointer := by
  have hmissing : tuners.isNone = true ∨
      (if lib.malloc s.heap (idSize id) = true then some s.heap.length else none).isNone = true := by
    rcases hnull with rfl | hfail
    · exact .inl rfl
    · rw [hfail]
      exact .inr rfl
  rw [tunerBody, bind_ok (onHeap_load hentry s)]
  have hstr : onHeap (malloc lib ((getIntLength id.toUInt32).toNat + 1)) s =
      .ok (if lib.malloc s.heap (idSize id) = true then some s.heap.length else none,
        s.withHeap [.malloc (idSize id) (lib.malloc s.heap (idSize id))]) := onHeap_malloc ..
  rw [bind_ok hstr]
  dsimp only
  rw [if_pos hmissing]
  rfl

theorem entry_listed (front : List Int32) (id : Int32) (ids : List Int32) :
    ((front ++ id :: ids).map some)[front.length]? = some (some id) := by
  simp

/-- The loop, from an entry on, fills a record for each id that is left. -/
theorem tunerLoop_ok (block : ℕ) (ids : List Int32) : ∀ (front : List Int32) (items : List TvTuner)
    (s : DtvEnv), Allocates lib s.heap (ids.map idSize) →
      accumulate (tunerBody lib (some block) (some ((front ++ ids).map some))) ids.length front.length
        items s = .ok (some (items ++ tunerRecords s.heap.length ids),
          s.withHeap (allocated (ids.map idSize))) := by
  induction ids with
  | nil =>
    intro front items s _
    rw [tunerRecords, List.append_nil, List.append_nil]
    rfl
  | cons id ids ih =>
    intro front items s halloc
    obtain ⟨hmalloc, hrest⟩ := halloc
    rw [List.length_cons, accumulate, bind_ok (tunerBody_ok (entry_listed front id ids) hmalloc)]
    have hloop := ih (front ++ [id]) (items ++ [{ TvTuner.unset with
      id := ⟨some s.heap.length, tunerString id⟩ }]) (s.withHeap [.malloc (idSize id) true]) hrest
    rw [List.append_assoc, List.singleton_append, List.length_append, List.append_assoc] at hloop
    refine hloop.trans ?_
    rw [DtvEnv.withHeap_withHeap, List.map_cons, allocated_cons]
    rfl

/-- It ends at the first string that is missing. -/
theorem tunerLoop_null (block : ℕ) (ids : List Int32) : ∀ (front : List Int32) (items : List TvTuner)
    (s : DtvEnv), ¬Allocates lib s.heap (ids.map idSize) →
      accumulate (tunerBody lib (some block) (some ((front ++ ids).map some))) ids.length front.length
        items s = .error .nullPointer := by
  induction ids with
  | nil => exact fun _ _ _ hnot => absurd trivial hnot
  | cons id ids ih =>
    intro front items s hnot
    rw [List.length_cons, accumulate]
    cases hmalloc : lib.malloc s.heap (idSize id) with
    | false => exact bind_error (tunerBody_null (entry_listed front id ids) (.inr hmalloc)) _
    | true =>
      rw [bind_ok (tunerBody_ok (entry_listed front id ids) hmalloc)]
      have hloop := ih (front ++ [id]) (items ++ [{ TvTuner.unset with
        id := ⟨some s.heap.length, tunerString id⟩ }]) (s.withHeap [.malloc (idSize id) true])
        fun halloc => hnot ⟨hmalloc, halloc⟩
      rwa [List.append_assoc, List.singleton_append, List.length_append] at hloop

end

/-! ### The query -/

/-- The array of tuners, the array of ids, and the strings. -/
def tunersAllocations (p : Platform) (ids : List Int32) : List ℕ :=
  p.sizeT (p.sizeofTvTuner * ids.length) :: p.sizeT (4 * ids.length) :: ids.map idSize

/-- What Get tuners asks the DTV interface for: the number, the array and its records. -/
def queryTuners (lib : Lib) (p : Platform) : EnvM (UInt32 × Option ℕ × UInt8 × List TvTuner) := do
  let tunerNum ← dtvGetTunerNum
  let block ← onHeap (malloc lib (p.sizeT (p.sizeofTvTuner * tunerNum.toNat)))
  let (ret, items) ← dtvGetTuners lib p tunerNum block
  return (tunerNum, block, ret, items)

section

variable {lib : Lib} {p : Platform} {s : DtvEnv}

theorem DtvEnv.tunerIds_length_le (hfit : s.hal.Fits) : s.tunerIds.length ≤ 100 :=
  (idsOfType_length_le s.hal.live).trans hfit.live_le

theorem tunerNum_toNat (hfit : s.hal.Fits) :
    (UInt32.ofNat s.tunerIds.length).toNat = s.tunerIds.length := by
  have hlen := DtvEnv.tunerIds_length_le hfit
  exact UInt32.toNat_ofNat_of_lt' (hlen.trans_lt (by decide))

theorem dtvGetTunerNum_ok (hfit : s.hal.Fits) :
    dtvGetTunerNum s = .ok (UInt32.ofNat s.tunerIds.length, s) := by
  have hcount : tvInputHalGetInputNumByType .tuner s.hal = .ok (UInt32.ofNat s.tunerIds.length, s.hal) :=
    tvInputHalGetInputNumByType_ok hfit
  exact zoom_ok hcount

/-- The array of ids, where there is one, holds those that are listed. -/
theorem fillTunerIds_ok (hfit : s.hal.Fits)
    (hmalloc : lib.malloc s.heap (p.sizeT (4 * s.tunerIds.length)) = true) :
    fillTunerIds lib p (UInt32.ofNat s.tunerIds.length) s =
      .ok ((some s.heap.length, tvStatusSuccess, some (s.tunerIds.map some)),
        s.withHeap [.malloc (p.sizeT (4 * s.tunerIds.length)) true]) := by
  have hroom : tvInputHalGetInputsByType (UInt32.ofNat s.tunerIds.length).toUInt8 .tuner
      (some (List.replicate s.tunerIds.length none)) s.hal =
        .ok ((tvStatusSuccess, some (s.tunerIds.map some ++
          (List.replicate s.tunerIds.length none).drop s.tunerIds.length)), s.hal) :=
    getInputsByType_room hfit _ (by rw [List.length_replicate]; exact le_rfl)
  rw [List.drop_of_length_le (by rw [List.length_replicate]), List.append_nil] at hroom
  have hcall : onHal (tvInputHalGetInputsByType (UInt32.ofNat s.tunerIds.length).toUInt8 .tuner
      (some (List.replicate s.tunerIds.length none)))
        (s.withHeap [.malloc (p.sizeT (4 * s.tunerIds.length)) true]) =
      .ok ((tvStatusSuccess, some (s.tunerIds.map some)),
        s.withHeap [.malloc (p.sizeT (4 * s.tunerIds.length)) true]) := zoom_ok hroom
  rw [fillTunerIds, tunerNum_toNat hfit, bind_ok (onHeap_malloc_ok hmalloc)]
  exact bind_ok hcall _

/-- Without it, the first id cannot be stored. -/
theorem fillTunerIds_fails (hfit : s.hal.Fits) (hlisted : s.tunerIds ≠ [])
    (hmalloc : lib.malloc s.heap (p.sizeT (4 * s.tunerIds.length)) = false) :
    fillTunerIds lib p (UInt32.ofNat s.tunerIds.length) s = .error .nullPointer := by
  have hnull : tvInputHalGetInputsByType (UInt32.ofNat s.tunerIds.length).toUInt8 .tuner none s.hal =
      .error .nullPointer := by
    have hnonempty : idsOfType .tuner s.hal.live ≠ [] := hlisted
    rw [tvInputHalGetInputsByType_eq hfit, fill_null, if_neg hnonempty]
    rfl
  have hcall : onHal (tvInputHalGetInputsByType (UInt32.ofNat s.tunerIds.length).toUInt8 .tuner none)
      (s.withHeap [.malloc (p.sizeT (4 * s.tunerIds.length)) false]) = .error .nullPointer :=
    zoom_error hnull
  rw [fillTunerIds, tunerNum_toNat hfit, bind_ok (onHeap_malloc_null hmalloc)]
  exact bind_error hcall _

/-- The rest of `dtv_get_tuners`, where all strings can be allocated, -/
theorem readTunerIds_ok (hfit : s.hal.Fits) {t : DtvEnv} (block array : ℕ)
    (halloc : Allocates lib t.heap (s.tunerIds.map idSize)) :
    readTunerIds lib (UInt32.ofNat s.tunerIds.length) (some block) (some array) tvStatusSuccess
      (some (s.tunerIds.map some)) t =
        .ok ((tvStatusSuccess, tunerRecords t.heap.length s.tunerIds),
          t.withHeap (.free (some array) :: allocated (s.tunerIds.map idSize))) := by
  have hloop := tunerLoop_ok block s.tunerIds [] [] t halloc
  rw [List.nil_append, List.nil_append] at hloop
  rw [readTunerIds, if_neg (not_not.mpr rfl), tunerNum_toNat hfit]
  exact bind_ok hloop _

/-- and where one cannot, or the array of tuners is missing. -/
theorem readTunerIds_null (hfit : s.hal.Fits) {t : DtvEnv} {tuners : Option ℕ} (array : ℕ)
    (hlisted : s.tunerIds ≠ []) (hnot : tuners = none ∨ ¬Allocates lib t.heap (s.tunerIds.map idSize)) :
    readTunerIds lib (UInt32.ofNat s.tunerIds.length) tuners (some array) tvStatusSuccess
      (some (s.tunerIds.map some)) t = .error .nullPointer := by
  rw [readTunerIds, if_neg (not_not.mpr rfl), tunerNum_toNat hfit]
  refine bind_error ?_ _
  cases tuners with
  | none =>
    obtain ⟨id, ids, hids⟩ := List.exists_cons_of_ne_nil hlisted
    rw [hids, List.length_cons, accumulate]
    exact bind_error (tunerBody_null (entry_listed [] id ids) (.inl rfl)) _
  | some block =>
    have hloop := tunerLoop_null block s.tunerIds [] [] t (hnot.resolve_left (Option.some_ne_none _))
    exact hloop

/-- With everything allocated, `dtv_get_tuners` fills a record for each tuner, -/
theorem dtvGetTuners_ok (hfit : s.hal.Fits) (block : ℕ)
    (halloc : Allocates lib s.heap (p.sizeT (4 * s.tunerIds.length) :: s.tunerIds.map idSize)) :
    dtvGetTuners lib p (UInt32.ofNat s.tunerIds.length) (some block) s =
      .ok ((tvStatusSuccess, tunerRecords (s.heap.length + 1) s.tunerIds),
        s.withHeap (.free (some s.heap.length) ::
          allocated (p.sizeT (4 * s.tunerIds.length) :: s.tunerIds.map idSize))) := by
  let t := s.withHeap [.malloc (p.sizeT (4 * s.tunerIds.length)) true]
  have hread : readTunerIds lib (UInt32.ofNat s.tunerIds.length) (some block) (some s.heap.length)
      tvStatusSuccess (some (s.tunerIds.map some)) t = .ok ((tvStatusSuccess,
        tunerRecords (s.heap.length + 1) s.tunerIds), t.withHeap (.free (some s.heap.length) ::
          allocated (s.tunerIds.map idSize))) := readTunerIds_ok hfit block s.heap.length halloc.2
  rw [dtvGetTuners_eq, bind_ok (fillTunerIds_ok hfit halloc.1)]
  refine hread.trans ?_
  rw [DtvEnv.withHeap_withHeap, allocated_cons]
  rfl

/-- and stores through NULL otherwise. -/
theorem dtvGetTuners_null (hfit : s.hal.Fits) {tuners : Option ℕ} (hlisted : s.tunerIds ≠ [])
    (hnot : tuners = none ∨
      ¬Allocates lib s.heap (p.sizeT (4 * s.tunerIds.length) :: s.tunerIds.map idSize)) :
    dtvGetTuners lib p (UInt32.ofNat s.tunerIds.length) tuners s = .error .nullPointer := by
  rw [dtvGetTuners_eq]
  cases hmalloc : lib.malloc s.heap (p.sizeT (4 * s.tunerIds.length)) with
  | false => exact bind_error (fillTunerIds_fails hfit hlisted hmalloc) _
  | true =>
    rw [bind_ok (fillTunerIds_ok hfit hmalloc)]
    exact readTunerIds_null hfit _ hlisted (hnot.imp_right fun hnot halloc => hnot ⟨hmalloc, halloc⟩)

theorem sizeT_zero (p : Platform) : p.sizeT 0 = 0 := by
  simp [Platform.sizeT]

/-- With no tuner listed, nothing is stored to, whatever was allocated. -/
theorem getInputsByType_empty (hfit : s.hal.Fits) (hlisted : s.tunerIds = []) (devices : IntArray) :
    tvInputHalGetInputsByType 0 .tuner devices s.hal = .ok ((tvStatusSuccess, devices), s.hal) := by
  have hempty : idsOfType .tuner s.hal.live = [] := hlisted
  cases devices with
  | none =>
    rw [tvInputHalGetInputsByType_eq hfit, fill_null, if_pos hempty]
    rfl
  | some entries =>
    rw [getInputsByType_room hfit _ (by rw [hempty]; exact Nat.zero_le _), hempty]
    rfl

theorem dtvGetTuners_empty (hfit : s.hal.Fits) (hlisted : s.tunerIds = []) (tuners : Option ℕ) :
    ∃ ok frees, dtvGetTuners lib p 0 tuners s =
      .ok ((tvStatusSuccess, []), s.withHeap (frees ++ [.malloc 0 ok])) ∧
        ∀ op ∈ frees, ∃ block, op = .free (some block) := by
  let block := if lib.malloc s.heap 0 = true then some s.heap.length else none
  let t := s.withHeap [.malloc 0 (lib.malloc s.heap 0)]
  have hcall : onHal (tvInputHalGetInputsByType 0 .tuner (block.map fun _ => [])) t =
      .ok ((tvStatusSuccess, block.map fun _ => []), t) :=
    zoom_ok (getInputsByType_empty hfit hlisted _)
  have hfill : fillTunerIds lib p 0 s = .ok ((block, tvStatusSuccess, block.map fun _ => []), t) := by
    have hsize : p.sizeT (4 * (0 : UInt32).toNat) = 0 := sizeT_zero p
    rw [fillTunerIds, hsize, bind_ok (onHeap_malloc lib 0 s)]
    exact bind_ok hcall _
  rw [dtvGetTuners_eq, bind_ok hfill]
  cases block with
  | none => exact ⟨_, [], rfl, fun op hop => absurd hop List.not_mem_nil⟩
  | some array =>
    refine ⟨_, [.free (some array)], rfl, fun op hop => ⟨array, ?_⟩⟩
    exact List.mem_singleton.mp hop

/-- With tuners listed and everything allocated, there is a record for each tuner. -/
theorem queryTuners_ok (hfit : s.hal.Fits)
    (halloc : Allocates lib s.heap (tunersAllocations p s.tunerIds)) :
    queryTuners lib p s = .ok ((UInt32.ofNat s.tunerIds.length, some s.heap.length, tvStatusSuccess,
      tunerRecords (s.heap.length + 2) s.tunerIds), s.withHeap (.free (some (s.heap.length + 1)) ::
        allocated (tunersAllocations p s.tunerIds))) := by
  let t := s.withHeap [.malloc (p.sizeT (p.sizeofTvTuner * s.tunerIds.length)) true]
  have hget : dtvGetTuners lib p (UInt32.ofNat s.tunerIds.length) (some s.heap.length) t =
      .ok ((tvStatusSuccess, tunerRecords (s.heap.length + 2) s.tunerIds),
        t.withHeap (.free (some (s.heap.length + 1)) ::
          allocated (p.sizeT (4 * s.tunerIds.length) :: s.tunerIds.map idSize))) :=
    dtvGetTuners_ok (s := t) hfit _ halloc.2
  rw [queryTuners, bind_ok (dtvGetTunerNum_ok hfit), tunerNum_toNat hfit, bind_ok (onHeap_malloc_ok halloc.1),
    bind_ok hget]
  rw [DtvEnv.withHeap_withHeap, tunersAllocations, allocated_cons _ (_ :: _)]
  rfl

theorem queryTuners_null (hfit : s.hal.Fits) (hlisted : s.tunerIds ≠ [])
    (hnot : ¬Allocates lib s.heap (tunersAllocations p s.tunerIds)) :
    queryTuners lib p s = .error .nullPointer := by
  rw [queryTuners, bind_ok (dtvGetTunerNum_ok hfit), tunerNum_toNat hfit]
  cases hmalloc : lib.malloc s.heap (p.sizeT (p.sizeofTvTuner * s.tunerIds.length)) with
  | false =>
    rw [bind_ok (onHeap_malloc_null hmalloc)]
    refine bind_error ?_ _
    exact dtvGetTuners_null (s := s.withHeap [_]) hfit hlisted (.inl rfl)
  | true =>
    rw [bind_ok (onHeap_malloc_ok hmalloc)]
    refine bind_error ?_ _
    exact dtvGetTuners_null (s := s.withHeap [_]) hfit hlisted (.inr fun halloc => hnot ⟨hmalloc, halloc⟩)

theorem queryTuners_empty (hfit : s.hal.Fits) (hlisted : s.tunerIds = []) :
    ∃ tuners frees ok ok', queryTuners lib p s = .ok ((0, tuners, tvStatusSuccess, []),
      s.withHeap (frees ++ [.malloc 0 ok, .malloc 0 ok'])) ∧ ∀ op ∈ frees, ∃ block, op = .free (some block) := by
  let t := s.withHeap [.malloc 0 (lib.malloc s.heap 0)]
  let block := if lib.malloc s.heap 0 = true then some s.heap.length else none
  obtain ⟨ok, frees, hget, hfrees⟩ : ∃ ok frees, dtvGetTuners lib p 0 block t =
      .ok ((tvStatusSuccess, []), t.withHeap (frees ++ [.malloc 0 ok])) ∧
        ∀ op ∈ frees, ∃ block, op = .free (some block) := dtvGetTuners_empty (s := t) hfit hlisted block
  refine ⟨block, frees, ok, lib.malloc s.heap 0, ?_, hfrees⟩
  have hnum : dtvGetTunerNum s = .ok (0, s) := by
    rw [dtvGetTunerNum_ok hfit, hlisted]
    rfl
  have hsize : p.sizeT (p.sizeofTvTuner * (0 : UInt32).toNat) = 0 := by
    rw [UInt32.toNat_zero, Nat.cast_zero, Int.mul_zero, sizeT_zero]
  rw [queryTuners, bind_ok hnum, hsize, bind_ok (onHeap_malloc lib 0 s), bind_ok hget]
  rw [DtvEnv.withHeap_withHeap, List.append_assoc]
  rfl

end

end Tvd

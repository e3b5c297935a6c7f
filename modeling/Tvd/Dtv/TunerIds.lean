import Tvd.Dtv.Numerals
import Tvd.Hal.Queries
import Tvd.Hal.Operations
import Mathlib.Data.List.Forall2

/-! Tuner ids go to the client in a Get tuners reply and come back in a Set source
command. The strings built are those of the listed ids, in the order of the list,
and they survive the round trip exactly when no id among them begins with `10`. -/

namespace Tvd

open Exec Numeral

variable {lib : Lib} {driver : Driver} {p : Platform} {tuners : Option ℕ} {s t : DtvEnv}

/-- `dtv_get_tuner_num` and `dtv_get_tuners` as `get_tuners` calls them. -/
def listTuners (lib : Lib) (p : Platform) (tuners : Option ℕ) : EnvM (List TvTuner) := do
  let tunerNum ← dtvGetTunerNum
  let (_, items) ← dtvGetTuners lib p tunerNum tuners
  return items

/-- The ids of the listed tuners. -/
def DtvEnv.tunerIds (s : DtvEnv) : List Int32 := idsOfType .tuner s.hal.live

/-! ### The list of strings -/

theorem load_listed {ids : List Int32} {j : ℕ} (hj : j < ids.length) (log : List HeapOp) :
    IntArray.load lib (some (ids.map some)) j log = .ok (ids[j], log) := by
  have hget : (ids.map some)[j]? = some (some ids[j]) := by
    rw [List.getElem?_map, List.getElem?_eq_getElem hj]
    rfl
  unfold IntArray.load
  rw [get_bind_apply]
  dsimp only
  rw [hget]
  rfl

/-- The body of the loop of `dtv_get_tuners`. -/
def tunerBody (lib : Lib) (tuners : Option ℕ) (tunerIdList : IntArray) (idx : ℕ)
    (items : List TvTuner) : EnvM (Option (List TvTuner)) := do
  let id ← onHeap (tunerIdList.load lib idx)
  let len := getIntLength id.toUInt32
  let str ← onHeap (malloc lib (len.toNat + 1))
  if tuners.isNone ∨ str.isNone then throw .nullPointer
  return some (items ++ [{ TvTuner.unset with id := ⟨str, snprintfInt len.toNat id⟩, numTypes := 0 }])

theorem tunerBody_ensures {ids : List Int32} {j : ℕ} (hj : j < ids.length) (items : List TvTuner)
    (s : DtvEnv) : Ensures (tunerBody lib tuners (some (ids.map some)) j items) s fun r _ =>
      ∃ next, r = some next ∧
        next.map (·.id.val) = items.map (·.id.val) ++ [tunerString ids[j]] := by
  rw [tunerBody, ensures_bind, ensures_zoom]
  intro id heap hload
  rw [load_listed hj] at hload
  cases hload
  rw [ensures_bind]
  intro str u _
  dsimp only
  rw [ensures_ite]
  refine ⟨fun _ => ensures_bind.mpr (ensures_throw.mpr trivial), fun _ => ensures_pure.mpr ?_⟩
  refine ⟨_, rfl, ?_⟩
  rw [List.map_append]
  rfl

/-- The loop of `dtv_get_tuners` over an array filled with the ids. -/
theorem tunerLoop_ensures (ids : List Int32) (s : DtvEnv) :
    Ensures (accumulate (tunerBody lib tuners (some (ids.map some))) ids.length 0 []) s fun r _ =>
      ∃ items, r = some items ∧ items.map (·.id.val) = ids.map tunerString := by
  refine Ensures.mono (accumulate_ensures_some (fun j (items : List TvTuner) _ =>
    items.map (·.id.val) = (ids.take j).map tunerString) ids.length 0 [] s rfl ?_) ?_
  · intro j items t _ hj hinv
    rw [Nat.zero_add] at hj
    refine (tunerBody_ensures hj items t).mono ?_
    rintro r _ ⟨next, rfl, hnext⟩
    refine ⟨next, rfl, ?_⟩
    rw [hnext, hinv, List.take_add_one, List.getElem?_eq_getElem hj, List.map_append]
    rfl
  · rintro r _ ⟨items, rfl, heq⟩
    rw [Nat.zero_add, List.take_length] at heq
    exact ⟨items, rfl, heq⟩

theorem dtvGetTuners_ensures (hfit : s.hal.Fits) {tunerNum : UInt32}
    (hnum : tunerNum.toNat = s.tunerIds.length) : Ensures (dtvGetTuners lib p tunerNum tuners) s
      fun r _ => r.2.map (·.id.val) = s.tunerIds.map tunerString := by
  rw [dtvGetTuners, hnum, ensures_bind, ensures_zoom]
  intro block heap _
  rw [ensures_bind, ensures_zoom]
  refine (tvInputHalGetInputsByType_ensures hfit tunerNum.toUInt8 block).mono ?_
  rintro ⟨ret, tunerIdList⟩ hal ⟨hret, hfilled⟩
  dsimp only at hret hfilled ⊢
  rw [hret, if_neg (not_not.mpr rfl), ensures_bind]
  have hitems (u : DtvEnv) : Ensures (accumulate (tunerBody lib tuners tunerIdList)
      s.tunerIds.length 0 []) u fun r _ =>
        (r.getD []).map (·.id.val) = s.tunerIds.map tunerString := by
    rcases hfilled with rfl | hnone
    · refine (tunerLoop_ensures s.tunerIds u).mono ?_
      rintro r _ ⟨items, rfl, heq⟩
      exact heq
    · change s.tunerIds = [] at hnone
      rw [hnone]
      exact ensures_pure.mpr rfl
  refine (hitems _).mono fun r u hr => ?_
  rw [ensures_bind]
  intro _ _ _
  exact ensures_pure.mpr hr

/-- The strings are those of the listed ids, one for each. -/
theorem listTuners_ids {items : List TvTuner} (h : listTuners lib p tuners s = .ok (items, t)) :
    items.map (·.id.val) = s.tunerIds.map tunerString := by
  obtain ⟨n, s₁, hnum, hrest⟩ := bind_eq_ok.mp h
  obtain ⟨m, hal, hcount, heq⟩ := zoom_eq_ok.mp hnum
  have hfit : s.hal.Fits := fits_of_getInputNum hcount
  rw [show DtvEnv.halLens.get s = s.hal from rfl, tvInputHalGetInputNumByType_ok hfit] at hcount
  cases hcount
  cases heq
  obtain ⟨⟨ret, found⟩, s₂, hget, hpure⟩ := bind_eq_ok.mp hrest
  cases hpure
  have hlen : s.tunerIds.length ≤ 100 := (idsOfType_length_le s.hal.live).trans
    hfit.live_le
  refine dtvGetTuners_ensures hfit ?_ _ _ hget
  have hlt : s.tunerIds.length < UInt32.size := hlen.trans_lt (by decide)
  exact UInt32.toNat_ofNat_of_lt' hlt

/-! ### The round trip -/

/-- What makes the strings built for the ids of a list good tuner ids: each is the
full numeral of its id and is read as that id, a Set source command that carries
it asks for that device, and no two devices share one. -/
structure TunerIdsRoundTrip (driver : Driver) (p : Platform) (ids : List Int32)
    (items : List TvTuner) : Prop where
  numeral : List.Forall₂ (fun d item => 0 ≤ d.toInt → item.id.val.val = decimal d.toInt.toNat) ids items
  parsed : List.Forall₂ (fun d item =>
    0 ≤ d.toInt → (parseDeviceId p item.id.val).toInt32 = d) ids items
  addressed : List.Forall₂ (fun d item => 0 ≤ d.toInt → ∀ sourceType tvStream,
    dtvSetSource driver p item.id.val sourceType tvStream =
      onHal (tvInputHalGetStream driver d tvStream)) ids items
  distinct : ∀ x ∈ ids.zip items, ∀ y ∈ ids.zip items, 0 ≤ x.1.toInt → 0 ≤ y.1.toInt →
    x.1 ≠ y.1 → x.2.id.val ≠ y.2.id.val

/-- The strings as pairs with their ids. -/
theorem listTuners_pair {items : List TvTuner} (h : listTuners lib p tuners s = .ok (items, t)) :
    List.Forall₂ (fun d item => tunerString d = item.id.val) s.tunerIds items := by
  have heq : List.Forall₂ Eq (s.tunerIds.map tunerString) (items.map (·.id.val)) := by
    rw [List.forall₂_eq_eq_eq, listTuners_ids h]
  rwa [List.forall₂_map_left_iff, List.forall₂_map_right_iff] at heq

/-- Ids that survive the round trip have strings that are full numerals. -/
theorem TunerIdsRoundTrip.tunerString_val {ids : List Int32} {items : List TvTuner}
    (hround : TunerIdsRoundTrip driver p ids items)
    (hpair : List.Forall₂ (fun d item => tunerString d = item.id.val) ids items) :
    ∀ d ∈ ids, 0 ≤ d.toInt → (tunerString d).val = decimal d.toInt.toNat := by
  obtain ⟨hnumeral, -, -, -⟩ := hround
  induction hpair with
  | nil => intro d hd; cases hd
  | cons heq _ ih =>
    rw [List.forall₂_cons] at hnumeral
    intro d hd
    rcases List.mem_cons.mp hd with rfl | hd
    · rw [heq]
      exact hnumeral.1
    · exact ih hnumeral.2 d hd

/-- The listed ids survive the round trip exactly when none of their numerals
begins with `10`. -/
theorem tunerIds_roundTrip_iff {items : List TvTuner}
    (h : listTuners lib p tuners s = .ok (items, t)) :
    TunerIdsRoundTrip driver p s.tunerIds items ↔
      ∀ d ∈ s.tunerIds, 0 ≤ d.toInt → ¬LeadsWithTen d.toInt.toNat := by
  have hpair := listTuners_pair h
  constructor
  · intro hround d hd hnonneg
    exact (tunerString_eq_iff hnonneg).mp (hround.tunerString_val hpair d hd hnonneg)
  · intro hshort
    have hnumeral : List.Forall₂ (fun d item => 0 ≤ d.toInt →
        item.id.val.val = decimal d.toInt.toNat) s.tunerIds items := by
      refine ((List.forall₂_and_left _ _).mpr ⟨hshort, hpair⟩).imp ?_
      rintro d item ⟨hd, heq⟩ hnonneg
      rw [← heq]
      exact (tunerString_eq_iff hnonneg).mpr (hd hnonneg)
    have hparsed := hnumeral.imp fun d item h (hnonneg : 0 ≤ d.toInt) =>
      parseDeviceId_decimal p hnonneg (h hnonneg)
    refine ⟨hnumeral, hparsed, hparsed.imp ?_, ?_⟩
    · intro d item h hnonneg sourceType tvStream
      rw [dtvSetSource, h hnonneg]
    · intro x hx y hy hx0 hy0 hne heq
      have hxparsed := List.forall₂_zip hparsed hx hx0
      have hyparsed := List.forall₂_zip hparsed hy hy0
      rw [heq] at hxparsed
      exact hne (hxparsed.symm.trans hyparsed)

/-- A service that lists one device. -/
def listing (deviceId : Int32) : DtvEnv := ⟨[], TvHal.zero.pushEntry ⟨deviceId, .tuner, -1⟩, []⟩

theorem listTuners_listing (deviceId : Int32) :
    ∃ items t, listTuners .reference .lp64 (some 0) (listing deviceId) = .ok (items, t) :=
  ⟨_, _, rfl⟩

theorem tunerIds_roundTrip_seven : ∃ items t,
    listTuners .reference .lp64 (some 0) (listing 7) = .ok (items, t) ∧
      TunerIdsRoundTrip silentDriver .lp64 (listing 7).tunerIds items := by
  obtain ⟨items, t, h⟩ := listTuners_listing 7
  refine ⟨items, t, h, (tunerIds_roundTrip_iff h).mpr ?_⟩
  intro d hd _
  have hseven : d = 7 := List.mem_singleton.mp hd
  rw [hseven]
  exact not_leadsWithTen_of_lt (by decide)

/-- Device 10 is announced as tuner `1`. -/
theorem tunerIds_not_roundTrip : ¬∀ (lib : Lib) (driver : Driver) (p : Platform)
    (tuners : Option ℕ) (s t : DtvEnv) (items : List TvTuner),
    listTuners lib p tuners s = .ok (items, t) → TunerIdsRoundTrip driver p s.tunerIds items := by
  intro hall
  obtain ⟨items, t, h⟩ := listTuners_listing 10
  have hids : (10 : Int32) ∈ (listing 10).tunerIds := List.mem_cons_self
  have hround := hall _ silentDriver _ _ _ _ _ h
  exact (tunerString_eq_iff (by decide)).mp
    (hround.tunerString_val (listTuners_pair h) 10 hids (by decide)) leadsWithTen_ten

end Tvd

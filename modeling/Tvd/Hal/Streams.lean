import Tvd.Hal.Operations
import Tvd.Ledger.Slots
import Mathlib.Data.List.InsertIdx

/-! Which streams are open, as the driver sees it and as the device list records
it. The driver's view is what its log of successful opens and closes leaves
outstanding; the list's view is what its entries hold. For each operation of the TV
HAL, a lemma says under which answers of the driver the two still agree. -/

namespace Tvd

open Ledger

variable {s : TvHal} {driver : Driver}

/-! ### The two views -/

/-- A successful open takes the stream, a successful close gives it back. -/
def HalCall.move : HalCall → Option (Move (Int32 × Int32))
  | .openStream deviceId streamId result _ =>
    if result = 0 then some (.take (deviceId, streamId)) else none
  | .closeStream deviceId streamId result =>
    if result = 0 then some (.drop (deviceId, streamId)) else none
  | _ => none

/-- The (device, stream) pairs that are open. -/
def openPairs (calls : List HalCall) : Set (Int32 × Int32) :=
  outstanding (calls.filterMap HalCall.move)

/-- An entry holds the stream it is acting on. -/
def DeviceInfo.slot (info : DeviceInfo) : Slot Int32 Int32 :=
  ⟨info.deviceId, if info.actingStreamId = -1 then none else some info.actingStreamId⟩

/-- The (device, stream) pairs that the live entries record. -/
def actingPairs (table : List DeviceInfo) : Set (Int32 × Int32) :=
  holdings (table.map DeviceInfo.slot)

/-- The list records exactly the open streams. -/
def TvHal.Agrees (s : TvHal) : Prop := openPairs s.calls = actingPairs s.live

/-- The live entries fit, and only the first entry of a device is acting. -/
structure TvHal.Sound (s : TvHal) : Prop where
  fits : s.Fits
  exclusive : Exclusive (s.live.map DeviceInfo.slot)

theorem mem_actingPairs {table : List DeviceInfo} {p : Int32 × Int32} :
    p ∈ actingPairs table ↔
      ∃ info ∈ table, info.deviceId = p.1 ∧ info.actingStreamId = p.2 ∧ p.2 ≠ -1 := by
  constructor
  · rintro ⟨slot, hslot, hkey, hheld⟩
    obtain ⟨info, hinfo, rfl⟩ := List.mem_map.mp hslot
    refine ⟨info, hinfo, hkey, ?_⟩
    simp only [DeviceInfo.slot] at hheld
    split at hheld
    case isTrue => cases hheld
    case isFalse hacting =>
      rw [← Option.some_inj.mp hheld]
      exact ⟨rfl, hacting⟩
  · rintro ⟨info, hinfo, hkey, hacting, hne⟩
    refine ⟨info.slot, List.mem_map_of_mem hinfo, hkey, ?_⟩
    rw [DeviceInfo.slot, hacting, if_neg hne]

theorem DeviceInfo.pairs_idle {info : DeviceInfo} (h : info.actingStreamId = -1) :
    info.slot.pairs = ∅ := by
  rw [slot, if_pos h, Slot.pairs_none]

theorem DeviceInfo.pairs_acting {info : DeviceInfo} (h : info.actingStreamId ≠ -1) :
    info.slot.pairs = {(info.deviceId, info.actingStreamId)} := by
  rw [slot, if_neg h, Slot.pairs_some]

theorem DeviceInfo.slot_held {info : DeviceInfo} :
    info.slot.held = none ↔ info.actingStreamId = -1 := by
  rw [slot]
  split <;> simp_all

theorem notMem_actingPairs_idle (table : List DeviceInfo) (deviceId : Int32) :
    (deviceId, -1) ∉ actingPairs table := by
  rw [mem_actingPairs]
  rintro ⟨_, _, _, _, h⟩
  exact h rfl

/-! ### Calls that open and close -/

theorem openPairs_setup {setup : List HalCall} (h : ∀ call ∈ setup, call.Setup)
    (calls : List HalCall) : openPairs (setup ++ calls) = openPairs calls := by
  have hnone : setup.filterMap HalCall.move = [] := by
    rw [List.filterMap_eq_nil_iff]
    intro call hcall
    have hsetup := h call hcall
    cases call <;> first | rfl | exact hsetup.elim
  rw [openPairs, List.filterMap_append, hnone, List.nil_append, openPairs]

theorem openPairs_asked (deviceId : Int32) :
    openPairs (s.asked driver deviceId).calls = openPairs s.calls :=
  @openPairs_setup [_] (by simp [HalCall.Setup]) _

theorem openPairs_close (calls : List HalCall) (deviceId streamId : Int32) :
    openPairs (closeCall driver calls deviceId streamId :: calls) =
      if driver.closeStream calls deviceId streamId = 0 then openPairs calls \ {(deviceId, streamId)}
      else openPairs calls := by
  by_cases h : driver.closeStream calls deviceId streamId = 0
  · simp [openPairs, closeCall, HalCall.move, h]
  · simp [openPairs, closeCall, HalCall.move, h]

theorem openPairs_opened (deviceId streamId : Int32) :
    openPairs (s.opened driver deviceId streamId).calls =
      if (driver.openStream s.calls deviceId streamId).1 = 0 then
        insert (deviceId, streamId) (openPairs s.calls) else openPairs s.calls := by
  by_cases h : (driver.openStream s.calls deviceId streamId).1 = 0
  · simp [openPairs, TvHal.opened, HalCall.move, h]
  · simp [openPairs, TvHal.opened, HalCall.move, h]

/-! ### Entries -/

/-- The first entry of a device, as a slot. -/
theorem isFirst_firstIdx {deviceId : Int32} {table : List DeviceInfo}
    (h : firstIdx deviceId table < table.length) :
    IsFirst (table.map DeviceInfo.slot) (firstIdx deviceId table) (by rwa [List.length_map]) := by
  intro j hj
  have hkey := getElem_firstIdx h
  have hne := ne_of_lt_firstIdx hj (hj.trans h)
  simpa [DeviceInfo.slot, hkey] using hne

theorem actingPairs_append_idle (table : List DeviceInfo) {info : DeviceInfo}
    (h : info.actingStreamId = -1) : actingPairs (table ++ [info]) = actingPairs table := by
  have hidle : holdings [info.slot] = ∅ := by
    rw [holdings_eq_empty]
    intro slot hslot
    rw [List.mem_singleton.mp hslot, DeviceInfo.slot_held]
    exact h
  rw [actingPairs, List.map_append, holdings_append, List.map_singleton, hidle, Set.union_empty,
    actingPairs]

theorem actingPairs_eraseIdx {deviceId : Int32} {table : List DeviceInfo}
    (hexcl : Exclusive (table.map DeviceInfo.slot)) (h : firstIdx deviceId table < table.length) :
    actingPairs (table.eraseIdx (firstIdx deviceId table)) =
      actingPairs table \ table[firstIdx deviceId table].slot.pairs := by
  rw [actingPairs, ← List.eraseIdx_map, holdings_eraseIdx hexcl (isFirst_firstIdx h),
    List.getElem_map, actingPairs]

theorem actingPairs_set {deviceId : Int32} {table : List DeviceInfo}
    (hexcl : Exclusive (table.map DeviceInfo.slot)) (h : firstIdx deviceId table < table.length)
    (info : DeviceInfo) : actingPairs (table.set (firstIdx deviceId table) info) =
      actingPairs table \ table[firstIdx deviceId table].slot.pairs ∪ info.slot.pairs := by
  rw [actingPairs, List.map_set, holdings_set hexcl (isFirst_firstIdx h), List.getElem_map,
    actingPairs]

theorem actingPairs_eq_empty {table : List DeviceInfo} :
    actingPairs table = ∅ ↔ ∀ info ∈ table, info.actingStreamId = -1 := by
  rw [actingPairs, holdings_eq_empty]
  simp [DeviceInfo.slot_held]

/-- The entry of a listed device, by the first match. -/
theorem getElem?_firstIdx {deviceId : Int32} {table : List DeviceInfo} {info : DeviceInfo}
    (h : table[firstIdx deviceId table]? = some info) :
    ∃ hlt : firstIdx deviceId table < table.length,
      table[firstIdx deviceId table] = info ∧ info.deviceId = deviceId := by
  obtain ⟨hlt, heq⟩ := List.getElem?_eq_some_iff.mp h
  exact ⟨hlt, heq, heq ▸ getElem_firstIdx hlt⟩

/-- A set without a pair it contains is another set. -/
theorem diff_singleton_ne {α : Type} {set : Set α} {a : α} (h : a ∈ set) : set ≠ set \ {a} := by
  intro heq
  rw [heq] at h
  exact h.2 rfl

/-! ### Events -/

/-- An event leaves the views in agreement if the stream it has closed was closed. -/
def TvInputEvent.Closes (driver : Driver) (s : TvHal) (event : TvInputEvent) : Prop :=
  ∀ info, event.closes s.live = some info → info.actingStreamId ≠ -1 →
    driver.closeStream s.calls event.deviceId info.actingStreamId = 0

/-- An event that closes nothing leaves what is recorded alone; one that does
gives up what the entry held. -/
theorem actingPairs_apply (hexcl : Exclusive (s.live.map DeviceInfo.slot)) (event : TvInputEvent) :
    actingPairs (event.apply s.live) = match event.closes s.live with
      | none => actingPairs s.live
      | some info => actingPairs s.live \ info.slot.pairs := by
  obtain ⟨type, deviceId, deviceType⟩ := event
  by_cases htuner : deviceType = .tuner
  case neg => simp [TvInputEvent.apply, TvInputEvent.closes, htuner]
  subst htuner
  cases type with
  | other code => rfl
  | deviceAvailable =>
    change actingPairs (if s.live.length < maxDeviceNum then s.live ++ [⟨deviceId, .tuner, -1⟩]
      else s.live) = actingPairs s.live
    split
    · exact actingPairs_append_idle _ rfl
    · rfl
  | deviceUnavailable =>
    change actingPairs (s.live.eraseIdx _) = match s.live[firstIdx deviceId s.live]? with
      | none => _ | some info => _
    cases hget : s.live[firstIdx deviceId s.live]? with
    | none => rw [List.eraseIdx_of_length_le (List.getElem?_eq_none_iff.mp hget)]
    | some info =>
      obtain ⟨hlt, heq, -⟩ := getElem?_firstIdx hget
      rw [actingPairs_eraseIdx hexcl hlt, heq]
  | streamConfigurationsChanged =>
    change actingPairs (s.live.modify _ _) = match s.live[firstIdx deviceId s.live]? with
      | none => _ | some info => _
    cases hget : s.live[firstIdx deviceId s.live]? with
    | none => rw [List.modify_eq_self (List.getElem?_eq_none_iff.mp hget)]
    | some info =>
      obtain ⟨hlt, heq, -⟩ := getElem?_firstIdx hget
      have hidle (other : DeviceInfo) :
          ({ other with actingStreamId := -1 } : DeviceInfo).slot.pairs = ∅ :=
        DeviceInfo.pairs_idle rfl
      rw [List.modify_eq_set_get _ hlt, actingPairs_set hexcl hlt, heq, hidle, Set.union_empty]

/-- The entry that an event closes is the first one of its device. -/
theorem TvInputEvent.closes_eq {event : TvInputEvent} {table : List DeviceInfo} {info : DeviceInfo}
    (h : event.closes table = some info) : table[firstIdx event.deviceId table]? = some info := by
  unfold TvInputEvent.closes at h
  split at h
  · cases h
  · split at h
    · exact h
    · exact h
    · cases h
    · cases h

theorem agrees_notify_iff (hsound : s.Sound) (hagree : s.Agrees) {event : TvInputEvent} {t : TvHal}
    (h : Notifies driver event s t) : t.Agrees ↔ event.Closes driver s := by
  obtain ⟨-, hlive, hcalls, -, -⟩ := h
  rw [TvHal.Agrees, hlive, hcalls, actingPairs_apply hsound.exclusive, TvInputEvent.log,
    TvInputEvent.Closes]
  cases hcloses : event.closes s.live with
  | none =>
    have hagree : openPairs s.calls = actingPairs s.live := hagree
    simpa using hagree
  | some info =>
    have hentry : info ∈ s.live ∧ info.deviceId = event.deviceId := by
      obtain ⟨hlt, heq, hid⟩ := getElem?_firstIdx (TvInputEvent.closes_eq hcloses)
      exact ⟨heq ▸ List.getElem_mem hlt, hid⟩
    dsimp only
    rw [openPairs_close, hagree]
    by_cases hacting : info.actingStreamId = -1
    · rw [DeviceInfo.pairs_idle hacting, Set.sdiff_empty, hacting,
        Set.sdiff_singleton_eq_self (notMem_actingPairs_idle _ _)]
      simp [hacting]
    · have hmem : (event.deviceId, info.actingStreamId) ∈ actingPairs s.live :=
        mem_actingPairs.mpr ⟨info, hentry.1, hentry.2, rfl, hacting⟩
      rw [DeviceInfo.pairs_acting hacting, hentry.2]
      by_cases hclose : driver.closeStream s.calls event.deviceId info.actingStreamId = 0
      · simp [hclose]
      · rw [if_neg hclose]
        simpa [hacting, hclose] using diff_singleton_ne hmem

theorem exclusive_apply (hexcl : Exclusive (s.live.map DeviceInfo.slot)) (event : TvInputEvent) :
    Exclusive ((event.apply s.live).map DeviceInfo.slot) := by
  obtain ⟨type, deviceId, deviceType⟩ := event
  by_cases htuner : deviceType = .tuner
  case neg => simpa [TvInputEvent.apply, htuner] using hexcl
  subst htuner
  cases type with
  | other code => exact hexcl
  | deviceAvailable =>
    change Exclusive (List.map _ (if s.live.length < maxDeviceNum then
      s.live ++ [⟨deviceId, .tuner, -1⟩] else s.live))
    split
    · rw [List.map_append]
      exact hexcl.append_idle deviceId
    · exact hexcl
  | deviceUnavailable =>
    change Exclusive (List.map _ (s.live.eraseIdx _))
    rw [← List.eraseIdx_map]
    exact hexcl.eraseIdx _
  | streamConfigurationsChanged =>
    change Exclusive (List.map _ (s.live.modify (firstIdx deviceId s.live) _))
    by_cases hlt : firstIdx deviceId s.live < s.live.length
    · rw [List.modify_eq_set_get _ hlt, List.map_set]
      exact hexcl.set (isFirst_firstIdx hlt) (by rw [List.getElem_map]; rfl)
    · rwa [List.modify_eq_self (by omega)]

theorem TvHal.Sound.notify (hsound : s.Sound) {event : TvInputEvent} {t : TvHal}
    (h : Notifies driver event s t) : t.Sound := by
  obtain ⟨-, hlive, -, -, hfit⟩ := h
  exact ⟨hfit, hlive ▸ exclusive_apply hsound.exclusive event⟩

/-! ### Opening and closing the HAL -/

/-- No stream that is acting can be closed. -/
def CloseFails (driver : Driver) : List DeviceInfo → List HalCall → Prop
  | [], _ => True
  | info :: table, calls =>
    if info.actingStreamId ≠ -1 then
      driver.closeStream calls info.deviceId info.actingStreamId ≠ 0 ∧
        CloseFails driver table (closeCall driver calls info.deviceId info.actingStreamId :: calls)
    else CloseFails driver table calls

theorem openPairs_closeActing_subset (table : List DeviceInfo) (calls : List HalCall) :
    openPairs (closeActing driver table calls) ⊆ openPairs calls := by
  induction table generalizing calls with
  | nil => exact subset_rfl
  | cons info table ih =>
    refine (ih _).trans ?_
    split
    · rw [openPairs_close]
      split
      · exact Set.sdiff_subset
      · exact subset_rfl
    · exact subset_rfl

/-- Closing what is acting leaves all of it open exactly when every close fails. -/
theorem openPairs_closeActing_iff (table : List DeviceInfo) (calls : List HalCall)
    (hopen : actingPairs table ⊆ openPairs calls) :
    openPairs (closeActing driver table calls) = openPairs calls ↔ CloseFails driver table calls := by
  induction table generalizing calls with
  | nil => simp [closeActing, CloseFails]
  | cons info table ih =>
    have htail : actingPairs table ⊆ openPairs calls := by
      intro p hp
      obtain ⟨other, hother, hrest⟩ := mem_actingPairs.mp hp
      exact hopen (mem_actingPairs.mpr ⟨other, List.mem_cons_of_mem _ hother, hrest⟩)
    rw [closeActing, CloseFails]
    by_cases hacting : info.actingStreamId = -1
    · rw [if_neg (not_not.mpr hacting), if_neg (not_not.mpr hacting)]
      exact ih calls htail
    · rw [if_pos hacting, if_pos hacting]
      have hclosed := @openPairs_close driver calls info.deviceId info.actingStreamId
      by_cases hclose : driver.closeStream calls info.deviceId info.actingStreamId = 0
      · have hmem : (info.deviceId, info.actingStreamId) ∈ openPairs calls :=
          hopen (mem_actingPairs.mpr ⟨info, List.mem_cons_self, rfl, rfl, hacting⟩)
        rw [if_pos hclose] at hclosed
        have hnotMem : (info.deviceId, info.actingStreamId) ∉ openPairs (closeActing driver table
            (closeCall driver calls info.deviceId info.actingStreamId :: calls)) := by
          intro h
          have hsub := openPairs_closeActing_subset _ _ h
          rw [hclosed] at hsub
          exact hsub.2 rfl
        refine iff_of_false (fun heq => ?_) (fun h => h.1 hclose)
        rw [heq] at hnotMem
        exact hnotMem hmem
      · rw [if_neg hclose] at hclosed
        rw [← hclosed, ih _ (by rwa [hclosed])]
        simp [hclose]

theorem agrees_uninit_iff (hagree : s.Agrees) :
    (s.withCalls (closeActing driver s.live s.calls)).Agrees ↔ CloseFails driver s.live s.calls := by
  have heq : openPairs s.calls = actingPairs s.live := hagree
  rw [TvHal.Agrees, TvHal.withCalls_calls, TvHal.withCalls_live, ← heq]
  exact openPairs_closeActing_iff s.live s.calls heq.ge

/-- Opening the HAL again forgets what is acting. -/
theorem agrees_init_iff (hagree : s.Agrees) {t : TvHal} {setup : List HalCall}
    (hlive : t.live = []) (hcalls : t.calls = setup ++ s.calls) (hsetup : ∀ call ∈ setup, call.Setup) :
    t.Agrees ↔ ∀ info ∈ s.live, info.actingStreamId = -1 := by
  have heq : openPairs s.calls = actingPairs s.live := hagree
  rw [TvHal.Agrees, hlive, hcalls, openPairs_setup hsetup, heq,
    show actingPairs [] = ∅ from holdings_nil, actingPairs_eq_empty]

/-! ### Asking for a stream -/

/-- Opening a stream for a listed device keeps the list sound, and where the
device's own stream, if any, was closed before, it restores the agreement if it
succeeds with a proper id. -/
theorem agrees_openAndStore (hsound : s.Sound) (hdev : s.device = true) {deviceId : Int32}
    (hlt : firstIdx deviceId s.live < s.live.length) {streamId : Int32} {tvStream : TvStream}
    {r : UInt8 × TvStream} {t : TvHal}
    (h : openAndStore driver deviceId (firstIdx deviceId s.live) streamId tvStream s = .ok (r, t)) :
    t.Sound ∧
      (openPairs s.calls = actingPairs s.live \ s.live[firstIdx deviceId s.live].slot.pairs →
        (t.Agrees ↔ if (driver.openStream s.calls deviceId streamId).1 = 0 then streamId ≠ -1
          else s.live[firstIdx deviceId s.live].actingStreamId = -1)) := by
  have hkey := getElem_firstIdx hlt
  rw [openAndStore_listed hsound.fits hdev hlt] at h
  dsimp only at h
  generalize hinfo : s.live[firstIdx deviceId s.live] = info at *
  have hmem : info ∈ s.live := hinfo ▸ List.getElem_mem hlt
  by_cases hok : (driver.openStream s.calls deviceId streamId).1 = 0
  · rw [if_pos hok] at h
    rw [if_pos hok]
    cases h
    have hset := actingPairs_set hsound.exclusive hlt { info with actingStreamId := streamId }
    refine ⟨⟨hsound.fits, ?_⟩, fun hopen => ?_⟩
    · rw [TvHal.setEntry_live, List.map_set]
      exact hsound.exclusive.set (isFirst_firstIdx hlt) (by rw [List.getElem_map, hinfo]; rfl)
    · rw [TvHal.Agrees, TvHal.setEntry_live, TvHal.setEntry_calls, openPairs_opened, if_pos hok]
      rw [hinfo] at hset
      rw [TvHal.opened_live, hset, hopen]
      by_cases hid : streamId = -1
      · subst hid
        have hidle : ({ info with actingStreamId := -1 } : DeviceInfo).slot.pairs = ∅ :=
          DeviceInfo.pairs_idle rfl
        rw [hidle, Set.union_empty]
        refine iff_of_false (fun heq => ?_) (fun h => h rfl)
        have hin := heq.le (Set.mem_insert _ _)
        exact notMem_actingPairs_idle _ _ hin.1
      · have hslot : ({ info with actingStreamId := streamId } : DeviceInfo).slot.pairs =
            {(deviceId, streamId)} := by
          rw [DeviceInfo.pairs_acting hid, hkey]
        rw [hslot, Set.union_singleton]
        exact iff_of_true rfl hid
  · rw [if_neg hok] at h
    rw [if_neg hok]
    cases h
    refine ⟨⟨hsound.fits, hsound.exclusive⟩, fun hopen => ?_⟩
    rw [TvHal.Agrees, openPairs_opened, if_neg hok, TvHal.opened_live, hopen]
    by_cases hacting : info.actingStreamId = -1
    · rw [DeviceInfo.pairs_idle hacting, Set.sdiff_empty]
      exact iff_of_true rfl hacting
    · rw [DeviceInfo.pairs_acting hacting]
      refine iff_of_false (fun heq => ?_) hacting
      exact diff_singleton_ne (mem_actingPairs.mpr ⟨info, hmem, rfl, rfl, hacting⟩) heq.symm

/-- What the driver must answer when a stream is asked for: no stream that it
opens has id -1, and once it closed the acting stream it opens the new one. -/
def StreamAnswers (driver : Driver) (s : TvHal) (deviceId : Int32) : Prop :=
  match offered driver s deviceId, s.live[firstIdx deviceId s.live]? with
  | some config, some info =>
    let t := s.asked driver deviceId
    let u := t.closed driver deviceId info.actingStreamId
    if info.actingStreamId = -1 then
      (driver.openStream t.calls deviceId config.streamId).1 = 0 → config.streamId ≠ -1
    else info.actingStreamId ≠ config.streamId →
      driver.closeStream t.calls deviceId info.actingStreamId = 0 →
      (driver.openStream u.calls deviceId config.streamId).1 = 0 ∧ config.streamId ≠ -1
  | _, _ => True

theorem agrees_getStream_iff (hsound : s.Sound) {deviceId : Int32}
    (hlisted : ∃ info ∈ s.live, info.deviceId = deviceId) {tvStream : TvStream}
    {r : UInt8 × TvStream} {t : TvHal}
    (h : tvInputHalGetStream driver deviceId tvStream s = .ok (r, t)) :
    t.Sound ∧ (s.Agrees → (t.Agrees ↔ StreamAnswers driver s deviceId)) := by
  have hdev : s.device = true := device_of_getStream h
  have hlt := firstIdx_lt_iff.mpr hlisted
  have hkey := getElem_firstIdx hlt
  have hget := List.getElem?_eq_getElem hlt
  rw [tvInputHalGetStream_eq hsound.fits hdev] at h
  have hasked : (s.asked driver deviceId).Sound := ⟨hsound.fits, hsound.exclusive⟩
  have hclosed (streamId : Int32) : ((s.asked driver deviceId).closed driver deviceId streamId).Sound :=
    ⟨hsound.fits, hsound.exclusive⟩
  have hopen (hagree : s.Agrees) : openPairs (s.asked driver deviceId).calls = actingPairs s.live :=
    (openPairs_asked deviceId).trans hagree
  rw [StreamAnswers, hget]
  cases hoffer : offered driver s deviceId with
  | none =>
    rw [hoffer] at h
    cases h
    exact ⟨hasked, fun hagree => iff_of_true (hopen hagree) trivial⟩
  | some config =>
    rw [hoffer] at h
    dsimp only [TvHal.indexOf] at h ⊢
    rw [hget] at h
    dsimp only at h
    by_cases hidle : s.live[firstIdx deviceId s.live].actingStreamId = -1
    · rw [if_pos hidle] at h
      rw [if_pos hidle]
      obtain ⟨hsound', hiff⟩ := agrees_openAndStore hasked hdev hlt h
      have hopen' (hagree : s.Agrees) : openPairs (s.asked driver deviceId).calls =
          actingPairs s.live \ s.live[firstIdx deviceId s.live].slot.pairs := by
        rw [hopen hagree, DeviceInfo.pairs_idle hidle, Set.sdiff_empty]
      refine ⟨hsound', fun hagree => (hiff (hopen' hagree)).trans ?_⟩
      by_cases hok : (driver.openStream (s.asked driver deviceId).calls deviceId config.streamId).1 = 0
      · simp [hok]
      · simp [hok, hidle]
    · rw [if_neg hidle] at h
      rw [if_neg hidle]
      by_cases hacting : s.live[firstIdx deviceId s.live].actingStreamId = config.streamId
      · rw [if_pos hacting] at h
        cases h
        exact ⟨hasked, fun hagree => iff_of_true (hopen hagree) fun hne => absurd hacting hne⟩
      · rw [if_neg hacting] at h
        by_cases hclose : driver.closeStream (s.asked driver deviceId).calls deviceId
            s.live[firstIdx deviceId s.live].actingStreamId = 0
        · rw [if_neg (not_not.mpr hclose)] at h
          obtain ⟨hsound', hiff⟩ := agrees_openAndStore (hclosed _) hdev hlt h
          have hopen' (hagree : s.Agrees) : openPairs ((s.asked driver deviceId).closed driver
              deviceId s.live[firstIdx deviceId s.live].actingStreamId).calls =
              actingPairs s.live \ s.live[firstIdx deviceId s.live].slot.pairs := by
            change openPairs (closeCall driver _ _ _ :: _) = _
            rw [openPairs_close, if_pos hclose, hopen hagree, DeviceInfo.pairs_acting hidle, hkey]
          refine ⟨hsound', fun hagree => (hiff (hopen' hagree)).trans ?_⟩
          split
          · next hok => simp [hacting, hclose, hok]
          · next hok =>
            refine iff_of_false hidle fun hall => hok (hall hacting hclose).1
        · rw [if_pos hclose] at h
          cases h
          refine ⟨hclosed _, fun hagree => iff_of_true ?_ fun _ hzero => absurd hzero hclose⟩
          change openPairs (closeCall driver _ _ _ :: _) = _
          rw [openPairs_close, if_neg hclose]
          exact hopen hagree

end Tvd

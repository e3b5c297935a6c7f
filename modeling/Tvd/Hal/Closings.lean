import Tvd.Hal.Streams

/-! Which streams are closed. A close is in order when it names a stream that is open.
The device list gets out of step with the driver in two ways: closing the HAL leaves
the streams it closed in the list, and so does a stream that could not be replaced. A
device is left behind from then on, until the list is emptied. For each operation of
the TV HAL, a lemma says that its closes are in order exactly when it closes no stream
of a device that is idle or left behind. -/

namespace Tvd

open Ledger

variable {s t : TvHal} {driver : Driver} {left : Set Int32} {deviceId : Int32}

/-! ### Closes in order -/

/-- A call that closes a stream names one that is open, and not stream -1. -/
def HalCall.InOrder (calls : List HalCall) : HalCall → Prop
  | .closeStream deviceId streamId _ => (deviceId, streamId) ∈ openPairs calls ∧ streamId ≠ -1
  | _ => True

/-- Every close of the log was in order when it was made. -/
def ClosesOpen : List HalCall → Prop
  | [] => True
  | call :: calls => call.InOrder calls ∧ ClosesOpen calls

theorem closesOpen_setup {setup : List HalCall} (h : ∀ call ∈ setup, call.Setup)
    (calls : List HalCall) : ClosesOpen (setup ++ calls) ↔ ClosesOpen calls := by
  induction setup with
  | nil => rfl
  | cons call setup ih =>
    have hsetup := h call List.mem_cons_self
    have horder : call.InOrder (setup ++ calls) := by
      cases call with
      | closeStream => exact hsetup.elim
      | _ => trivial
    rw [List.cons_append, ClosesOpen, and_iff_right horder]
    exact ih fun other hother => h other (List.mem_cons_of_mem _ hother)

theorem closesOpen_asked : ClosesOpen (s.asked driver deviceId).calls ↔ ClosesOpen s.calls :=
  and_iff_right trivial

theorem closesOpen_opened (streamId : Int32) :
    ClosesOpen (s.opened driver deviceId streamId).calls ↔ ClosesOpen s.calls :=
  and_iff_right trivial

theorem closesOpen_close (calls : List HalCall) (deviceId streamId : Int32) :
    ClosesOpen (closeCall driver calls deviceId streamId :: calls) ↔
      ((deviceId, streamId) ∈ openPairs calls ∧ streamId ≠ -1) ∧ ClosesOpen calls := Iff.rfl

theorem actingPairs_cons (info : DeviceInfo) (table : List DeviceInfo) :
    actingPairs (info :: table) = info.slot.pairs ∪ actingPairs table := holdings_cons _ _

/-- What is recorded for a listed device is the stream of its first entry. -/
theorem TvHal.Sound.mem_pairs (hsound : s.Sound) (hlt : firstIdx deviceId s.live < s.live.length)
    {p : Int32 × Int32} (hp : p ∈ actingPairs s.live) (hkey : p.1 = deviceId) :
    p ∈ s.live[firstIdx deviceId s.live].slot.pairs := by
  have hfirst := hsound.exclusive.mem_pairs (isFirst_firstIdx hlt) hp
  rw [List.getElem_map] at hfirst
  exact hfirst (hkey.trans (getElem_firstIdx hlt).symm)

/-! ### Devices left behind -/

/-- The streams in the list are open, but for those of the devices left behind. -/
structure TvHal.Tracks (s : TvHal) (left : Set Int32) : Prop where
  sound : s.Sound
  isOpen : ∀ p ∈ actingPairs s.live, p ∈ openPairs s.calls ↔ p.1 ∉ left
  acting : ∀ d ∈ left, ∃ id, (d, id) ∈ actingPairs s.live

/-- The stream of an entry is open unless its device was left behind. -/
theorem TvHal.Tracks.isOpen_entry (h : s.Tracks left) {info : DeviceInfo} (hinfo : info ∈ s.live)
    (hacting : info.actingStreamId ≠ -1) :
    (info.deviceId, info.actingStreamId) ∈ openPairs s.calls ↔ info.deviceId ∉ left :=
  h.isOpen _ (mem_actingPairs.mpr ⟨info, hinfo, rfl, rfl, hacting⟩)

/-- A device whose first entry is idle was not left behind. -/
theorem TvHal.Tracks.notMem_of_idle (h : s.Tracks left)
    (hlt : firstIdx deviceId s.live < s.live.length)
    (hidle : s.live[firstIdx deviceId s.live].actingStreamId = -1) : deviceId ∉ left := by
  intro hleft
  obtain ⟨id, hmem⟩ := h.acting deviceId hleft
  have hfirst := h.sound.mem_pairs hlt hmem rfl
  rw [DeviceInfo.pairs_idle hidle] at hfirst
  exact hfirst

/-! ### Events -/

/-- An event that closes finds its device acting, and not left behind. -/
def TvInputEvent.FindsActing (event : TvInputEvent) (s : TvHal) (left : Set Int32) : Prop :=
  ∀ info, event.closes s.live = some info → info.actingStreamId ≠ -1 ∧ event.deviceId ∉ left

theorem closesOpen_notify_iff (h : s.Tracks left) (horder : ClosesOpen s.calls) {event : TvInputEvent}
    (hnotify : Notifies driver event s t) : ClosesOpen t.calls ↔ event.FindsActing s left := by
  obtain ⟨-, -, hcalls, -, -⟩ := hnotify
  rw [hcalls, TvInputEvent.log, TvInputEvent.FindsActing]
  cases hcloses : event.closes s.live with
  | none => simpa using horder
  | some info =>
    obtain ⟨hlt, heq, hid⟩ := getElem?_firstIdx (TvInputEvent.closes_eq hcloses)
    have hinfo : info ∈ s.live := heq ▸ List.getElem_mem hlt
    dsimp only
    rw [closesOpen_close, and_iff_left horder, ← hid]
    constructor
    · rintro ⟨hopen, hacting⟩ other hother
      cases hother
      exact ⟨hacting, (h.isOpen_entry hinfo hacting).mp hopen⟩
    · intro hfinds
      obtain ⟨hacting, hleft⟩ := hfinds info rfl
      exact ⟨(h.isOpen_entry hinfo hacting).mpr hleft, hacting⟩

theorem TvHal.Tracks.notify (h : s.Tracks left) {event : TvInputEvent}
    (hnotify : Notifies driver event s t) (hfinds : event.FindsActing s left) : t.Tracks left := by
  have hsound := h.sound.notify hnotify
  obtain ⟨-, hlive, hcalls, -, -⟩ := hnotify
  have happly := actingPairs_apply h.sound.exclusive event
  rw [← hlive] at happly
  rw [TvInputEvent.log] at hcalls
  cases hcloses : event.closes s.live with
  | none =>
    rw [hcloses] at happly hcalls
    refine ⟨hsound, ?_, ?_⟩
    · rw [happly, hcalls]
      exact h.isOpen
    · rw [happly]
      exact h.acting
  | some info =>
    rw [hcloses] at happly hcalls
    obtain ⟨hacting, hleft⟩ := hfinds info hcloses
    obtain ⟨hlt, heq, hid⟩ := getElem?_firstIdx (TvInputEvent.closes_eq hcloses)
    dsimp only at happly hcalls
    rw [DeviceInfo.pairs_acting hacting, hid] at happly
    refine ⟨hsound, ?_, ?_⟩
    · rintro p hp
      rw [happly] at hp
      obtain ⟨hmem, hne⟩ := hp
      rw [hcalls, openPairs_close, ← h.isOpen p hmem]
      split
      · exact and_iff_left hne
      · rfl
    · intro d hd
      obtain ⟨id, hmem⟩ := h.acting d hd
      refine ⟨id, ?_⟩
      rw [happly]
      refine ⟨hmem, fun hpair => hleft ?_⟩
      have hkey : d = event.deviceId := congrArg Prod.fst hpair
      rwa [← hkey]

/-! ### Closing and opening the HAL -/

/-- The devices whose streams are closed when everything that is acting is closed. -/
def closedDevices (driver : Driver) : List DeviceInfo → List HalCall → Set Int32
  | [], _ => ∅
  | info :: table, calls =>
    if info.actingStreamId ≠ -1 then
      (if driver.closeStream calls info.deviceId info.actingStreamId = 0 then {info.deviceId} else ∅) ∪
        closedDevices driver table (closeCall driver calls info.deviceId info.actingStreamId :: calls)
    else closedDevices driver table calls

theorem closedDevices_acting (table : List DeviceInfo) (calls : List HalCall) :
    ∀ d ∈ closedDevices driver table calls, ∃ id, (d, id) ∈ actingPairs table := by
  induction table generalizing calls with
  | nil => intro d hd; cases hd
  | cons info table ih =>
    intro d hd
    rw [actingPairs_cons]
    rw [closedDevices] at hd
    by_cases hacting : info.actingStreamId = -1
    · rw [if_neg (not_not.mpr hacting)] at hd
      obtain ⟨id, hmem⟩ := ih _ d hd
      exact ⟨id, .inr hmem⟩
    · rw [if_pos hacting] at hd
      rcases hd with hd | hd
      · split at hd
        · refine ⟨info.actingStreamId, .inl ?_⟩
          rw [DeviceInfo.pairs_acting hacting, Set.mem_singleton_iff.mp hd]
          rfl
        · cases hd
      · obtain ⟨id, hmem⟩ := ih _ d hd
        exact ⟨id, .inr hmem⟩

section

variable {info : DeviceInfo} {table : List DeviceInfo} {calls : List HalCall}

theorem mem_openPairs_close {p : Int32 × Int32} {streamId : Int32} (hne : p.1 ≠ deviceId) :
    p ∈ openPairs (closeCall driver calls deviceId streamId :: calls) ↔ p ∈ openPairs calls := by
  rw [openPairs_close]
  split
  · exact and_iff_left fun hp => hne (congrArg Prod.fst hp)
  · rfl

/-- The closes of a whole table are in order exactly when all that is acting is open. -/
theorem closesOpen_closeActing_iff (hexcl : Exclusive (table.map DeviceInfo.slot)) :
    ClosesOpen (closeActing driver table calls) ↔
      ClosesOpen calls ∧ actingPairs table ⊆ openPairs calls := by
  induction table generalizing calls with
  | nil => exact (and_iff_left (holdings_nil.le.trans (Set.empty_subset _))).symm
  | cons info table ih =>
    have htail := (List.pairwise_cons.mp hexcl).2
    rw [closeActing, actingPairs_cons]
    by_cases hacting : info.actingStreamId = -1
    · rw [if_neg (not_not.mpr hacting), DeviceInfo.pairs_idle hacting, Set.empty_union]
      exact ih htail
    · have hsub : actingPairs table ⊆ openPairs (closeCall driver calls info.deviceId
          info.actingStreamId :: calls) ↔ actingPairs table ⊆ openPairs calls :=
        forall₂_congr fun p hp => mem_openPairs_close (hexcl.key_ne hp)
      rw [if_pos hacting, ih htail, hsub, closesOpen_close, DeviceInfo.pairs_acting hacting,
        Set.union_subset_iff, Set.singleton_subset_iff, and_iff_left hacting]
      tauto

/-- What a table does not record is left alone. -/
theorem mem_openPairs_closeActing {p : Int32 × Int32} (hp : p ∉ actingPairs table) :
    p ∈ openPairs (closeActing driver table calls) ↔ p ∈ openPairs calls := by
  induction table generalizing calls with
  | nil => rfl
  | cons info table ih =>
    rw [actingPairs_cons, Set.mem_union, not_or] at hp
    obtain ⟨hfirst, htail⟩ := hp
    rw [closeActing]
    by_cases hacting : info.actingStreamId = -1
    · rw [if_neg (not_not.mpr hacting)]
      exact ih htail
    · rw [DeviceInfo.pairs_acting hacting] at hfirst
      rw [if_pos hacting, ih htail, openPairs_close]
      split
      · exact and_iff_left hfirst
      · rfl

/-- Of what was acting and open, what is still open belongs to the devices whose close failed. -/
theorem openPairs_closeActing_acting (hexcl : Exclusive (table.map DeviceInfo.slot))
    (hopen : actingPairs table ⊆ openPairs calls) : ∀ p ∈ actingPairs table,
      p ∈ openPairs (closeActing driver table calls) ↔ p.1 ∉ closedDevices driver table calls := by
  induction table generalizing calls with
  | nil => intro p hp; cases holdings_nil.le hp
  | cons info table ih =>
    have htail := (List.pairwise_cons.mp hexcl).2
    rw [actingPairs_cons] at hopen ⊢
    obtain ⟨hfirst, hrest⟩ := Set.union_subset_iff.mp hopen
    rw [closeActing, closedDevices]
    by_cases hacting : info.actingStreamId = -1
    · rw [if_neg (not_not.mpr hacting), if_neg (not_not.mpr hacting), DeviceInfo.pairs_idle hacting,
        Set.empty_union]
      exact ih htail hrest
    · rw [if_pos hacting, if_pos hacting]
      rintro p (hp | hp)
      · -- the entry in front: nothing behind it is of its device
        rw [DeviceInfo.pairs_acting hacting] at hp
        subst hp
        have hbehind (id : Int32) : (info.deviceId, id) ∉ actingPairs table :=
          fun hmem => hexcl.key_ne hmem rfl
        have hnot : info.deviceId ∉ closedDevices driver table
            (closeCall driver calls info.deviceId info.actingStreamId :: calls) := by
          intro hmem
          obtain ⟨id, hid⟩ := closedDevices_acting table _ _ hmem
          exact hbehind id hid
        rw [mem_openPairs_closeActing (hbehind _), openPairs_close, Set.mem_union, or_iff_left hnot]
        have hmem : (info.deviceId, info.actingStreamId) ∈ openPairs calls := by
          rw [DeviceInfo.pairs_acting hacting] at hfirst
          exact hfirst rfl
        split
        · exact iff_of_false (fun h => h.2 rfl) (fun h => h rfl)
        · exact iff_of_true hmem (Set.notMem_empty _)
      · have hne := hexcl.key_ne hp
        have hopen' : actingPairs table ⊆ openPairs (closeCall driver calls info.deviceId
            info.actingStreamId :: calls) :=
          fun q hq => (mem_openPairs_close (hexcl.key_ne hq)).mpr (hrest hq)
        rw [ih htail hopen' p hp, Set.mem_union, or_iff_right]
        split
        · exact hne
        · exact Set.notMem_empty _

end

theorem closesOpen_uninit_iff (h : s.Tracks left) (horder : ClosesOpen s.calls) :
    ClosesOpen (closeActing driver s.live s.calls) ↔ left = ∅ := by
  rw [closesOpen_closeActing_iff h.sound.exclusive, and_iff_right horder]
  constructor
  · intro hsub
    refine Set.eq_empty_of_forall_notMem fun d hd => ?_
    obtain ⟨id, hmem⟩ := h.acting d hd
    exact (h.isOpen _ hmem).mp (hsub hmem) hd
  · rintro rfl p hp
    exact (h.isOpen p hp).mpr (Set.notMem_empty _)

theorem TvHal.Tracks.uninit (h : s.Tracks ∅) :
    (s.withCalls (closeActing driver s.live s.calls)).Tracks (closedDevices driver s.live s.calls) where
  sound := ⟨h.sound.fits, h.sound.exclusive⟩
  isOpen := openPairs_closeActing_acting h.sound.exclusive fun p hp =>
    (h.isOpen p hp).mpr (Set.notMem_empty _)
  acting := closedDevices_acting s.live s.calls

/-- Nothing is left behind in an empty list. -/
theorem TvHal.Fits.tracks (hfit : s.Fits) (hlive : s.live = []) : s.Tracks ∅ := by
  refine ⟨⟨hfit, ?_⟩, ?_, fun d hd => absurd hd (Set.notMem_empty d)⟩
  · rw [hlive]
    exact List.Pairwise.nil
  · rw [hlive]
    intro p hp
    exact absurd (holdings_nil.le hp) (Set.notMem_empty p)

/-! ### Asking for a stream -/

/-- A request that has to close the acting stream finds the device not left behind. -/
def ReplacesOpen (driver : Driver) (s : TvHal) (deviceId : Int32) (left : Set Int32) : Prop :=
  ∀ config info, offered driver s deviceId = some config →
    s.live[firstIdx deviceId s.live]? = some info →
    info.actingStreamId ≠ -1 → info.actingStreamId ≠ config.streamId → deviceId ∉ left

/-- The acting stream is closed, and the one that replaces it cannot be opened. -/
def LosesStream (driver : Driver) (s : TvHal) (deviceId : Int32) : Prop :=
  ∃ config info, offered driver s deviceId = some config ∧
    s.live[firstIdx deviceId s.live]? = some info ∧
    info.actingStreamId ≠ -1 ∧ info.actingStreamId ≠ config.streamId ∧
    let t := s.asked driver deviceId
    driver.closeStream t.calls deviceId info.actingStreamId = 0 ∧
      (driver.openStream (t.closed driver deviceId info.actingStreamId).calls deviceId
        config.streamId).1 ≠ 0

theorem closesOpen_openAndStore (hdev : s.device = true) {idx : ℕ} {streamId : Int32}
    {tvStream : TvStream} {r : UInt8 × TvStream}
    (h : openAndStore driver deviceId idx streamId tvStream s = .ok (r, t)) :
    ClosesOpen t.calls ↔ ClosesOpen s.calls := by
  rcases openAndStore_cases hdev h with ⟨-, -, rfl⟩ | ⟨-, -, info, rfl⟩
  · exact closesOpen_opened streamId
  · exact closesOpen_opened streamId

theorem closesOpen_getStream_iff (h : s.Tracks left) (horder : ClosesOpen s.calls)
    {tvStream : TvStream} {r : UInt8 × TvStream}
    (hrun : tvInputHalGetStream driver deviceId tvStream s = .ok (r, t)) :
    ClosesOpen t.calls ↔ ReplacesOpen driver s deviceId left := by
  have hdev : s.device = true := device_of_getStream hrun
  have hdev' : (s.asked driver deviceId).device = true := hdev
  have hasked : ClosesOpen (s.asked driver deviceId).calls := closesOpen_asked.mpr horder
  rw [tvInputHalGetStream_eq h.sound.fits hdev] at hrun
  unfold ReplacesOpen
  cases hoffer : offered driver s deviceId with
  | none =>
    rw [hoffer] at hrun
    cases hrun
    exact iff_of_true hasked fun _ _ hnone => by cases hnone
  | some config =>
    rw [hoffer] at hrun
    dsimp only [TvHal.indexOf] at hrun
    cases hget : s.live[firstIdx deviceId s.live]? with
    | none =>
      rw [hget] at hrun
      dsimp only at hrun
      have hopen := (closesOpen_openAndStore hdev' hrun).mpr hasked
      exact iff_of_true hopen fun _ _ _ hnone => by cases hnone
    | some info =>
      obtain ⟨hlt, heq, hid⟩ := getElem?_firstIdx hget
      have hinfo : info ∈ s.live := heq ▸ List.getElem_mem hlt
      rw [hget] at hrun
      dsimp only at hrun
      split at hrun
      · next hidle =>
        have hopen := (closesOpen_openAndStore hdev' hrun).mpr hasked
        refine iff_of_true hopen fun _ _ _ hsome hacting => ?_
        cases hsome
        exact absurd hidle hacting
      · next hacting =>
        split at hrun
        · next hsame =>
          cases hrun
          refine iff_of_true hasked fun _ _ hsome hsome' _ hother => ?_
          cases hsome
          cases hsome'
          exact absurd hsame hother
        · next hother =>
          -- both ways to go on make the one close, and no other
          have hclosed : ClosesOpen t.calls ↔
              ClosesOpen ((s.asked driver deviceId).closed driver deviceId info.actingStreamId).calls := by
            split at hrun
            · cases hrun
              rfl
            · exact closesOpen_openAndStore (s := (s.asked driver deviceId).closed ..) hdev hrun
          rw [hclosed]
          change ClosesOpen (closeCall driver _ _ _ :: _) ↔ _
          rw [closesOpen_close, and_iff_left hasked, and_iff_left hacting, openPairs_asked]
          have hopen := h.isOpen_entry hinfo hacting
          rw [hid] at hopen
          rw [hopen]
          constructor
          · intro hleft _ _ _ _ _ _
            exact hleft
          · intro hreplaces
            exact hreplaces config info rfl rfl hacting hother

/-! ### What is left behind by a request -/

namespace TvHal.Tracks

theorem asked (h : s.Tracks left) (deviceId : Int32) : (s.asked driver deviceId).Tracks left where
  sound := ⟨h.sound.fits, h.sound.exclusive⟩
  isOpen p hp := by
    rw [openPairs_asked]
    exact h.isOpen p hp
  acting := h.acting

theorem opened_fail (h : s.Tracks left) {streamId : Int32}
    (hfail : (driver.openStream s.calls deviceId streamId).1 ≠ 0) :
    (s.opened driver deviceId streamId).Tracks left where
  sound := ⟨h.sound.fits, h.sound.exclusive⟩
  isOpen p hp := by
    rw [openPairs_opened, if_neg hfail]
    exact h.isOpen p hp
  acting := h.acting

/-- A stream that is closed alone leaves its device behind, if the driver closes it. -/
theorem closed (driver : Driver) (h : s.Tracks left)
    (hlt : firstIdx deviceId s.live < s.live.length) {info : DeviceInfo}
    (heq : s.live[firstIdx deviceId s.live] = info) (hacting : info.actingStreamId ≠ -1) :
    (s.closed driver deviceId info.actingStreamId).Tracks
      (left ∪ {d | d = deviceId ∧ driver.closeStream s.calls deviceId info.actingStreamId = 0}) := by
  have hid : info.deviceId = deviceId := heq ▸ getElem_firstIdx hlt
  have hmem : (deviceId, info.actingStreamId) ∈ actingPairs s.live :=
    mem_actingPairs.mpr ⟨info, heq ▸ List.getElem_mem hlt, hid, rfl, hacting⟩
  refine ⟨⟨h.sound.fits, h.sound.exclusive⟩, fun p hp => ?_, ?_⟩
  · change p ∈ openPairs (closeCall driver _ _ _ :: _) ↔ _
    have hopen := h.isOpen p hp
    rw [openPairs_close]
    by_cases hclose : driver.closeStream s.calls deviceId info.actingStreamId = 0
    · rw [if_pos hclose, Set.mem_sdiff, hopen, Set.mem_union, not_or, Set.mem_singleton_iff]
      refine and_congr_right fun _ => not_congr ⟨fun hpair => ⟨congrArg Prod.fst hpair, hclose⟩, ?_⟩
      rintro ⟨hkey, -⟩
      have hfirst := h.sound.mem_pairs hlt hp hkey
      rw [heq, DeviceInfo.pairs_acting hacting, hid] at hfirst
      exact hfirst
    · rw [if_neg hclose, hopen, Set.mem_union, or_iff_left fun h => hclose h.2]
  · rintro d (hd | ⟨rfl, -⟩)
    · exact h.acting d hd
    · exact ⟨_, hmem⟩

/-- A stream that is opened for a listed device and stored takes the device back in. -/
theorem stored (h : s.Tracks left) (hlt : firstIdx deviceId s.live < s.live.length) {streamId : Int32}
    (hok : (driver.openStream s.calls deviceId streamId).1 = 0) :
    ((s.opened driver deviceId streamId).setEntry (firstIdx deviceId s.live)
      { s.live[firstIdx deviceId s.live] with actingStreamId := streamId }).Tracks (left \ {deviceId}) := by
  have hkey := getElem_firstIdx hlt
  generalize hinfo : s.live[firstIdx deviceId s.live] = info at hkey ⊢
  have hpairs := actingPairs_set h.sound.exclusive hlt { info with actingStreamId := streamId }
  rw [hinfo] at hpairs
  -- what the other devices record is untouched
  have hother {p : Int32 × Int32} (hp : p ∈ actingPairs s.live) :
      p ∉ info.slot.pairs ↔ p.1 ≠ deviceId := by
    constructor
    · intro hnot hkey'
      exact hnot (hinfo ▸ h.sound.mem_pairs hlt hp hkey')
    · intro hne hpair
      exact hne (hpair.1.symm.trans hkey)
  have hnew {p : Int32 × Int32}
      (hp : p ∈ ({ info with actingStreamId := streamId } : DeviceInfo).slot.pairs) :
      p = (deviceId, streamId) := by
    by_cases hidle : streamId = -1
    · rw [DeviceInfo.pairs_idle hidle] at hp
      exact hp.elim
    · rw [DeviceInfo.pairs_acting hidle, hkey] at hp
      exact hp
  refine ⟨⟨h.sound.fits, ?_⟩, fun p hp => ?_, ?_⟩
  · rw [TvHal.setEntry_live, List.map_set]
    exact h.sound.exclusive.set (isFirst_firstIdx hlt) (by rw [List.getElem_map, hinfo]; rfl)
  · rw [TvHal.setEntry_live, TvHal.opened_live, hpairs] at hp
    rw [TvHal.setEntry_calls, openPairs_opened, if_pos hok]
    rcases hp with ⟨hp, hnot⟩ | hp
    · have hne := (hother hp).mp hnot
      rw [Set.mem_insert_iff, or_iff_right fun heq => hne (congrArg Prod.fst heq), h.isOpen p hp,
        Set.mem_sdiff, not_and, not_not]
      exact ⟨fun hleft hmem => absurd hmem hleft, fun hleft hmem => hne (hleft hmem)⟩
    · obtain rfl := hnew hp
      exact iff_of_true (Set.mem_insert _ _) fun hmem => hmem.2 rfl
  · rintro d ⟨hd, hne⟩
    obtain ⟨id, hmem⟩ := h.acting d hd
    refine ⟨id, ?_⟩
    rw [TvHal.setEntry_live, TvHal.opened_live, hpairs]
    exact .inl ⟨hmem, (hother hmem).mpr hne⟩

/-- A stream that is opened for a device that is not listed is stored behind the list. -/
theorem unlisted (h : s.Tracks left) (hdev : s.device = true)
    (hnone : s.live[firstIdx deviceId s.live]? = none) {idx : ℕ} (hidx : s.live.length ≤ idx)
    {streamId : Int32} {tvStream : TvStream} {r : UInt8 × TvStream}
    (hrun : openAndStore driver deviceId idx streamId tvStream s = .ok (r, t)) : t.Tracks left := by
  rcases openAndStore_cases hdev hrun with ⟨hfail, -, rfl⟩ | ⟨hok, -, info, rfl⟩
  · exact h.opened_fail hfail
  · have hlive : ((s.opened driver deviceId streamId).setEntry idx info).live = s.live := by
      rw [TvHal.setEntry_live, TvHal.opened_live, List.set_eq_of_length_le hidx]
    refine ⟨⟨h.sound.fits, ?_⟩, fun p hp => ?_, ?_⟩
    · rw [hlive]
      exact h.sound.exclusive
    · rw [hlive] at hp
      rw [TvHal.setEntry_calls, openPairs_opened, if_pos hok, Set.mem_insert_iff, or_iff_right]
      · exact h.isOpen p hp
      · rintro rfl
        obtain ⟨info, hinfo, hkey, -⟩ := mem_actingPairs.mp hp
        have hlt := firstIdx_lt_iff.mpr ⟨info, hinfo, hkey⟩
        exact absurd (List.getElem?_eq_none_iff.mp hnone) (Nat.not_le.mpr hlt)
    · rw [hlive]
      exact h.acting

theorem getStream (h : s.Tracks left) {tvStream : TvStream} {r : UInt8 × TvStream}
    (hrun : tvInputHalGetStream driver deviceId tvStream s = .ok (r, t))
    (hreplaces : ReplacesOpen driver s deviceId left) :
    t.Tracks (left ∪ {d | d = deviceId ∧ LosesStream driver s deviceId}) := by
  have hdev : s.device = true := device_of_getStream hrun
  have hasked : (s.asked driver deviceId).Tracks left := h.asked deviceId
  have hnone (hnot : ¬LosesStream driver s deviceId) :
      left ∪ {d | d = deviceId ∧ LosesStream driver s deviceId} = left := by
    ext d
    simp [hnot]
  rw [tvInputHalGetStream_eq h.sound.fits hdev] at hrun
  cases hoffer : offered driver s deviceId with
  | none =>
    rw [hoffer] at hrun
    cases hrun
    rw [hnone]
    · exact hasked
    · rintro ⟨config, info, hsome, -⟩
      rw [hoffer] at hsome
      cases hsome
  | some config =>
    rw [hoffer] at hrun
    dsimp only [TvHal.indexOf] at hrun
    cases hget : s.live[firstIdx deviceId s.live]? with
    | none =>
      rw [hget] at hrun
      dsimp only at hrun
      rw [hnone]
      · exact hasked.unlisted hdev hget h.sound.fits.live_length.le hrun
      · rintro ⟨config, info, -, hsome, -⟩
        rw [hget] at hsome
        cases hsome
    | some info =>
      obtain ⟨hlt, heq, hid⟩ := getElem?_firstIdx hget
      have hloses : LosesStream driver s deviceId ↔ info.actingStreamId ≠ -1 ∧
          info.actingStreamId ≠ config.streamId ∧
          driver.closeStream (s.asked driver deviceId).calls deviceId info.actingStreamId = 0 ∧
          (driver.openStream ((s.asked driver deviceId).closed driver deviceId
            info.actingStreamId).calls deviceId config.streamId).1 ≠ 0 := by
        constructor
        · rintro ⟨config', info', hoffer', hget', hrest⟩
          rw [hoffer] at hoffer'
          rw [hget] at hget'
          cases hoffer'
          cases hget'
          exact hrest
        · intro hrest
          exact ⟨config, info, hoffer, hget, hrest⟩
      rw [hget] at hrun
      dsimp only at hrun
      by_cases hidle : info.actingStreamId = -1
      · rw [if_pos hidle, openAndStore_listed hasked.sound.fits hdev hlt] at hrun
        rw [hnone fun hl => (hloses.mp hl).1 hidle]
        dsimp only at hrun
        split at hrun
        · next hok =>
          cases hrun
          have hleft := h.notMem_of_idle hlt (by rw [heq]; exact hidle)
          have hstored := hasked.stored hlt hok
          rwa [Set.sdiff_singleton_eq_self hleft] at hstored
        · next hfail =>
          cases hrun
          exact hasked.opened_fail hfail
      · rw [if_neg hidle] at hrun
        by_cases hsame : info.actingStreamId = config.streamId
        · rw [if_pos hsame] at hrun
          cases hrun
          rw [hnone fun hl => (hloses.mp hl).2.1 hsame]
          exact hasked
        · rw [if_neg hsame] at hrun
          have hclosed := hasked.closed driver hlt heq hidle
          by_cases hclose : driver.closeStream (s.asked driver deviceId).calls deviceId
              info.actingStreamId = 0
          · rw [if_neg (not_not.mpr hclose), openAndStore_listed hclosed.sound.fits hdev hlt] at hrun
            dsimp only at hrun
            split at hrun
            · next hok =>
              cases hrun
              have hleft := hreplaces config info hoffer hget hidle hsame
              have hstored := hclosed.stored hlt hok
              rw [hnone fun hl => (hloses.mp hl).2.2.2 hok]
              rwa [Set.union_sdiff_distrib, Set.sdiff_singleton_eq_self hleft, Set.sdiff_eq_empty.mpr,
                Set.union_empty] at hstored
              exact fun d hd => hd.1
            · next hfail =>
              cases hrun
              have hloses' := hloses.mpr ⟨hidle, hsame, hclose, hfail⟩
              have hopened := hclosed.opened_fail hfail
              simpa only [hclose, hloses'] using hopened
          · rw [if_pos hclose] at hrun
            cases hrun
            rw [hnone fun hl => hclose (hloses.mp hl).2.2.1]
            simpa [hclose] using hclosed

end TvHal.Tracks

end Tvd

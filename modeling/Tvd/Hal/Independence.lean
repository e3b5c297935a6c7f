import Tvd.Exec.Local
import Tvd.Hal.Operations

/-! Devices do not disturb each other. What the HAL does for a device, it does on the
device's entry and with calls for that device, wherever the entry has been shifted to.
With a driver whose answers for a device depend on no other, events and requests for
streams of different devices can change places. -/

namespace Tvd

open Exec

/-! ### A table over a fixed list of ids -/

/-- The first entry of a device. -/
def entryOf (table : List DeviceInfo) (deviceId : Int32) : Option DeviceInfo :=
  table.find? fun info => info.deviceId = deviceId

/-- Every entry is found under its own id, which is one of the ids. -/
def Keyed (ids : List Int32) (entry : Int32 → Option DeviceInfo) : Prop :=
  ∀ deviceId info, entry deviceId = some info → info.deviceId = deviceId ∧ deviceId ∈ ids

section

variable {ids : List Int32} {entry : Int32 → Option DeviceInfo} {deviceId : Int32}

theorem entryOf_cons (info : DeviceInfo) (table : List DeviceInfo) (deviceId : Int32) :
    entryOf (info :: table) deviceId =
      if info.deviceId = deviceId then some info else entryOf table deviceId := by
  by_cases h : info.deviceId = deviceId <;> simp [entryOf, h]

theorem firstIdx_cons (deviceId : Int32) (info : DeviceInfo) (table : List DeviceInfo) :
    firstIdx deviceId (info :: table) =
      if info.deviceId = deviceId then 0 else firstIdx deviceId table + 1 := by
  by_cases h : info.deviceId = deviceId <;> simp [firstIdx, List.findIdx_cons, h]

theorem entryOf_eq_getElem? (table : List DeviceInfo) (deviceId : Int32) :
    entryOf table deviceId = table[firstIdx deviceId table]? := List.find?_eq_getElem?_findIdx

theorem Keyed.update (h : Keyed ids entry) (hmem : deviceId ∈ ids) {value : Option DeviceInfo}
    (hvalue : ∀ info, value = some info → info.deviceId = deviceId) :
    Keyed ids (Function.update entry deviceId value) := by
  intro id info hinfo
  by_cases hid : id = deviceId
  · subst hid
    rw [Function.update_self] at hinfo
    exact ⟨hvalue info hinfo, hmem⟩
  · rw [Function.update_of_ne hid] at hinfo
    exact h id info hinfo

/-- A table with pairwise distinct ids is determined by its ids and entries. -/
theorem filterMap_entryOf {table : List DeviceInfo} (hnodup : (table.map DeviceInfo.deviceId).Nodup) :
    (table.map DeviceInfo.deviceId).filterMap (entryOf table) = table := by
  induction table with
  | nil => rfl
  | cons info table ih =>
    obtain ⟨hnotMem, hnodup⟩ := List.nodup_cons.mp hnodup
    have hhead : entryOf (info :: table) info.deviceId = some info := by
      rw [entryOf_cons, if_pos rfl]
    have htail : ∀ id ∈ table.map DeviceInfo.deviceId,
        entryOf (info :: table) id = entryOf table id := by
      intro id hid
      have hne : info.deviceId ≠ id := fun h => hnotMem (h ▸ hid)
      rw [entryOf_cons, if_neg hne]
    rw [List.map_cons, List.filterMap_cons_some hhead, List.filterMap_congr htail, ih hnodup]

theorem entryOf_filterMap {ids' : List Int32} (hkeyed : Keyed ids' entry) :
    entryOf (ids.filterMap entry) deviceId = if deviceId ∈ ids then entry deviceId else none := by
  induction ids with
  | nil => rfl
  | cons id ids ih =>
    cases hentry : entry id with
    | none =>
      rw [List.filterMap_cons_none hentry, ih]
      by_cases hid : deviceId = id
      · rw [hid, hentry, if_pos List.mem_cons_self, ite_self]
      · simp only [List.mem_cons, hid, false_or]
    | some info =>
      rw [List.filterMap_cons_some hentry, entryOf_cons, (hkeyed id info hentry).1, ih]
      by_cases hid : id = deviceId
      · rw [if_pos hid, ← hid, if_pos List.mem_cons_self, hentry]
      · rw [if_neg hid]
        simp only [List.mem_cons, Ne.symm hid, false_or]

/-- The entries of a table that was put together from entries. -/
theorem Keyed.entryOf_filterMap (hkeyed : Keyed ids entry) : entryOf (ids.filterMap entry) = entry := by
  funext deviceId
  rw [Tvd.entryOf_filterMap hkeyed]
  split
  · rfl
  · next hmem =>
    cases hentry : entry deviceId with
    | none => rfl
    | some info => exact absurd (hkeyed deviceId info hentry).2 hmem

theorem filterMap_update_of_notMem (hmem : deviceId ∉ ids) (value : Option DeviceInfo) :
    ids.filterMap (Function.update entry deviceId value) = ids.filterMap entry := by
  refine List.filterMap_congr fun id hid => Function.update_of_ne ?_ _ _
  rintro rfl
  exact hmem hid

/-- Putting an entry, or nothing, in the place of the device's first one. -/
theorem replace_filterMap {ids' : List Int32} (hkeyed : Keyed ids' entry) (hnodup : ids.Nodup)
    {info : DeviceInfo} (hentry : entry deviceId = some info) (value : Option DeviceInfo) :
    let idx := firstIdx deviceId (ids.filterMap entry)
    (ids.filterMap entry).take idx ++ (if deviceId ∈ ids then value.toList else []) ++
      (ids.filterMap entry).drop (idx + 1) = ids.filterMap (Function.update entry deviceId value) := by
  dsimp only
  induction ids with
  | nil => rfl
  | cons id ids ih =>
    obtain ⟨hnotMem, hnodup⟩ := List.nodup_cons.mp hnodup
    by_cases hid : id = deviceId
    · subst hid
      have hupdate : Function.update entry id value id = value := Function.update_self ..
      rw [List.filterMap_cons_some hentry, firstIdx_cons, if_pos (hkeyed id info hentry).1,
        if_pos List.mem_cons_self, List.filterMap_cons, hupdate, filterMap_update_of_notMem hnotMem]
      cases value <;> rfl
    · have hupdate : Function.update entry deviceId value id = entry id :=
        Function.update_of_ne hid _ _
      have hmem : deviceId ∈ id :: ids ↔ deviceId ∈ ids := by
        simp only [List.mem_cons, Ne.symm hid, false_or]
      simp only [hmem]
      cases hother : entry id with
      | none =>
        rw [hother] at hupdate
        rw [List.filterMap_cons_none hother, List.filterMap_cons_none hupdate]
        exact ih hnodup
      | some other =>
        rw [hother] at hupdate
        have hne : other.deviceId ≠ deviceId := by rwa [(hkeyed id other hother).1]
        rw [List.filterMap_cons_some hother, List.filterMap_cons_some hupdate, firstIdx_cons,
          if_neg hne, ← ih hnodup]
        rfl

end

/-! ### What the HAL has of a device -/

/-- The call is not for another device. -/
def HalCall.About (deviceId : Int32) (call : HalCall) : Prop :=
  call.target = none ∨ call.target = some deviceId

instance (deviceId : Int32) (call : HalCall) : Decidable (call.About deviceId) :=
  inferInstanceAs (Decidable (_ ∨ _))

/-- A log without the calls for other devices. -/
def callsFor (deviceId : Int32) (calls : List HalCall) : List HalCall :=
  calls.filter fun call => call.About deviceId

/-- The answers for a device do not depend on the calls for others. -/
structure Driver.Independent (driver : Driver) : Prop where
  configs : ∀ calls deviceId, driver.getStreamConfigurations calls deviceId =
    driver.getStreamConfigurations (callsFor deviceId calls) deviceId
  opens : ∀ calls deviceId streamId, driver.openStream calls deviceId streamId =
    driver.openStream (callsFor deviceId calls) deviceId streamId
  closes : ∀ calls deviceId streamId, driver.closeStream calls deviceId streamId =
    driver.closeStream (callsFor deviceId calls) deviceId streamId

/-- A device's entry, and the calls for it. -/
structure DeviceView where
  entry : Option DeviceInfo
  calls : List HalCall

def TvHal.view (s : TvHal) (deviceId : Int32) : DeviceView :=
  ⟨entryOf s.live deviceId, callsFor deviceId s.calls⟩

namespace DeviceView

variable (driver : Driver) (deviceId : Int32) (v : DeviceView)

/-- The device after a call for it. -/
def withCall (call : HalCall) : DeviceView := { v with calls := call :: v.calls }

def closed (streamId : Int32) : DeviceView :=
  v.withCall (closeCall driver v.calls deviceId streamId)

/-- An event for the device, which removes it or leaves it idle. -/
def notify (event : TvInputEvent) (v : DeviceView) : Unit × DeviceView :=
  if event.deviceType ≠ .tuner then ((), v)
  else match v.entry with
    | none => ((), v)
    | some info =>
      let v := v.closed driver event.deviceId info.actingStreamId
      if event.type = .deviceUnavailable then ((), { v with entry := none })
      else ((), { v with entry := some { info with actingStreamId := -1 } })

/-- The stream is opened, and is then the one that is acting. -/
def openAndStore (streamId : Int32) (tvStream : TvStream) : (UInt8 × TvStream) × DeviceView :=
  let answer := driver.openStream v.calls deviceId streamId
  let v := v.withCall (.openStream deviceId streamId answer.1 answer.2)
  if answer.1 = 0 then ((tvStatusSuccess, tvStream.withHandle answer.2),
    { v with entry := v.entry.map ({ · with actingStreamId := streamId }) })
  else ((tvStatusFail, tvStream), v)

/-- A request for a stream of the device. -/
def getStream (tvStream : TvStream) (v : DeviceView) : (UInt8 × TvStream) × DeviceView :=
  let answer := driver.getStreamConfigurations v.calls deviceId
  let v := v.withCall (.getStreamConfigurations deviceId answer.1 answer.2)
  match if answer.1 = 0 then firstVideoConfig answer.2 else none with
  | none => ((tvStatusFail, tvStream), v)
  | some config =>
    let stream := tvStream.configure config
    match v.entry with
    | none => ((tvStatusFail, stream), v)
    | some info =>
      if info.actingStreamId = -1 then v.openAndStore driver deviceId config.streamId stream
      else if info.actingStreamId = config.streamId then ((tvStatusSuccess, stream), v)
      else if driver.closeStream v.calls deviceId info.actingStreamId ≠ 0 then
        ((tvStatusFail, stream), v.closed driver deviceId info.actingStreamId)
      else (v.closed driver deviceId info.actingStreamId).openAndStore driver deviceId
        config.streamId stream

end DeviceView

/-! ### Refinement -/

/-- The HAL is open, and its table holds the entries of some of the ids in their order. -/
structure TvHal.Lists (ids : List Int32) (s : TvHal) : Prop where
  fits : s.Fits
  device : s.device = true
  live : s.live = ids.filterMap (entryOf s.live)
  nodup : ids.Nodup

section

variable {s t : TvHal} {driver : Driver} {ids : List Int32} {deviceId : Int32} {info : DeviceInfo}

theorem entryOf_id (h : entryOf s.live deviceId = some info) : info.deviceId = deviceId := by
  simpa using List.find?_some h

theorem TvHal.Lists.keyed (h : s.Lists ids) : Keyed ids (entryOf s.live) := by
  intro deviceId info hinfo
  have hmem : info ∈ ids.filterMap (entryOf s.live) := h.live ▸ List.mem_of_find?_eq_some hinfo
  obtain ⟨id, hid, hentry⟩ := List.mem_filterMap.mp hmem
  have heq := entryOf_id hinfo
  rw [entryOf_id hentry] at heq
  exact ⟨entryOf_id hinfo, heq ▸ hid⟩

/-- A state with the table and the log of another with one entry replaced. -/
theorem TvHal.Lists.replace (h : s.Lists ids) (hentry : entryOf s.live deviceId = some info)
    (value : Option DeviceInfo) (hvalue : ∀ info, value = some info → info.deviceId = deviceId)
    (hfits : t.Fits) (hdevice : t.device = true)
    (hlive : t.live = s.live.take (s.indexOf deviceId) ++ value.toList ++
      s.live.drop (s.indexOf deviceId + 1)) :
    t.Lists ids ∧ entryOf t.live = Function.update (entryOf s.live) deviceId value := by
  obtain ⟨hid, hmem⟩ := h.keyed deviceId info hentry
  have hreplace := replace_filterMap h.keyed h.nodup hentry value
  dsimp only at hreplace
  rw [if_pos hmem, ← h.live] at hreplace
  have hlive' : t.live = ids.filterMap (Function.update (entryOf s.live) deviceId value) :=
    hlive.trans hreplace
  have hentries : entryOf t.live = Function.update (entryOf s.live) deviceId value := by
    rw [hlive']
    exact (h.keyed.update hmem hvalue).entryOf_filterMap
  exact ⟨⟨hfits, hdevice, by rw [hentries]; exact hlive', h.nodup⟩, hentries⟩

theorem callsFor_cons (deviceId : Int32) (call : HalCall) (calls : List HalCall) :
    callsFor deviceId (call :: calls) =
      if call.About deviceId then call :: callsFor deviceId calls else callsFor deviceId calls := by
  by_cases h : call.About deviceId <;> simp [callsFor, h]

theorem view_eq_iff {v : Int32 → DeviceView} :
    t.view = v ↔ (∀ deviceId, entryOf t.live deviceId = (v deviceId).entry) ∧
      ∀ deviceId, callsFor deviceId t.calls = (v deviceId).calls := by
  constructor
  · rintro rfl
    exact ⟨fun _ => rfl, fun _ => rfl⟩
  · rintro ⟨hentry, hcalls⟩
    funext deviceId
    rw [TvHal.view, hentry, hcalls]

/-- A call for a device is seen of that device only. -/
theorem view_withCall (s : TvHal) {call : HalCall} (hcall : call.target = some deviceId) :
    (s.withCall call).view = Function.update s.view deviceId ((s.view deviceId).withCall call) := by
  rw [view_eq_iff]
  refine ⟨fun id => ?_, fun id => ?_⟩ <;> by_cases hid : id = deviceId
  · subst hid
    rw [Function.update_self]
    rfl
  · rw [Function.update_of_ne hid]
    rfl
  · subst hid
    rw [Function.update_self, TvHal.withCall_calls, callsFor_cons, if_pos (.inr hcall)]
    rfl
  · have hother : ¬call.About id := by
      rintro (h | h) <;> rw [hcall] at h <;> cases h
      exact hid rfl
    rw [Function.update_of_ne hid, TvHal.withCall_calls, callsFor_cons, if_neg hother]
    rfl

/-- A replaced entry is seen of its device only. -/
theorem view_replace {value : Option DeviceInfo} (hcalls : t.calls = s.calls)
    (hentries : entryOf t.live = Function.update (entryOf s.live) deviceId value) :
    t.view = Function.update s.view deviceId { s.view deviceId with entry := value } := by
  rw [view_eq_iff, hcalls, hentries]
  refine ⟨fun id => ?_, fun id => ?_⟩ <;> by_cases hid : id = deviceId
  · subst hid
    rw [Function.update_self, Function.update_self]
  · rw [Function.update_of_ne hid, Function.update_of_ne hid]
    rfl
  · subst hid
    rw [Function.update_self]
    rfl
  · rw [Function.update_of_ne hid]
    rfl

theorem Driver.Independent.closeCall (h : driver.Independent) (calls : List HalCall)
    (deviceId streamId : Int32) :
    Tvd.closeCall driver calls deviceId streamId =
      Tvd.closeCall driver (callsFor deviceId calls) deviceId streamId := by
  rw [Tvd.closeCall, h.closes, Tvd.closeCall]

/-- The listing of a state with another log. -/
theorem TvHal.Lists.withCall (h : s.Lists ids) (call : HalCall) : (s.withCall call).Lists ids :=
  ⟨h.fits, h.device, h.live, h.nodup⟩

/-- An event that closes a stream acts on its device. -/
theorem notify_acts (hdriver : driver.Independent) {event : TvInputEvent}
    (htype : event.type = .deviceUnavailable ∨ event.type = .streamConfigurationsChanged) :
    Acts (TvHal.Lists ids) TvHal.view event.deviceId (deviceInitNotify driver event)
      (DeviceView.notify driver event) := by
  intro s hs
  obtain ⟨t, hrun, hlive, hcalls, hdevice, hfits⟩ : ∃ t, Notifies driver event s t :=
    deviceInitNotify_ok hs.fits event fun _ => hs.device
  rw [hs.device] at hdevice
  refine ⟨t, hrun, ?_⟩
  have hsame (hlive : t.live = s.live) (hcalls : t.calls = s.calls) :
      t.Lists ids ∧ t.view = Function.update s.view event.deviceId (s.view event.deviceId) := by
    rw [Function.update_eq_self]
    refine ⟨⟨hfits, hdevice, ?_, hs.nodup⟩, ?_⟩
    · rw [hlive]
      exact hs.live
    · unfold TvHal.view
      rw [hlive, hcalls]
  unfold DeviceView.notify
  by_cases htuner : event.deviceType = .tuner
  case neg =>
    rw [if_pos htuner]
    refine hsame ?_ ?_
    · rw [hlive, TvInputEvent.apply, if_pos htuner]
    · rw [hcalls, TvInputEvent.log, TvInputEvent.closes, if_pos htuner]
  rw [if_neg (not_not.mpr htuner)]
  rw [TvInputEvent.apply, if_neg (not_not.mpr htuner)] at hlive
  have hcloses : event.closes s.live = entryOf s.live event.deviceId := by
    rw [TvInputEvent.closes, if_neg (not_not.mpr htuner), entryOf_eq_getElem?]
    rcases htype with htype | htype <;> rw [htype]
  rw [TvInputEvent.log, hcloses] at hcalls
  have hview : (s.view event.deviceId).entry = entryOf s.live event.deviceId := rfl
  rw [hview]
  cases hentry : entryOf s.live event.deviceId with
  | none =>
    have hlen : s.live.length ≤ firstIdx event.deviceId s.live := by
      rw [entryOf_eq_getElem?] at hentry
      exact List.getElem?_eq_none_iff.mp hentry
    rw [hentry] at hcalls
    refine hsame ?_ hcalls
    rcases htype with htype | htype <;> rw [hlive, htype]
    · exact List.eraseIdx_of_length_le hlen
    · exact List.modify_eq_self hlen
  | some info =>
    have hid : info.deviceId = event.deviceId := entryOf_id hentry
    have hfound := hentry
    rw [entryOf_eq_getElem?] at hfound
    obtain ⟨hlt, hinfo⟩ := List.getElem?_eq_some_iff.mp hfound
    rw [hentry] at hcalls
    dsimp only at hcalls ⊢
    rw [hdriver.closeCall] at hcalls
    let u := s.withCall (closeCall driver (callsFor event.deviceId s.calls) event.deviceId info.actingStreamId)
    have hu : u.Lists ids := hs.withCall _
    have hcalls' : t.calls = u.calls := hcalls
    have huview : u.view = Function.update s.view event.deviceId
        ((s.view event.deviceId).closed driver event.deviceId info.actingStreamId) :=
      view_withCall s rfl
    rcases htype with htype | htype
    · rw [htype] at hlive ⊢
      rw [if_pos rfl]
      obtain ⟨hlists, hentries⟩ := hu.replace (t := t) hentry none (fun _ h => by cases h)
        hfits hdevice (by
          rw [hlive, Option.toList_none, List.append_nil]
          exact List.eraseIdx_eq_take_drop_succ ..)
      refine ⟨hlists, ?_⟩
      rw [view_replace hcalls' hentries, huview, Function.update_self, Function.update_idem]
    · rw [htype] at hlive ⊢
      rw [if_neg (by decide)]
      obtain ⟨hlists, hentries⟩ := hu.replace (t := t) hentry
        (some { info with actingStreamId := -1 })
        (fun _ h => by cases h; exact hid) hfits hdevice (by
          rw [hlive]
          dsimp only
          rw [List.modify_eq_set_get _ hlt, List.set_eq_take_append_cons_drop, if_pos hlt]
          simp [TvHal.indexOf, hinfo, u])
      refine ⟨hlists, ?_⟩
      rw [view_replace hcalls' hentries, huview, Function.update_self, Function.update_idem]

/-- Opening a stream acts on its device, provided that is listed. -/
theorem openAndStore_acts (hdriver : driver.Independent) (hs : s.Lists ids)
    (hentry : entryOf s.live deviceId = some info) (streamId : Int32) (tvStream : TvStream) :
    let r := (s.view deviceId).openAndStore driver deviceId streamId tvStream
    ∃ t, openAndStore driver deviceId (s.indexOf deviceId) streamId tvStream s = .ok (r.1, t) ∧
      t.Lists ids ∧ t.view = Function.update s.view deviceId r.2 := by
  have hfound := hentry
  rw [entryOf_eq_getElem?] at hfound
  obtain ⟨hlt, hinfo⟩ : ∃ h : s.indexOf deviceId < s.live.length, s.live[s.indexOf deviceId] = info :=
    List.getElem?_eq_some_iff.mp hfound
  have hid : info.deviceId = deviceId := entryOf_id hentry
  have hview : (s.view deviceId).entry = some info := hentry
  have hanswer : driver.openStream (s.view deviceId).calls deviceId streamId =
      driver.openStream s.calls deviceId streamId := (hdriver.opens ..).symm
  have hopened : (s.opened driver deviceId streamId).view = Function.update s.view deviceId
      ((s.view deviceId).withCall (.openStream deviceId streamId
        (driver.openStream s.calls deviceId streamId).1 (driver.openStream s.calls deviceId streamId).2)) :=
    view_withCall s rfl
  have hlists : (s.opened driver deviceId streamId).Lists ids := hs.withCall _
  dsimp only
  rw [openAndStore_listed hs.fits hs.device hlt]
  unfold DeviceView.openAndStore
  rw [hanswer]
  dsimp only
  by_cases hok : (driver.openStream s.calls deviceId streamId).1 = 0
  · rw [if_pos hok, if_pos hok]
    let idle := s.opened driver deviceId streamId
    let stored := idle.setEntry (s.indexOf deviceId) { s.live[s.indexOf deviceId] with actingStreamId := streamId }
    have hlive : stored.live = idle.live.take (idle.indexOf deviceId) ++
        (some { info with actingStreamId := streamId }).toList ++ idle.live.drop (idle.indexOf deviceId + 1) := by
      have hlt' : s.indexOf deviceId < idle.live.length := hlt
      rw [TvHal.setEntry_live, List.set_eq_take_append_cons_drop, if_pos hlt', hinfo,
        Option.toList_some, List.append_assoc, List.singleton_append]
      rfl
    obtain ⟨hlists', hentries⟩ := hlists.replace (t := stored) hentry
      (some { info with actingStreamId := streamId }) (fun _ h => by cases h; exact hid) hs.fits
      hs.device hlive
    refine ⟨stored, rfl, hlists', ?_⟩
    rw [view_replace (t := stored) (s := idle) rfl hentries, hopened, Function.update_self, Function.update_idem]
    unfold DeviceView.withCall
    rw [hview]
    rfl
  · rw [if_neg hok, if_neg hok]
    exact ⟨_, rfl, hlists, hopened⟩

/-- The HAL lists some of the ids, these among them. -/
def TvHal.Listing (ids listed : List Int32) (s : TvHal) : Prop :=
  s.Lists ids ∧ ∀ deviceId ∈ listed, entryOf s.live deviceId ≠ none

namespace DeviceView

theorem openAndStore_isSome (v : DeviceView) (streamId : Int32) (tvStream : TvStream) :
    (v.openAndStore driver deviceId streamId tvStream).2.entry.isSome = v.entry.isSome := by
  unfold openAndStore
  dsimp only
  split
  · exact Option.isSome_map
  · rfl

/-- A request does not take the device off the list. -/
theorem getStream_isSome (v : DeviceView) (tvStream : TvStream) :
    (v.getStream driver deviceId tvStream).2.entry.isSome = v.entry.isSome := by
  unfold getStream
  dsimp only
  split
  · rfl
  · split
    · rfl
    · split
      · exact openAndStore_isSome _ _ _
      · split
        · rfl
        · split
          · rfl
          · exact openAndStore_isSome _ _ _

end DeviceView

/-- A request for a stream acts on its device, provided that is listed. -/
theorem getStream_acts (hdriver : driver.Independent) {listed : List Int32}
    (hmem : deviceId ∈ listed) (tvStream : TvStream) :
    Acts (TvHal.Listing ids listed) TvHal.view deviceId (tvInputHalGetStream driver deviceId tvStream)
      (DeviceView.getStream driver deviceId tvStream) := by
  rintro s ⟨hs, hlisted⟩
  obtain ⟨info, hentry⟩ := Option.ne_none_iff_exists'.mp (hlisted deviceId hmem)
  suffices h : ∃ t, tvInputHalGetStream driver deviceId tvStream s =
      .ok (((s.view deviceId).getStream driver deviceId tvStream).1, t) ∧ t.Lists ids ∧
      t.view = Function.update s.view deviceId ((s.view deviceId).getStream driver deviceId tvStream).2 by
    obtain ⟨t, hrun, ht, hview⟩ := h
    refine ⟨t, hrun, ⟨ht, fun id hid => ?_⟩, hview⟩
    have hentries : entryOf t.live id = (t.view id).entry := rfl
    rw [hentries, hview]
    by_cases heq : id = deviceId
    · subst heq
      rw [Function.update_self, ← Option.isSome_iff_ne_none, DeviceView.getStream_isSome]
      exact Option.isSome_iff_ne_none.mpr (hlisted id hmem)
    · rw [Function.update_of_ne heq]
      exact hlisted id hid
  obtain ⟨answer, hanswer⟩ : ∃ answer, driver.getStreamConfigurations s.calls deviceId = answer :=
    ⟨_, rfl⟩
  let v := (s.view deviceId).withCall (.getStreamConfigurations deviceId answer.1 answer.2)
  have hasked : (s.asked driver deviceId).Lists ids := hs.withCall _
  have haskedView : (s.asked driver deviceId).view = Function.update s.view deviceId v := by
    rw [TvHal.asked, hanswer]
    exact view_withCall s rfl
  have hv : (s.asked driver deviceId).view deviceId = v := by rw [haskedView, Function.update_self]
  have hfound : s.live[s.indexOf deviceId]? = some info := by
    rw [← hentry, entryOf_eq_getElem?]
    rfl
  have hanswer' : driver.getStreamConfigurations (s.view deviceId).calls deviceId = answer :=
    (hdriver.configs ..).symm.trans hanswer
  have hoffered : offered driver s deviceId =
      if answer.1 = 0 then firstVideoConfig answer.2 else none := by rw [offered, hanswer]
  have hstream : (s.view deviceId).getStream driver deviceId tvStream =
      match offered driver s deviceId with
      | none => ((tvStatusFail, tvStream), v)
      | some config =>
        let stream := tvStream.configure config
        if info.actingStreamId = -1 then v.openAndStore driver deviceId config.streamId stream
        else if info.actingStreamId = config.streamId then ((tvStatusSuccess, stream), v)
        else if driver.closeStream v.calls deviceId info.actingStreamId ≠ 0 then
          ((tvStatusFail, stream), v.closed driver deviceId info.actingStreamId)
        else (v.closed driver deviceId info.actingStreamId).openAndStore driver deviceId
          config.streamId stream := by
    have hentry' : v.entry = some info := hentry
    unfold DeviceView.getStream
    rw [hanswer']
    dsimp only
    rw [← hoffered, hentry']
  have hopen (u : TvHal) (v' : DeviceView) (hu : u.Lists ids) (hlive : u.live = s.live)
      (huview : u.view = Function.update s.view deviceId v') (streamId : Int32) (stream : TvStream) :
      ∃ t, openAndStore driver deviceId (s.indexOf deviceId) streamId stream u =
        .ok ((v'.openAndStore driver deviceId streamId stream).1, t) ∧ t.Lists ids ∧
        t.view = Function.update s.view deviceId (v'.openAndStore driver deviceId streamId stream).2 := by
    have hidx : u.indexOf deviceId = s.indexOf deviceId := congrArg (firstIdx deviceId) hlive
    have huentry : entryOf u.live deviceId = some info := by rw [hlive, hentry]
    have h := openAndStore_acts hdriver hu huentry streamId stream
    dsimp only at h
    rw [hidx, huview, Function.update_self, Function.update_idem] at h
    exact h
  rw [hstream, tvInputHalGetStream_eq hs.fits hs.device, hfound]
  cases offered driver s deviceId with
  | none => exact ⟨_, rfl, hasked, haskedView⟩
  | some config =>
    dsimp only
    by_cases hidle : info.actingStreamId = -1
    · rw [if_pos hidle, if_pos hidle]
      exact hopen _ v hasked rfl haskedView config.streamId _
    rw [if_neg hidle, if_neg hidle]
    by_cases hacting : info.actingStreamId = config.streamId
    · rw [if_pos hacting, if_pos hacting]
      exact ⟨_, rfl, hasked, haskedView⟩
    rw [if_neg hacting, if_neg hacting]
    let closed := (s.asked driver deviceId).closed driver deviceId info.actingStreamId
    have hclosed : closed.Lists ids := hasked.withCall _
    have hcalls : callsFor deviceId (s.asked driver deviceId).calls = v.calls :=
      congrArg DeviceView.calls hv
    have hclosedView : closed.view =
        Function.update s.view deviceId (v.closed driver deviceId info.actingStreamId) := by
      have hcall : (s.asked driver deviceId).closed driver deviceId info.actingStreamId =
          (s.asked driver deviceId).withCall (closeCall driver v.calls deviceId info.actingStreamId) := by
        rw [TvHal.closed, hdriver.closeCall, hcalls]
      rw [show closed = _ from hcall, view_withCall _ rfl, haskedView, Function.update_self,
        Function.update_idem]
      rfl
    rw [hdriver.closes, hcalls]
    by_cases hclose : driver.closeStream v.calls deviceId info.actingStreamId = 0
    · rw [if_neg (not_not.mpr hclose), if_neg (not_not.mpr hclose)]
      exact hopen closed _ hclosed rfl hclosedView config.streamId _
    · rw [if_pos hclose, if_pos hclose]
      exact ⟨_, rfl, hclosed, hclosedView⟩

theorem acts_listing {α : Type} {p : HalM α} {f : DeviceView → α × DeviceView} {listed : List Int32}
    (h : Acts (TvHal.Lists ids) TvHal.view deviceId p f) (hmem : deviceId ∉ listed) :
    Acts (TvHal.Listing ids listed) TvHal.view deviceId p f := by
  rintro s ⟨hs, hlisted⟩
  obtain ⟨t, hrun, ht, hview⟩ := h s hs
  refine ⟨t, hrun, ⟨ht, fun id hid => ?_⟩, hview⟩
  have hne : id ≠ deviceId := by
    rintro rfl
    exact hmem hid
  have hentries : entryOf t.live id = (t.view id).entry := rfl
  rw [hentries, hview, Function.update_of_ne hne]
  exact hlisted id hid

/-! ### Exchange -/

/-- The same device table, and for each device the same calls in the same order. -/
structure TvHal.SameDevices (t u : TvHal) : Prop where
  deviceNum : t.deviceNum = u.deviceNum
  live : t.live = u.live
  calls : ∀ deviceId, t.calls.filter (fun call => call.target = some deviceId) =
    u.calls.filter (fun call => call.target = some deviceId)

theorem callsFor_filter (deviceId : Int32) (calls : List HalCall) :
    (callsFor deviceId calls).filter (fun call => call.target = some deviceId) =
      calls.filter (fun call => call.target = some deviceId) := by
  rw [callsFor, List.filter_filter]
  refine List.filter_congr fun call _ => ?_
  by_cases h : call.target = some deviceId <;> simp [h, HalCall.About]

/-- Tables over the same ids with the same views are the same. -/
theorem TvHal.Lists.sameDevices {u : TvHal} (ht : t.Lists ids) (hu : u.Lists ids)
    (hview : t.view = u.view) : t.SameDevices u := by
  obtain ⟨hentry, hcalls⟩ := view_eq_iff.mp hview
  have hlive : t.live = u.live := by
    rw [ht.live, hu.live, funext hentry]
    rfl
  refine ⟨?_, hlive, fun deviceId => ?_⟩
  · apply UInt8.toNat_inj.mp
    rw [← ht.fits.live_length, ← hu.fits.live_length, hlive]
  · rw [← callsFor_filter, hcalls, ← callsFor_filter deviceId u.calls]
    rfl

/-- For a driver whose answers for a device do not depend on the calls for others, and
two devices of a table without duplicates: an event that closes the stream of one and a
request for a stream of the other can be exchanged, and so can two requests. -/
theorem independent_devices_commute (hdriver : driver.Independent) (hfits : s.Fits)
    (hnodup : (s.live.map DeviceInfo.deviceId).Nodup) {d₁ d₂ : Int32} (hne : d₁ ≠ d₂)
    (h₁ : d₁ ∈ s.live.map DeviceInfo.deviceId) (h₂ : d₂ ∈ s.live.map DeviceInfo.deviceId) :
    (∀ (event : TvInputEvent) (tvStream : TvStream),
      event.type = .deviceUnavailable ∨ event.type = .streamConfigurationsChanged →
      event.deviceId = d₁ →
      Commute TvHal.SameDevices (deviceInitNotify driver event)
        (tvInputHalGetStream driver d₂ tvStream) s) ∧
    ∀ tvStream₁ tvStream₂ : TvStream, Commute TvHal.SameDevices
      (tvInputHalGetStream driver d₁ tvStream₁) (tvInputHalGetStream driver d₂ tvStream₂) s := by
  have hlisted (d : Int32) (hd : d ∈ s.live.map DeviceInfo.deviceId) : entryOf s.live d ≠ none := by
    obtain ⟨info, hinfo, hid⟩ := List.mem_map.mp hd
    rw [entryOf, ← Option.isSome_iff_ne_none, List.find?_isSome]
    exact ⟨info, hinfo, by simpa using hid⟩
  cases hdevice : s.device with
  | true =>
    have hs : s.Lists (s.live.map DeviceInfo.deviceId) :=
      ⟨hfits, hdevice, (filterMap_entryOf hnodup).symm, hnodup⟩
    have hsame (listed : List Int32) (t u : TvHal) (h : t.Listing (s.live.map DeviceInfo.deviceId) listed ∧
        u.Listing (s.live.map DeviceInfo.deviceId) listed ∧ t.view = u.view) : t.SameDevices u :=
      h.1.1.sameDevices h.2.1.1 h.2.2
    refine ⟨fun event tvStream htype hevent => ?_, fun tvStream₁ tvStream₂ => ?_⟩
    · subst hevent
      have hnotMem : event.deviceId ∉ [d₂] := fun h => hne (List.mem_singleton.mp h)
      have hlisting : s.Listing (s.live.map DeviceInfo.deviceId) [d₂] :=
        ⟨hs, fun d hd => List.mem_singleton.mp hd ▸ hlisted d₂ h₂⟩
      exact ((acts_listing (notify_acts hdriver htype) hnotMem).commute
        (getStream_acts hdriver List.mem_cons_self tvStream) hne hlisting).mono (hsame [d₂])
    · have hlisting : s.Listing (s.live.map DeviceInfo.deviceId) [d₁, d₂] := by
        refine ⟨hs, fun d hd => ?_⟩
        rcases List.mem_cons.mp hd with rfl | hd
        · exact hlisted d h₁
        · exact List.mem_singleton.mp hd ▸ hlisted d₂ h₂
      exact ((getStream_acts hdriver List.mem_cons_self tvStream₁).commute
        (getStream_acts hdriver (List.mem_cons_of_mem _ List.mem_cons_self) tvStream₂) hne
        hlisting).mono (hsame [d₁, d₂])
  | false =>
    have herror (d : Int32) (tvStream : TvStream) :
        tvInputHalGetStream driver d tvStream s = .error .nullPointer :=
      tvInputHalGetStream_error hdevice d tvStream
    refine ⟨fun event tvStream htype hevent => ?_, fun tvStream₁ tvStream₂ => ?_⟩
    · refine commute_of_error (herror d₂ tvStream) ?_
      by_cases hcloses : event.closes s.live = none
      · obtain ⟨t, hrun, -, -, htdevice, -⟩ : ∃ t, Notifies driver event s t :=
          deviceInitNotify_ok hfits event fun h => absurd hcloses h
        exact .inr ⟨_, t, hrun, tvInputHalGetStream_error (htdevice.trans hdevice) d₂ tvStream⟩
      · exact .inl (deviceInitNotify_error hfits hcloses hdevice)
    · exact commute_of_error (herror d₂ tvStream₂) (.inl (herror d₁ tvStream₁))

end

/-- An open HAL with tuners 1 and 2. -/
def twoTunersHal : TvHal :=
  ({ TvHal.zero with device := true }.pushEntry ⟨1, .tuner, -1⟩).pushEntry ⟨2, .tuner, -1⟩

theorem steadyDriver_independent : steadyDriver.Independent :=
  ⟨fun _ _ => rfl, fun _ _ _ => rfl, fun _ _ _ => rfl⟩

theorem independent_devices_commute_twoTuners :
    Commute TvHal.SameDevices (deviceInitNotify steadyDriver ⟨.deviceUnavailable, 1, .tuner⟩)
      (tvInputHalGetStream steadyDriver 2 .unset) twoTunersHal ∧
    Commute TvHal.SameDevices (tvInputHalGetStream steadyDriver 1 .unset)
      (tvInputHalGetStream steadyDriver 2 .unset) twoTunersHal := by
  have hfits : twoTunersHal.Fits := by
    unfold TvHal.Fits
    decide +kernel
  have hne : (1 : Int32) ≠ 2 := by decide
  obtain ⟨hevent, hstreams⟩ := independent_devices_commute steadyDriver_independent hfits
    (by decide +kernel) hne (by decide +kernel) (by decide +kernel)
  exact ⟨hevent _ _ (.inl rfl) rfl, hstreams _ _⟩

end Tvd

import Tvd.Ledger.Numbers
import Tvd.Service.Unregistered

/-! The buffers of the notifications. A callback creates one, and from then on it is
destroyed by the callback, or waits in a task and is then passed to the send callback.
The commands create and consume buffers of their own. Only a task that finds the
service unregistered leaves its buffer behind. -/

namespace Tvd

open Exec Ledger

variable {w : World} {services : Services}

/-! ### Consuming a buffer -/

/-- The buffer that an operation takes away from the daemon. -/
def PduOp.consumed : PduOp → Option ℕ
  | .destroy id | .send id => some id
  | .create .. | .append _ | .runTask .. => none

theorem spent_eq_count (id : ℕ) (log : List PduOp) :
    spent PduOp.consumed id log = log.count (.send id) + log.count (.destroy id) := by
  induction log with
  | nil => rfl
  | cons op log ih =>
    rw [spent_cons, ih, List.count_cons, List.count_cons]
    cases op with
    | create | append | runTask => simp [PduOp.consumed]
    | destroy other =>
      simp only [PduOp.consumed, Option.some_inj, beq_iff_eq, reduceCtorEq, PduOp.destroy.injEq]
      simp only [if_false, add_zero, add_assoc]
    | send other =>
      simp only [PduOp.consumed, Option.some_inj, beq_iff_eq, reduceCtorEq, PduOp.send.injEq]
      simp only [if_false, add_zero, add_right_comm]

/-- What was consumed since `base` was created since. -/
def Since (base : List PduOp) (s : Daemon) : Prop := Continues PduOp.consumed base s.pdus

/-- The same, and the buffer is one of those created since. -/
def Holds (base : List PduOp) (wbuf : Wbuf) (s : Daemon) : Prop :=
  Since base s ∧ base.length ≤ wbuf.id ∧ wbuf.id < s.pdus.length

section

variable {base : List PduOp}

theorem Holds.consume {wbuf : Wbuf} {op : PduOp} (hop : op.consumed = some wbuf.id) {s : Daemon}
    (h : Holds base wbuf s) : Since base { s with pdus := op :: s.pdus } :=
  h.1.spend hop h.2.1 h.2.2

theorem keeps_pdus_onEnv {α : Type} (m : EnvM α) : Keeps Daemon.pdus (onEnv m) :=
  keeps_zoom (fun _ _ => rfl) m

theorem keeps_pdus_onDtv {α : Type} (m : DtvM α) : Keeps Daemon.pdus (onDtv m) :=
  keeps_zoom (fun _ _ => rfl) m

theorem keeps_pdus_onIo {α : Type} (m : IoM α) : Keeps Daemon.pdus (onIo m) :=
  keeps_zoom (fun _ _ => rfl) m

/-- Code that leaves the log of buffers alone. -/
theorem since_of_keeps {α : Type} {m : DaemonM α} (hm : Keeps Daemon.pdus m) :
    Preserves (Since base) m :=
  hm.preserves fun s t h hs => by
    unfold Since
    rwa [h]

theorem holds_of_keeps {α : Type} {wbuf : Wbuf} {m : DaemonM α} (hm : Keeps Daemon.pdus m) :
    Preserves (Holds base wbuf) m :=
  hm.preserves fun s t h hs => by
    unfold Holds Since
    rwa [h]

/-- Sending a buffer through a callback consumes it. -/
theorem call_since (wbuf : Wbuf) (cb : Option SendPdu) :
    Leads (Holds base wbuf) (Since base) (SendPdu.call w wbuf cb) := by
  cases cb with
  | none => exact leads_throw _ _ _
  | some cb =>
    cases cb
    have hsend : Leads (Holds base wbuf) (Since base) (onPdus (Exec.modify (.send wbuf.id :: ·))) :=
      fun s hs => ensures_zoom.mpr (ensures_modify.mpr (hs.consume rfl))
    refine hsend.bind fun _ => since_of_keeps ?_
    exact (keeps_pdus_onIo _).bind fun _ => keeps_pure _ _

/-- What a call through a callback logs. -/
theorem call_sends (wbuf : Wbuf) (cb : SendPdu) (s : Daemon) :
    Ensures (SendPdu.call w wbuf (some cb)) s fun _ t =>
      t.pdus = .send wbuf.id :: s.pdus ∧ t.tasks = s.tasks := by
  cases cb
  rw [SendPdu.call, ensures_bind]
  refine ensures_zoom.mpr (ensures_modify.mpr ?_)
  rw [Io.sendPdu, ensures_bind, ensures_zoom]
  exact fun _ _ _ => ensures_pure.mpr ⟨rfl, rfl⟩

theorem destroy_since (wbuf : Wbuf) :
    Leads (Holds base wbuf) (Since base) (onPdus (destroyPduWbuf wbuf)) :=
  fun _ hs => ensures_zoom.mpr (ensures_modify.mpr (hs.consume rfl))

/-- Code that may create a buffer. -/
def Creates (base : List PduOp) (m : PduM (Option Wbuf)) : Prop :=
  ∀ log, Continues PduOp.consumed base log → Ensures m log fun r log' =>
    Continues PduOp.consumed base log' ∧
      ∀ wbuf, r = some wbuf → base.length ≤ wbuf.id ∧ wbuf.id < log'.length

theorem creates_createPduWbuf (lib : Lib) (capacity tailLen : ℕ) (hasBuilder : Bool) :
    Creates base (createPduWbuf lib capacity tailLen hasBuilder) := by
  intro log hlog
  refine (createPduWbuf_ensures _ _ _ _).mono ?_
  rintro _ _ (⟨-, rfl, rfl⟩ | ⟨-, rfl, rfl⟩)
  · refine ⟨hlog.keep rfl, fun _ h => ?_⟩
    cases h
  · refine ⟨hlog.keep rfl, fun _ h => ?_⟩
    cases h
    exact ⟨hlog.length, Nat.lt_succ_self _⟩

theorem creates_createSourceWbuf (handle : NativeHandle) :
    Creates base (DtvIo.createSourceWbuf w handle) := by
  intro log hlog
  unfold DtvIo.createSourceWbuf
  dsimp only
  split
  · exact creates_createPduWbuf _ _ _ _ log hlog
  · rw [ensures_bind]
    refine (creates_createPduWbuf _ _ _ _ log hlog).mono fun r log' ⟨hlog', hcreated⟩ => ?_
    cases r with
    | none => exact ensures_throw.mpr trivial
    | some wbuf =>
      have hwbuf := hcreated wbuf rfl
      dsimp only
      split
      · exact fun _ _ hthrow => by cases hthrow
      · refine ensures_pure.mpr ⟨hlog', fun filled hfilled => ?_⟩
        cases hfilled
        exact hwbuf

/-- The buffer is consumed by what follows, if there is one. -/
theorem Creates.bind {α : Type} {m : PduM (Option Wbuf)} (hm : Creates base m)
    {f : Option Wbuf → DaemonM α} (hnone : Preserves (Since base) (f none))
    (hsome : ∀ wbuf, Leads (Holds base wbuf) (Since base) (f (some wbuf))) :
    Preserves (Since base) (onPdus m >>= f) := by
  intro s hs
  rw [ensures_bind, ensures_zoom]
  refine (hm s.pdus hs).mono fun r log ⟨hlog, hcreated⟩ => ?_
  cases r with
  | none => exact hnone _ hlog
  | some wbuf => exact hsome wbuf _ ⟨hlog, hcreated wbuf rfl⟩

/-- Code that fills a buffer, and what consumes it afterwards. -/
theorem Proper.bind_since {α : Type} {fill : DtvIo.Fill} (hfill : Proper fill) (wbuf : Wbuf)
    {f : Option Wbuf → DaemonM α} (hnone : Leads (Holds base wbuf) (Since base) (f none))
    (hsome : ∀ filled, Leads (Holds base filled) (Since base) (f (some filled))) :
    Leads (Holds base wbuf) (Since base) (onPdus (fill wbuf) >>= f) := by
  intro s hs
  rw [ensures_bind, ensures_zoom]
  refine ((hfill.same wbuf s.pdus).and (hfill.appends wbuf s.pdus _ ⟨[], rfl⟩)).mono ?_
  rintro r _ ⟨hsame, oks, rfl⟩
  have hmore : Holds base wbuf { s with pdus := oks.map .append ++ s.pdus } := by
    refine ⟨hs.1.append fun op hop => ?_, hs.2.1, ?_⟩
    · obtain ⟨ok, -, rfl⟩ := List.mem_map.mp hop
      rfl
    · dsimp only
      rw [List.length_append]
      exact Nat.lt_add_left _ hs.2.2
  cases r with
  | none => exact hnone _ hmore
  | some filled =>
    refine hsome filled _ ?_
    unfold Holds
    rw [(hsame filled rfl).1]
    exact hmore

/-! ### Commands -/

theorem dtvSend_since (wbuf : Wbuf) :
    Leads (Holds base wbuf) (Since base) (DtvIo.sendPdu w wbuf) := by
  refine Leads.bind (Q := Holds base wbuf) (holds_of_keeps (keeps_get _)) fun s => ?_
  exact call_since wbuf _

theorem registrySend_since (wbuf : Wbuf) :
    Leads (Holds base wbuf) (Since base) (Registry.sendPdu w wbuf) := by
  refine Leads.bind (Q := Holds base wbuf) (holds_of_keeps (keeps_get _)) fun s => ?_
  exact call_since wbuf _

/-- The reply to a command consumes the buffer that it is given. -/
theorem reply_since (cmd : Pdu) {fill : DtvIo.Fill} (hfill : Proper fill) (release : List HeapOp)
    (wbuf : Wbuf) :
    Leads (Holds base wbuf) (Since base) (DtvIo.reply w cmd (some wbuf) fill release) := by
  have hrelease (wbuf : Wbuf) : Preserves (Holds base wbuf) (onEnv (onHeap (heapOps release))) :=
    holds_of_keeps (keeps_pdus_onEnv _)
  refine hfill.bind_since (wbuf.initPdu cmd.service cmd.opcode) ?_ fun filled => ?_
  · refine Leads.bind (hrelease _) fun _ => ?_
    exact (destroy_since _).bind fun _ => leads_pure (fun _ hs => hs) _
  · refine (dtvSend_since filled).bind fun _ => Leads.bind (Q := Since base) ?_ fun _ => ?_
    · exact since_of_keeps (keeps_pdus_onEnv _)
    · exact leads_pure (fun _ hs => hs) _

theorem dtvHandler_since (cmd : Pdu) : Preserves (Since base) (DtvIo.dtvHandler w cmd) := by
  have hrules : HandlerRules w cmd (Preserves (Since base)) :=
    { api := fun _ hf => (since_of_keeps (keeps_pdus_onEnv _)).bind hf
      heap := fun _ hf => (since_of_keeps (keeps_pdus_onEnv _)).bind hf
      size := fun _ hf => (preserves_lift _ _).bind hf
      code := fun _ => preserves_pure _ _
      indeterminate := preserves_throw _ _
      reply := fun _ release hfill =>
        (creates_createPduWbuf _ _ _ _).bind (preserves_pure _ _) (reply_since cmd hfill release)
      sourceReply := fun handle => (creates_createSourceWbuf handle).bind (preserves_pure _ _)
        (reply_since cmd (proper_fillSource handle) []) }
  exact hrules.dtvHandler

theorem fail_since (wbuf : Wbuf) : Leads (Holds base wbuf) (Since base)
    (do onPdus (destroyPduWbuf wbuf); return errorFail : DaemonM Int32) :=
  (destroy_since wbuf).bind fun _ => leads_pure (fun _ hs => hs) _

theorem registerModule_since (cmd : Pdu) :
    Preserves (Since base) (Registry.registerModule w services cmd) := by
  unfold Registry.registerModule
  split
  · exact preserves_pure _ _
  next service _ _ =>
  refine (preserves_get _).bind fun s => .ite (preserves_pure _ _) ?_
  cases services.register service with
  | none => exact preserves_pure _ _
  | some register =>
  refine (creates_createPduWbuf _ _ _ _).bind (preserves_pure _ _) fun wbuf => ?_
  refine Leads.bind (holds_of_keeps (keeps_pdus_onDtv _)) fun handler => ?_
  cases handler with
  | none => exact fail_since wbuf
  | some handler =>
  refine Leads.bind (Q := Holds base wbuf) (holds_of_keeps (keeps_modify fun _ => rfl)) fun _ => ?_
  refine (Proper.args _ _).bind_since (wbuf.initPdu cmd.service cmd.opcode)
    (fail_since _) fun filled => ?_
  exact (registrySend_since filled).bind fun _ => leads_pure (fun _ hs => hs) _

theorem unregisterModule_since (cmd : Pdu) :
    Preserves (Since base) (Registry.unregisterModule w services cmd) := by
  unfold Registry.unregisterModule
  split
  · exact preserves_pure _ _
  next service _ _ =>
  refine (creates_createPduWbuf _ _ _ _).bind (preserves_pure _ _) fun wbuf => ?_
  refine .ite (fail_since wbuf) ?_
  cases services.unregister service with
  | none => exact fail_since wbuf
  | some unregister =>
  refine Leads.bind (holds_of_keeps (keeps_pdus_onDtv _)) fun result => .ite (fail_since wbuf) ?_
  refine Leads.bind (Q := Holds base wbuf) (holds_of_keeps (keeps_modify fun _ => rfl)) fun _ => ?_
  exact (registrySend_since (wbuf.initPdu cmd.service cmd.opcode)).bind fun _ =>
    leads_pure (fun _ hs => hs) _

theorem registryHandler_since (cmd : Pdu) : Preserves (Since base) (Registry.registryHandler w services cmd) :=
  Registry.registryHandler_rule (preserves_pure _ _) (registerModule_since cmd) (unregisterModule_since cmd)

theorem serve_since (s : Daemon) (cmd : Pdu) : Preserves (Since base) (Io.serve w services s cmd) :=
  Io.serve_rule (preserves_pure _ _) (registryHandler_since cmd) (dtvHandler_since cmd) s

/-- The error reply is queued, and is consumed by the queue. -/
theorem sendErrorReply_since (service error : UInt8) :
    Preserves (Since base) (Io.sendErrorReply w service error) := by
  refine (creates_createPduWbuf _ _ _ _).bind (preserves_throw _ _) fun wbuf => ?_
  have hsent (wbuf : Wbuf) : Preserves (Since base)
      (do let res ← onIo (ioStateSend w.fdio wbuf); if res.toInt < 0 then Exec.throw .abort) :=
    (since_of_keeps (keeps_pdus_onIo _)).bind fun res => .ite (preserves_throw _ _) (preserves_pure _ _)
  refine (Proper.args _ _).bind_since (wbuf.initPdu service DtvIo.opcodeError)
    (fun s hs => hsent _ s hs.1) fun filled s hs => hsent _ s hs.1

/-- A command consumes only buffers that it creates. -/
theorem handlePdu_since (cmd : Pdu) : Preserves (Since base) (Io.handlePdu w services cmd) := by
  refine (since_of_keeps (keeps_pdus_onIo _)).bind fun _ => (preserves_get _).bind fun s => ?_
  refine (serve_since s cmd).bind fun status => ?_
  exact .ite ((sendErrorReply_since _ _).bind fun _ => preserves_pure _ _) (preserves_pure _ _)

end

/-! ### Steps -/

/-- The numbers of the buffers that wait in tasks. -/
def Daemon.waiting (s : Daemon) : List ℕ := s.tasks.map Wbuf.id

/-- Nothing is consumed that was not created, and the buffers in tasks are different
ones that were created. -/
structure Daemon.Counted (s : Daemon) : Prop where
  numbered : Numbered PduOp.consumed s.pdus
  distinct : s.waiting.Nodup
  created : ∀ id ∈ s.waiting, id < s.pdus.length

/-- The buffer waits in a task and was not consumed, or it was passed to the send
callback once or destroyed once, and not both. -/
structure Accounted (id : ℕ) (s : Daemon) : Prop where
  waits : id ∈ s.waiting → s.pdus.count (.send id) = 0 ∧ s.pdus.count (.destroy id) = 0
  consumed : id ∉ s.waiting →
    s.pdus.count (.send id) = 1 ∧ s.pdus.count (.destroy id) = 0 ∨
      s.pdus.count (.send id) = 0 ∧ s.pdus.count (.destroy id) = 1

theorem accounted_iff {id : ℕ} {s : Daemon} :
    Accounted id s ↔ spent PduOp.consumed id s.pdus = if id ∈ s.waiting then 0 else 1 := by
  rw [spent_eq_count]
  constructor
  · intro h
    split
    · next hwaits =>
      have hnone := h.waits hwaits
      omega
    · next hgone =>
      have hone := h.consumed hgone
      omega
  · intro h
    refine ⟨fun hwaits => ?_, fun hgone => ?_⟩
    · rw [if_pos hwaits] at h
      omega
    · rw [if_neg hgone] at h
      omega

section

variable {s t v : Daemon} {input : Input} {id : ℕ}

/-- New tasks are for buffers that were created since. -/
theorem Daemon.Counted.since (hs : s.Counted) (hsince : Since s.pdus v) (more : List Wbuf)
    (htasks : v.tasks = s.tasks ++ more) (hdistinct : (more.map Wbuf.id).Nodup)
    (hmore : ∀ id ∈ more.map Wbuf.id, s.pdus.length ≤ id ∧ id < v.pdus.length) :
    v.Counted ∧ s.pdus.length ≤ v.pdus.length ∧
      ∀ id < s.pdus.length, Accounted id v ↔ Accounted id s := by
  have hwaiting : v.waiting = s.waiting ++ more.map Wbuf.id := by
    rw [Daemon.waiting, htasks, List.map_append, Daemon.waiting]
  refine ⟨⟨hsince.numbered, ?_, fun id hid => ?_⟩, hsince.length, fun id hid => ?_⟩
  · rw [hwaiting, List.nodup_append]
    refine ⟨hs.distinct, hdistinct, fun id hid other hother heq => ?_⟩
    have hlt := hs.created id hid
    have hge := (hmore other hother).1
    omega
  · rw [hwaiting] at hid
    rcases List.mem_append.mp hid with hid | hid
    · exact Nat.lt_of_lt_of_le (hs.created id hid) hsince.length
    · exact (hmore id hid).2
  · have hmem : id ∈ v.waiting ↔ id ∈ s.waiting := by
      rw [hwaiting, List.mem_append]
      refine or_iff_left fun hnew => ?_
      have hge := (hmore id hnew).1
      omega
    rw [accounted_iff, accounted_iff, hsince.old id hid]
    simp only [hmem]

theorem Daemon.Counted.since_same (hs : s.Counted) (hsince : Since s.pdus v) (htasks : v.tasks = s.tasks) :
    v.Counted ∧ s.pdus.length ≤ v.pdus.length ∧
      ∀ id < s.pdus.length, Accounted id v ↔ Accounted id s := by
  refine hs.since hsince [] (by rw [htasks, List.append_nil]) List.nodup_nil ?_
  intro id hid
  cases hid

/-- A notification that was queued or not consumes only its own buffer. -/
theorem Notified.since (hs : Numbered PduOp.consumed s.pdus) (h : Notified s v) : Since s.pdus v := by
  have hbase : Continues PduOp.consumed s.pdus s.pdus := .refl hs
  have hfilled (capacity : ℕ) (oks : List Bool) :
      Continues PduOp.consumed s.pdus (filledLog capacity oks s.pdus) := by
    refine Continues.append (hbase.keep rfl) fun op hop => ?_
    obtain ⟨ok, -, rfl⟩ := List.mem_map.mp hop
    rfl
  have hlength (capacity : ℕ) (oks : List Bool) :
      s.pdus.length < (filledLog capacity oks s.pdus).length := by
    rw [filledLog, List.length_append, List.length_cons]
    omega
  cases h with
  | ignored => exact hbase
  | noMemory capacity => exact hbase.keep rfl
  | unfilled capacity oks => exact (hfilled capacity oks).spend rfl le_rfl (hlength capacity oks)
  | rejected capacity oks result =>
    exact ((hfilled capacity oks).keep rfl).spend rfl le_rfl (Nat.lt_succ_of_lt (hlength capacity oks))
  | queued capacity oks result wbuf => exact (hfilled capacity oks).keep rfl

theorem Notified.counted (hs : s.Counted) (h : Notified s v) :
    v.Counted ∧ s.pdus.length ≤ v.pdus.length ∧
      ∀ id < s.pdus.length, Accounted id v ↔ Accounted id s := by
  have hsince := h.since hs.numbered
  cases h with
  | ignored | noMemory | unfilled | rejected => exact hs.since_same hsince rfl
  | queued capacity oks result wbuf hid =>
    refine hs.since hsince [wbuf] rfl (by simp) fun id hnew => ?_
    rw [List.map_singleton, List.mem_singleton, hid] at hnew
    subst hnew
    refine ⟨le_rfl, ?_⟩
    rw [List.length_cons, filledLog, List.length_append, List.length_cons]
    omega

theorem mem_eraseIdx_iff {α : Type} {l : List α} (hl : l.Nodup) {idx : ℕ} {a : α}
    (ha : l[idx]? = some a) (b : α) : b ∈ l.eraseIdx idx ↔ b ∈ l ∧ b ≠ a := by
  rw [List.mem_eraseIdx_iff_getElem?]
  constructor
  · rintro ⟨i, hi, hb⟩
    refine ⟨List.mem_of_getElem? hb, ?_⟩
    rintro rfl
    obtain ⟨hlt, -⟩ := List.getElem?_eq_some_iff.mp hb
    exact hi ((List.getElem?_inj hlt hl).mp (hb.trans ha.symm))
  · rintro ⟨hmem, hne⟩
    obtain ⟨i, hb⟩ := List.getElem?_of_mem hmem
    refine ⟨i, ?_, hb⟩
    rintro rfl
    exact hne (Option.some_inj.mp (hb.symm.trans ha))

/-- A buffer is taken off the queue, and may be sent. -/
theorem Daemon.Counted.take (hs : s.Counted) {idx n : ℕ} (hn : s.waiting[idx]? = some n)
    (hwaiting : v.waiting = s.waiting.eraseIdx idx)
    (hpdus : v.pdus = s.pdus ∨ v.pdus = .send n :: s.pdus) :
    v.Counted ∧ s.pdus.length ≤ v.pdus.length ∧
      ∀ id, Accounted id s → (Accounted id v ↔ id = n → v.pdus = .send n :: s.pdus) := by
  have hcreated := hs.created n (List.mem_of_getElem? hn)
  refine ⟨⟨?_, ?_, fun id hid => ?_⟩, ?_, fun id hid => ?_⟩
  · rcases hpdus with hpdus | hpdus
    · rw [hpdus]
      exact hs.numbered
    · rw [hpdus]
      refine hs.numbered.cons fun m hm => ?_
      cases hm
      exact hcreated
  · rw [hwaiting]
    exact hs.distinct.eraseIdx idx
  · rw [hwaiting] at hid
    have hlt := hs.created id (List.mem_of_mem_eraseIdx hid)
    rcases hpdus with hpdus | hpdus
    · rwa [hpdus]
    · rw [hpdus]
      exact Nat.lt_succ_of_lt hlt
  · rcases hpdus with hpdus | hpdus
    · rw [hpdus]
    · rw [hpdus]
      exact Nat.le_succ _
  have hmem : id ∈ v.waiting ↔ id ∈ s.waiting ∧ id ≠ n := by
    rw [hwaiting]
    exact mem_eraseIdx_iff hs.distinct hn id
  have hsend : (PduOp.send n).consumed = some n := rfl
  rw [accounted_iff] at hid ⊢
  by_cases hsame : id = n
  · subst hsame
    rw [if_pos (List.mem_of_getElem? hn)] at hid
    rw [if_neg fun h => (hmem.mp h).2 rfl]
    rcases hpdus with hpdus | hpdus
    · rw [hpdus, hid]
      refine iff_of_false (by decide) fun h => ?_
      exact absurd (congrArg List.length (h rfl)) (by simp)
    · rw [hpdus, spent_cons_self hsend, hid]
      exact iff_of_true rfl fun _ => rfl
  · have hwaits : id ∈ v.waiting ↔ id ∈ s.waiting := hmem.trans (and_iff_left hsame)
    simp only [hwaits]
    refine iff_of_true ?_ fun h => absurd h hsame
    rcases hpdus with hpdus | hpdus
    · rw [hpdus, hid]
    · have hother : (PduOp.send n).consumed ≠ some id := by
        rw [hsend]
        exact fun h => hsame (Option.some_inj.mp h).symm
      rw [hpdus, spent_cons_of_ne hother, hid]

/-- The step runs the task of the buffer. -/
def RunsTaskOf (id : ℕ) (s : Daemon) (input : Input) : Prop :=
  ∃ idx, input = .task idx ∧ s.waiting[idx]? = some id

/-- A task takes its buffer off the queue and, while the service can send, passes it
to the send callback. -/
theorem runTask_counted (hs : s.Counted) {idx : ℕ} {result : IoResult}
    (hrun : Daemon.runTask w idx s = .ok (result, v)) :
    v.Counted ∧ s.pdus.length ≤ v.pdus.length ∧ ∀ id, Accounted id s →
      (Accounted id v ↔ RunsTaskOf id s (.task idx) → s.dtv.sendPdu ≠ none) := by
  rw [Daemon.runTask, get_bind_apply] at hrun
  cases htask : s.tasks[idx]? with
  | none =>
    rw [htask] at hrun
    cases hrun
    refine ⟨hs, le_rfl, fun id hid => iff_of_true hid ?_⟩
    rintro ⟨_, hidx, hother⟩
    cases hidx
    rw [Daemon.waiting, List.getElem?_map, htask] at hother
    cases hother
  | some wbuf =>
  have hn : s.waiting[idx]? = some wbuf.id := by
    rw [Daemon.waiting, List.getElem?_map, htask, Option.map_some]
  have hwaiting : Daemon.waiting { s with tasks := s.tasks.eraseIdx idx } = s.waiting.eraseIdx idx := by
    unfold Daemon.waiting
    dsimp only
    rw [List.eraseIdx_eq_take_drop_succ, List.map_append, List.map_take, List.map_drop,
      ← List.eraseIdx_eq_take_drop_succ]
  have hruns (id : ℕ) : RunsTaskOf id s (.task idx) ↔ id = wbuf.id := by
    constructor
    · rintro ⟨_, hidx, hother⟩
      cases hidx
      exact Option.some_inj.mp (hother.symm.trans hn)
    · rintro rfl
      exact ⟨idx, rfl, hn⟩
  rw [htask] at hrun
  dsimp only at hrun
  rw [modify_bind_apply, DtvIo.sendNtfPdu, get_bind_apply] at hrun
  cases hsend : s.dtv.sendPdu with
  | none =>
    rw [hsend] at hrun
    cases hrun
    obtain ⟨hcounted, hlength, hall⟩ := hs.take hn hwaiting (.inl rfl)
    refine ⟨hcounted, hlength, fun id hid => (hall id hid).trans ?_⟩
    rw [hruns]
    refine imp_congr_right fun _ => iff_of_false (fun h => ?_) fun h => h rfl
    exact absurd (congrArg List.length h) (by simp)
  | some cb =>
    rw [hsend] at hrun
    have hsent : v.pdus = .send wbuf.id :: s.pdus ∧ v.tasks = s.tasks.eraseIdx idx := by
      obtain ⟨_, u, hcall, hpure⟩ := bind_eq_ok.mp hrun
      cases hpure
      rw [DtvIo.sendPdu, get_bind_apply, hsend] at hcall
      exact call_sends wbuf cb _ _ _ hcall
    obtain ⟨hcounted, hlength, hall⟩ := hs.take hn (v := v)
      (by rw [← hwaiting, Daemon.waiting, hsent.2, Daemon.waiting]) (.inr hsent.1)
    refine ⟨hcounted, hlength, fun id hid => (hall id hid).trans ?_⟩
    exact iff_of_true (fun _ => hsent.1) fun _ => Option.some_ne_none _

theorem Effect.counted (hs : s.Counted) (hinput : ∀ idx, input ≠ .task idx)
    (h : Effect w s input v) :
    v.Counted ∧ s.pdus.length ≤ v.pdus.length ∧
      ∀ id < s.pdus.length, Accounted id v ↔ Accounted id s := by
  have hbase : Since s.pdus s := .refl hs.numbered
  cases h with
  | idle => exact hs.since_same hbase rfl
  | event event _ hrun =>
    obtain ⟨_, env, -, heq⟩ := zoom_eq_ok.mp hrun
    cases heq
    exact hs.since_same hbase rfl
  | notified _ hv => exact hv.counted hs
  | task idx htask => exact absurd htask (hinput idx)
  | @command cmd u _ _ hu hrun =>
    have hsince : Since s.pdus u := by
      rw [hu.2]
      exact hbase
    obtain ⟨_, _, _, hpass, _⟩ := handlePdu_replies cmd u _ _ hrun
    obtain ⟨-, -, htasks⟩ := Daemon.logged_passes hpass
    have htasks₀ : u.tasks = s.tasks := by rw [hu.2]
    exact hs.since_same (handlePdu_since cmd u hsince _ _ hrun) (htasks.trans htasks₀)

theorem Daemon.Counted.settles (hv : v.Counted) (h : v.Settles t) : t.Counted := by
  rw [h.2]
  exact ⟨hv.numbered, hv.distinct, hv.created⟩

theorem accounted_settles (h : v.Settles t) : Accounted id t ↔ Accounted id v := by
  rw [h.2, accounted_iff, accounted_iff]
  rfl

/-- What a step does to a buffer that is accounted for. -/
theorem Daemon.Counted.step (hs : s.Counted) (hstep : Daemon.Step w s input t) :
    t.Counted ∧ s.pdus.length ≤ t.pdus.length ∧ ∀ id < s.pdus.length, Accounted id s →
      (Accounted id t ↔ RunsTaskOf id s input → s.dtv.sendPdu ≠ none) := by
  have hpdus (v : Daemon) (h : v.Settles t) : t.pdus = v.pdus := by rw [h.2]
  by_cases htask : ∃ idx, input = .task idx
  · obtain ⟨idx, rfl⟩ := htask
    obtain ⟨result, v, hrun, ht⟩ := hstep.callback
    have hsettles : v.Settles t := ⟨by rw [ht], by rw [ht]⟩
    obtain ⟨hv, hlength, hall⟩ := runTask_counted hs hrun
    rw [← hpdus v hsettles] at hlength
    exact ⟨hv.settles hsettles, hlength, fun id _ hid => (accounted_settles hsettles).trans (hall id hid)⟩
  · obtain ⟨v, heffect, hsettles⟩ := hstep.effective
    obtain ⟨hv, hlength, hall⟩ := heffect.counted hs fun idx h => htask ⟨idx, h⟩
    rw [← hpdus v hsettles] at hlength
    refine ⟨hv.settles hsettles, hlength, fun id hcreated hid => ?_⟩
    rw [accounted_settles hsettles, hall id hcreated]
    exact iff_of_true hid fun ⟨idx, h, _⟩ => absurd ⟨idx, h⟩ htask

theorem Daemon.Connected.counted {s : Daemon} (h : Daemon.Connected w s) : s.Counted := by
  have hpdus : s.pdus = [] := by
    obtain ⟨fd, rbuf, result, -, -, rfl⟩ := h.eq
    rfl
  have htasks : s.tasks = [] := congrArg Prod.snd h.traffic
  refine ⟨?_, ?_, ?_⟩
  · rw [hpdus]
    exact numbered_nil
  · rw [Daemon.waiting, htasks]
    exact List.nodup_nil
  · rw [Daemon.waiting, htasks]
    intro id hid
    cases hid

theorem Daemon.Reachable.counted {s : Daemon} (h : Daemon.Reachable w s) : s.Counted := by
  obtain ⟨s₀, hs₀, hreach⟩ := h
  exact hreach.invariant (fun a input b hstep ha => (ha.step hstep).1) hs₀.counted

/-- The step creates the buffer. -/
def CreatesBuffer (x : Transition Daemon Input) (id : ℕ) : Prop :=
  id = x.before.pdus.length ∧
    ∃ ops capacity, x.after.pdus = ops ++ .create capacity 0 true :: x.before.pdus

/-- A buffer that a callback created is accounted for once the callback returned. -/
theorem accounted_created (hs : s.Counted) (hinput : input.IsNotify)
    (hstep : Daemon.Step w s input t) (hcreates : CreatesBuffer ⟨s, input, t⟩ id) :
    Accounted id t := by
  obtain ⟨result, v, hrun, ht⟩ := hstep.callback
  have hsettles : v.Settles t := ⟨by rw [ht], by rw [ht]⟩
  obtain ⟨-, hv⟩ := callback_notified hinput s _ _ hrun
  obtain ⟨rfl, ops, capacity, hpdus⟩ := hcreates
  have hpdus : v.pdus = ops ++ .create capacity 0 true :: s.pdus := by
    rw [← hpdus, ht]
  have hunspent : spent PduOp.consumed s.pdus.length s.pdus = 0 := hs.numbered _ le_rfl
  have hnew : s.pdus.length ∉ s.waiting := fun h => absurd (hs.created _ h) (Nat.lt_irrefl _)
  have hfilled (capacity : ℕ) (oks : List Bool) :
      spent PduOp.consumed s.pdus.length (filledLog capacity oks s.pdus) = 0 := by
    rw [filledLog, spent_append_of_none, spent_cons_of_ne (by simp [PduOp.consumed]), hunspent]
    intro op hop
    obtain ⟨ok, -, rfl⟩ := List.mem_map.mp hop
    rfl
  have hdestroy : (PduOp.destroy s.pdus.length).consumed = some s.pdus.length := rfl
  have hrunTask (result : Int32) :
      (PduOp.runTask s.pdus.length result).consumed ≠ some s.pdus.length := by
    simp [PduOp.consumed]
  rw [accounted_settles hsettles, accounted_iff]
  cases hv with
  | ignored =>
    have hlength := congrArg List.length hpdus
    rw [List.length_append, List.length_cons] at hlength
    omega
  | noMemory other =>
    have hone : [PduOp.create other 0 false] ++ s.pdus = (ops ++ [.create capacity 0 true]) ++ s.pdus := by
      rw [List.append_assoc]
      exact hpdus
    have hlast := List.append_cancel_right hone
    rw [List.singleton_eq_append_iff] at hlast
    simp at hlast
  | unfilled =>
    refine Eq.trans ?_ (if_neg hnew).symm
    rw [spent_cons_self hdestroy, hfilled]
  | rejected =>
    refine Eq.trans ?_ (if_neg hnew).symm
    rw [spent_cons_self hdestroy, spent_cons_of_ne (hrunTask _), hfilled]
  | queued capacity oks result wbuf hid =>
    rw [if_pos, spent_cons_of_ne (hrunTask _), hfilled]
    rw [Daemon.waiting, List.map_append, List.map_singleton, hid]
    exact List.mem_append_right _ List.mem_cons_self

/-- A notification's buffer waits in its task until it is passed to the send callback
or destroyed, once, in all states of a run if and only if its task finds the service
registered. -/
theorem notification_consumed_iff (hreach : Daemon.Reachable w s) (hinput : input.IsNotify)
    (hstep : Daemon.Step w s input t) (hcreates : CreatesBuffer ⟨s, input, t⟩ id)
    {l : List (Transition Daemon Input)} {u : Daemon} (hrun : Run (Daemon.Step w) t l u) :
    (∀ x ∈ ⟨s, input, t⟩ :: l, Accounted id x.after) ↔
      ∀ x ∈ l, RunsTaskOf id x.before x.label → x.before.dtv.sendPdu ≠ none := by
  have hcreated : id < t.pdus.length := by
    obtain ⟨rfl, ops, capacity, hpdus⟩ := hcreates
    have hpdus : t.pdus = ops ++ .create capacity 0 true :: s.pdus := hpdus
    rw [hpdus, List.length_append, List.length_cons]
    exact Nat.lt_add_left _ (Nat.lt_succ_self _)
  have hs := hreach.counted
  have ht := accounted_created hs hinput hstep hcreates
  rw [List.forall_mem_cons]
  refine (and_iff_right ht).trans ?_
  have hcounted : ∀ a input b, Daemon.Step w a input b → a.Counted ∧ id < a.pdus.length →
      b.Counted ∧ id < b.pdus.length := by
    intro a input b hstep ⟨ha, hlt⟩
    exact ⟨(ha.step hstep).1, hlt.trans_le (ha.step hstep).2.1⟩
  have hconsumed : ∀ a input b, Daemon.Step w a input b → a.Counted ∧ id < a.pdus.length →
      Accounted id a → (Accounted id b ↔ (RunsTaskOf id a input → a.dtv.sendPdu ≠ none)) :=
    fun a input b hstep ⟨ha, hlt⟩ hgood => (ha.step hstep).2.2 id hlt hgood
  exact hrun.good_iff hcounted hconsumed ⟨(hs.step hstep).1, hcreated⟩ ht

/-- A world in which everything behaves well. -/
def World.steady : World := .withUninit tvStatusSuccess

theorem steady_scanned : UnregistersScanned .steady := unregistersScanned_withUninit (.inl rfl)

theorem scanned_createsBuffer : CreatesBuffer ⟨registered .steady, scanComplete, scanned .steady⟩
    (registered .steady).pdus.length := by
  refine ⟨rfl, [.runTask (registered .steady).pdus.length 0, .append true], 3, ?_⟩
  decide +kernel

theorem scanComplete_isNotify : scanComplete.IsNotify := trivial

/-- The task of the notification runs while the service is registered. -/
theorem notification_consumed_steady :
    Accounted (registered .steady).pdus.length ((scanned .steady).next .steady (.task 0)) := by
  have htask : Daemon.Step .steady (scanned .steady) (.task 0) ((scanned .steady).next .steady (.task 0)) :=
    Daemon.Takes.step (by decide +kernel)
  have hsend : (scanned .steady).dtv.sendPdu ≠ none := by decide +kernel
  have hall := (notification_consumed_iff steady_scanned.start scanComplete_isNotify
    steady_scanned.notify scanned_createsBuffer (.single htask)).mpr ?_
  · rw [List.forall_mem_cons, List.forall_mem_singleton] at hall
    dsimp only at hall
    exact hall.2
  · rw [List.forall_mem_singleton]
    exact fun _ => hsend

/-- The service is unregistered while the task of a notification is queued: its
buffer is neither sent nor destroyed. -/
theorem notification_not_consumed : ¬∀ (w : World) (s t u : Daemon) (input : Input) (id : ℕ)
    (l : List (Transition Daemon Input)), Daemon.Reachable w s → input.IsNotify →
    Daemon.Step w s input t → CreatesBuffer ⟨s, input, t⟩ id → Run (Daemon.Step w) t l u →
    ∀ x ∈ ⟨s, input, t⟩ :: l, Accounted id x.after := by
  intro hall
  have haccounted := hall .steady _ _ _ scanComplete _ _ steady_scanned.start scanComplete_isNotify
    steady_scanned.notify scanned_createsBuffer
    steady_scanned.run (taskStep .steady)
    (List.mem_cons_of_mem _ (List.mem_cons_of_mem _ List.mem_cons_self))
  have hgone : (registered .steady).pdus.length ∉ (taskStep .steady).after.waiting := by decide +kernel
  rcases haccounted.consumed hgone with ⟨hsent, -⟩ | ⟨-, hdestroyed⟩
  · exact absurd hsent (by decide +kernel)
  · exact absurd hdestroyed (by decide +kernel)

end

end Tvd

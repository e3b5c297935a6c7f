import Tvd.Service.Answers

/-! The callbacks that turn events of the DTV interface into notifications. Each
does nothing, or creates one buffer; the buffer is destroyed when an append or the
queueing of the task fails, and is queued otherwise. With that, a property that
looks at the connection only for its traffic holds after a step once it is shown for
events, notifications, tasks and commands. -/

namespace Tvd

open Exec

def notificationOpcodes : List UInt8 :=
  [DtvIo.opcodeChannelScanned, DtvIo.opcodeScannedComplete, DtvIo.opcodeScanStopped,
    DtvIo.opcodeEitBroadcasted]

/-- The log of a buffer that was created and filled. -/
def filledLog (capacity : ℕ) (oks : List Bool) (log : List PduOp) : List PduOp :=
  oks.map .append ++ .create capacity 0 true :: log

/-- What a notification callback may do to the daemon. -/
inductive Notified (s : Daemon) : Daemon → Prop
  | ignored : Notified s s
  | noMemory (capacity : ℕ) :
      Notified s { s with pdus := .create capacity 0 false :: s.pdus }
  | unfilled (capacity : ℕ) (oks : List Bool) :
      Notified s { s with pdus := .destroy s.pdus.length :: filledLog capacity oks s.pdus }
  | rejected (capacity : ℕ) (oks : List Bool) (result : Int32) :
      Notified s { s with
        pdus := .destroy s.pdus.length :: .runTask s.pdus.length result ::
          filledLog capacity oks s.pdus }
  | queued (capacity : ℕ) (oks : List Bool) (result : Int32) (wbuf : Wbuf)
      (hid : wbuf.id = s.pdus.length) (hservice : wbuf.pdu.service = serviceDtv)
      (hopcode : wbuf.pdu.opcode ∈ notificationOpcodes) :
      Notified s { s with
        pdus := .runTask s.pdus.length result :: filledLog capacity oks s.pdus
        tasks := s.tasks ++ [wbuf] }

variable {w : World}

namespace DtvIo

theorem notify_notified {opcode : UInt8} (hopcode : opcode ∈ notificationOpcodes) (capacity : ℤ)
    {fill : Fill} (hfill : Proper fill) (s : Daemon) :
    Ensures (notify w opcode capacity fill) s fun _ t => Notified s t := by
  unfold notify
  rw [ensures_bind, ensures_zoom]
  refine (createPduWbuf_ensures _ _ _ _).mono ?_
  rintro _ _ (⟨-, rfl, rfl⟩ | ⟨-, rfl, rfl⟩)
  · exact ensures_pure.mpr (.noMemory _)
  dsimp only
  rw [ensures_bind, ensures_zoom]
  generalize hwbuf : Wbuf.initPdu ⟨s.pdus.length, _, 0, false, none, ⟨0, 0, []⟩⟩ serviceDtv opcode = wbuf
  have hfilled : Ensures (fill wbuf) (.create (w.platform.sizeT capacity) 0 true :: s.pdus)
      fun r log => (∀ filled, r = some filled → filled.id = wbuf.id ∧
        filled.pdu.service = wbuf.pdu.service ∧ filled.pdu.opcode = wbuf.pdu.opcode) ∧
        ∃ oks : List Bool, log = oks.map PduOp.append ++
          .create (w.platform.sizeT capacity) 0 true :: s.pdus :=
    (hfill.same _ _).and (hfill.appends _ _ _ ⟨[], rfl⟩)
  subst hwbuf
  refine hfilled.mono ?_
  rintro filled _ ⟨hsame, oks, rfl⟩
  cases filled with
  | none => exact ensures_zoom.mpr (ensures_modify.mpr (.unfilled _ oks))
  | some wbuf =>
    obtain ⟨hid, hservice, hheader⟩ := hsame wbuf rfl
    have hid' : wbuf.id = s.pdus.length := hid
    have hopcode' : wbuf.pdu.opcode = opcode := hheader
    dsimp only
    rw [ensures_bind, ensures_get, ensures_bind]
    refine ensures_zoom.mpr (ensures_modify.mpr (ensures_ite.mpr ⟨fun _ => ?_, fun _ => ?_⟩))
    · refine ensures_zoom.mpr (ensures_modify.mpr ?_)
      rw [hid']
      exact .rejected _ oks _
    · rw [hid']
      exact ensures_modify.mpr (.queued _ oks _ wbuf hid' hservice (hopcode' ▸ hopcode))

theorem channelUpdateNfyCb_notified (chStatus : UInt8) (tunerId : Option CString) (sourceType : UInt8)
    (ch : Option TvChannel) (s : Daemon) :
    Ensures (channelUpdateNfyCb w chStatus tunerId sourceType ch) s fun _ t => Notified s t := by
  unfold channelUpdateNfyCb
  refine ensures_ite.mpr ⟨fun _ => ?_, fun _ => ensures_pure.mpr .ignored⟩
  cases tunerId with
  | none => exact ensures_pure.mpr .ignored
  | some tunerId =>
    refine ensures_bind.mpr (ensures_lift.mpr fun size _ => ?_)
    exact notify_notified (by decide) _ (.seq (.args _ _) (proper_appendChannel ch)) s

theorem scanEnded_notified {opcode : UInt8} (hopcode : opcode ∈ notificationOpcodes)
    (tunerId : Option CString) (sourceType : UInt8) (s : Daemon) :
    Ensures (scanEnded w opcode tunerId sourceType) s fun _ t => Notified s t := by
  cases tunerId with
  | none => exact ensures_pure.mpr .ignored
  | some tunerId => exact notify_notified hopcode _ (.args _ _) s

theorem scanStatusNfyCb_notified (scanStatus : UInt8) (tunerId : Option CString) (sourceType : UInt8)
    (s : Daemon) :
    Ensures (scanStatusNfyCb w scanStatus tunerId sourceType) s fun _ t => Notified s t := by
  unfold scanStatusNfyCb
  refine ensures_ite.mpr ⟨fun _ => scanEnded_notified (by decide) _ _ s, fun _ => ?_⟩
  refine ensures_ite.mpr ⟨fun _ => scanEnded_notified (by decide) _ _ s, fun _ => ?_⟩
  exact ensures_pure.mpr .ignored

theorem eventNfyCb_notified (tunerId : Option CString) (sourceType : UInt8) (ch : Option TvChannel)
    (progNum : UInt32) (progs : Option (Records TvProgram)) (s : Daemon) :
    Ensures (eventNfyCb w tunerId sourceType ch progNum progs) s fun _ t => Notified s t := by
  cases tunerId with
  | none => exact ensures_pure.mpr .ignored
  | some tunerId =>
    refine ensures_bind.mpr (ensures_lift.mpr fun progSize _ => ?_)
    refine ensures_bind.mpr (ensures_lift.mpr fun chSize _ => ?_)
    exact notify_notified (by decide) _ (.seq (.args _ _) (.seq (proper_appendChannel ch)
      (proper_appendRecords _ proper_appendProgram _ _))) s

end DtvIo

/-- The inputs that are notification callbacks. -/
def Input.IsNotify : Input → Prop
  | .channelUpdate .. | .scanStatus .. | .eventNfy .. => True
  | .halEvent .. | .task .. | .readable .. | .writable | .err | .hup => False

theorem callback_notified {input : Input} (h : input.IsNotify) (s : Daemon) :
    Ensures (Daemon.callback w input) s fun result t => result = .ok ∧ Notified s t := by
  have hok {m : DaemonM Unit} (hm : Ensures m s fun _ t => Notified s t) :
      Ensures (do m; return IoResult.ok) s fun result t => result = .ok ∧ Notified s t := by
    rw [ensures_bind]
    exact hm.mono fun _ t ht => ensures_pure.mpr ⟨rfl, ht⟩
  cases input with
  | channelUpdate => exact hok (DtvIo.channelUpdateNfyCb_notified _ _ _ _ s)
  | scanStatus => exact hok (DtvIo.scanStatusNfyCb_notified _ _ _ s)
  | eventNfy => exact hok (DtvIo.eventNfyCb_notified _ _ _ _ _ s)
  | halEvent | task | readable | writable | err | hup => exact h.elim

/-! ### Steps -/

/-- The same daemon, up to what its connection did besides its traffic. -/
def Daemon.Resumes (s u : Daemon) : Prop := u.io.traffic = s.io.traffic ∧ u = { s with io := u.io }

/-- The same, and the loop may have been left. -/
def Daemon.Settles (s t : Daemon) : Prop :=
  t.io.traffic = s.io.traffic ∧ t = { s with io := t.io, running := t.running }

/-- What an input may do to the daemon, up to what does not count as traffic. -/
inductive Effect (w : World) (s : Daemon) (input : Input) : Daemon → Prop
  | idle : Effect w s input s
  | event (event : TvInputEvent) (hinput : input = .halEvent event) {t : Daemon}
      (hrun : onEnv (onHal (deviceInitNotify w.driver event)) s = .ok ((), t)) : Effect w s input t
  | notified (hinput : input.IsNotify) {t : Daemon} (ht : Notified s t) : Effect w s input t
  | task (idx : ℕ) (hinput : input = .task idx) {result : IoResult} {t : Daemon}
      (hrun : Daemon.runTask w idx s = .ok (result, t)) : Effect w s input t
  | command (cmd : Pdu) {u t : Daemon} {res : Int32} (hu : s.Resumes u)
      (hrun : Io.handlePdu w (.inTree w) cmd u = .ok (res, t)) : Effect w s input t

section

variable {s t u : Daemon} {input : Input}

theorem Daemon.Resumes.io (hu : s.Resumes u) {io : IoState} (htraffic : io.traffic = u.io.traffic) :
    s.Resumes { u with io } := by
  obtain ⟨hsame, heq⟩ := hu
  exact ⟨htraffic.trans hsame, by rw [heq]⟩

theorem Daemon.Settles.io (ht : s.Settles t) {io : IoState} (htraffic : io.traffic = t.io.traffic) :
    s.Settles { t with io } := by
  obtain ⟨hsame, heq⟩ := ht
  exact ⟨htraffic.trans hsame, by rw [heq]⟩

theorem Daemon.Settles.refl (s : Daemon) : s.Settles s := ⟨rfl, rfl⟩

theorem Daemon.Resumes.settles (hu : s.Resumes u) : s.Settles u := by
  obtain ⟨hsame, heq⟩ := hu
  exact ⟨hsame, by rw [heq]⟩

theorem preserves_onIo {α : Type} {P : Daemon → Prop}
    (hio : ∀ u io, io.traffic = (u : Daemon).io.traffic → P u → P { u with io }) {m : IoM α}
    (hm : Keeps IoState.traffic m) : Preserves P (onIo m) :=
  .zoom fun u hu => (hm u.io).mono fun _ io htraffic => hio u io htraffic hu

/-- The input had an effect, from which the daemon settled. -/
def Effective (w : World) (s : Daemon) (input : Input) (t : Daemon) : Prop :=
  ∃ v, Effect w s input v ∧ v.Settles t

theorem effective_io (u : Daemon) (io : IoState) (htraffic : io.traffic = u.io.traffic) :
    Effective w s input u → Effective w s input { u with io } :=
  fun ⟨v, heffect, hsettles⟩ => ⟨v, heffect, hsettles.io htraffic⟩

theorem fdIoIn_effective (packet : Option (List UInt8)) :
    Ensures (Io.fdIoIn w packet) s fun _ t => Effective w s input t := by
  have hio {α : Type} {m : IoM α} (hm : Keeps IoState.traffic m) : Preserves s.Resumes (onIo m) :=
    preserves_onIo (fun _ _ htraffic hu => hu.io htraffic) hm
  have hin : Leads s.Resumes (Effective w s input)
      (ioStateIn w.lib w.fdio Daemon.ioLens (Io.handlePdu w (.inTree w)) packet) :=
    ioStateIn_leads (fun u hu => ⟨s, .idle, hu.settles⟩) (fun _ => hio (keeps_traffic_logIo rfl rfl) _)
      (hio (keeps_traffic_stopWatching _)) (fun _ _ => hio (keeps_modify fun _ => rfl))
      (fun _ _ => preserves_onIo effective_io (keeps_modify fun _ => rfl))
      (fun cmd u hu res t hrun => ⟨t, .command cmd hu hrun, .refl t⟩) packet
  have hres : Leads s.Resumes (Effective w s input) (Io.fdIoIn w packet) :=
    hin.bind fun _ => .ite (preserves_pure _ _) (preserves_pure _ _)
  exact hres s ⟨rfl, rfl⟩

theorem callback_effective : Ensures (Daemon.callback w input) s fun _ t => Effective w s input t := by
  have hidle : Effective w s input s := ⟨s, .idle, .refl s⟩
  have hio {α : Type} {m : IoM α} (hm : Keeps IoState.traffic m) :
      Preserves (Effective w s input) (onIo m) := preserves_onIo effective_io hm
  have hnotify (hinput : input.IsNotify) :
      Ensures (Daemon.callback w input) s fun _ t => Effective w s input t :=
    (callback_notified hinput s).mono fun _ t ⟨_, ht⟩ => ⟨t, .notified hinput ht, .refl t⟩
  cases input with
  | halEvent event =>
    refine ensures_bind.mpr fun _ t hrun => ensures_pure.mpr ⟨t, .event event rfl hrun, .refl t⟩
  | channelUpdate | scanStatus | eventNfy => exact hnotify trivial
  | task idx => exact fun result t hrun => ⟨t, .task idx rfl hrun, .refl t⟩
  | readable packet => exact fdIoIn_effective packet
  | writable =>
    refine Preserves.bind (hio keeps_traffic_ioStateOut) (fun _ => ?_) s hidle
    exact .ite (preserves_pure _ _) (preserves_pure _ _)
  | err => exact Preserves.bind (hio keeps_traffic_closeConnection) (fun _ => preserves_pure _ _) s hidle
  | hup => exact Preserves.bind (hio keeps_traffic_closeConnection) (fun _ => preserves_pure _ _) s hidle

/-- A step is a callback, after which the loop may be left. -/
theorem Daemon.Step.callback (hstep : Daemon.Step w s input t) :
    ∃ result v, Daemon.callback w input s = .ok (result, v) ∧ t = { v with running := t.running } := by
  obtain ⟨-, -, hrun⟩ := hstep
  obtain ⟨result, v, hcallback, hrest⟩ := bind_eq_ok.mp hrun
  refine ⟨result, v, hcallback, ?_⟩
  split at hrest
  · cases hrest
    rfl
  · cases hrest
    rfl

/-- All that a step can do. -/
theorem Daemon.Step.effective (hstep : Daemon.Step w s input t) : Effective w s input t := by
  obtain ⟨result, u, hcallback, hu⟩ := hstep.callback
  obtain ⟨v, heffect, hsame, heq⟩ := callback_effective _ _ hcallback
  rw [hu]
  exact ⟨v, heffect, hsame, by rw [heq]⟩

end

end Tvd

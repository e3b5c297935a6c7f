import Tvd.Service.Control
import Tvd.Service.Streams

/-! The connection in the daemon. Everything that commands, notifications and tasks do
to the I/O state is to pass buffers to the send queue, so what sending and receiving
keep, the daemon keeps until the connection is closed. A hang-up leaves the loop; an
error closes the connection as well, but the loop goes on. -/

namespace Tvd

open Exec

variable {w : World} {α : Type}

/-! ### Invariants of the I/O state -/

/-- What passing a buffer to the send queue keeps. -/
def SendInvariant (w : World) (J : IoState → Prop) : Prop :=
  ∀ wbuf, Preserves J (ioStateSend w.fdio wbuf)

/-- What sending, receiving and the log keep. -/
structure IoInvariant (w : World) (J : IoState → Prop) : Prop where
  send : SendInvariant w J
  out : Preserves J (ioStateOut w.fdio)
  stop : Preserves J (stopWatching w.fdio epollIn)
  recv : ∀ s, J s → J { s with log := .recvmsg s.fd :: s.log }
  handle : ∀ s cmd, J s → J { s with log := .handlePdu cmd :: s.log }
  rbuf : ∀ s rbuf, (s.rbuf ≠ none → rbuf ≠ none) → J s → J { s with rbuf }

section

variable {J : IoState → Prop}

theorem preserves_io {m : IoM α} (h : Preserves J m) :
    Preserves (fun s : Daemon => J s.io) (onIo m) := .zoom fun s hs => h s.io hs

theorem keepsIo_onPdus (m : PduM α) : Preserves (fun s : Daemon => J s.io) (onPdus m) :=
  .zoom fun _ hs _ _ _ => hs

theorem keepsIo_onEnv (m : EnvM α) : Preserves (fun s : Daemon => J s.io) (onEnv m) :=
  .zoom fun _ hs _ _ _ => hs

theorem keepsIo_onDtv (m : DtvM α) : Preserves (fun s : Daemon => J s.io) (onDtv m) :=
  .zoom fun _ hs _ _ _ => hs

theorem keepsIo_destroyed (wbuf : Wbuf) (status : Int32) : Preserves (fun s : Daemon => J s.io)
    (do onPdus (destroyPduWbuf wbuf); return status) :=
  (keepsIo_onPdus _).bind fun _ => preserves_pure _ _

theorem keepsIo_notify (opcode : UInt8) (capacity : ℤ) (fill : DtvIo.Fill) :
    Preserves (fun s : Daemon => J s.io) (DtvIo.notify w opcode capacity fill) := by
  unfold DtvIo.notify
  refine (keepsIo_onPdus _).bind fun wbuf => ?_
  cases wbuf with
  | none => exact preserves_pure _ _
  | some wbuf =>
    refine (keepsIo_onPdus _).bind fun filled => ?_
    cases filled with
    | none => exact keepsIo_onPdus _
    | some wbuf =>
      refine (preserves_get _).bind fun s => (keepsIo_onPdus _).bind fun _ => .ite (keepsIo_onPdus _) ?_
      exact preserves_modify fun _ hs => hs

theorem keepsIo_scanEnded (opcode : UInt8) (tunerId : Option CString) (sourceType : UInt8) :
    Preserves (fun s : Daemon => J s.io) (DtvIo.scanEnded w opcode tunerId sourceType) := by
  cases tunerId with
  | none => exact preserves_pure _ _
  | some tunerId => exact keepsIo_notify _ _ _

theorem keepsIo_channelUpdateNfyCb (chStatus : UInt8) (tunerId : Option CString) (sourceType : UInt8)
    (ch : Option TvChannel) : Preserves (fun s : Daemon => J s.io)
      (DtvIo.channelUpdateNfyCb w chStatus tunerId sourceType ch) := by
  refine .ite ?_ (preserves_pure _ _)
  cases tunerId with
  | none => exact preserves_pure _ _
  | some tunerId => exact (preserves_lift _ _).bind fun _ => keepsIo_notify _ _ _

theorem keepsIo_eventNfyCb (tunerId : Option CString) (sourceType : UInt8) (ch : Option TvChannel)
    (progNum : UInt32) (progs : Option (Records TvProgram)) : Preserves (fun s : Daemon => J s.io)
      (DtvIo.eventNfyCb w tunerId sourceType ch progNum progs) := by
  cases tunerId with
  | none => exact preserves_pure _ _
  | some tunerId =>
    exact (preserves_lift _ _).bind fun _ => (preserves_lift _ _).bind fun _ => keepsIo_notify _ _ _

end

namespace SendInvariant

variable {J : IoState → Prop} (h : SendInvariant w J)

include h

theorem call (wbuf : Wbuf) (cb : Option SendPdu) :
    Preserves (fun s : Daemon => J s.io) (SendPdu.call w wbuf cb) := by
  cases cb with
  | none => exact preserves_throw _ _
  | some cb =>
    cases cb
    exact (keepsIo_onPdus _).bind fun _ => (preserves_io (h wbuf)).bind fun _ => preserves_pure _ _

theorem dtvSendPdu (wbuf : Wbuf) : Preserves (fun s : Daemon => J s.io) (DtvIo.sendPdu w wbuf) :=
  (preserves_get _).bind fun s => h.call wbuf s.dtv.sendPdu

theorem registrySendPdu (wbuf : Wbuf) :
    Preserves (fun s : Daemon => J s.io) (Registry.sendPdu w wbuf) :=
  (preserves_get _).bind fun s => h.call wbuf s.gSendPdu

theorem sendNtfPdu (wbuf : Wbuf) : Preserves (fun s : Daemon => J s.io) (DtvIo.sendNtfPdu w wbuf) := by
  refine (preserves_get _).bind fun s => .ite (preserves_pure _ _) ?_
  exact (h.dtvSendPdu wbuf).bind fun _ => preserves_pure _ _

theorem reply (cmd : Pdu) (wbuf : Option Wbuf) (fill : DtvIo.Fill) (release : List HeapOp) :
    Preserves (fun s : Daemon => J s.io) (DtvIo.reply w cmd wbuf fill release) := by
  cases wbuf with
  | none => exact preserves_pure _ _
  | some wbuf =>
    refine (keepsIo_onPdus _).bind fun filled => ?_
    cases filled with
    | none => exact (keepsIo_onEnv _).bind fun _ => keepsIo_destroyed _ _
    | some wbuf =>
      exact (h.dtvSendPdu wbuf).bind fun _ => (keepsIo_onEnv _).bind fun _ => preserves_pure _ _

theorem dtvHandler (cmd : Pdu) : Preserves (fun s : Daemon => J s.io) (DtvIo.dtvHandler w cmd) := by
  have hrules : HandlerRules w cmd (Preserves fun s : Daemon => J s.io) :=
    { api := fun _ hf => (keepsIo_onEnv _).bind hf
      heap := fun _ hf => (keepsIo_onEnv _).bind hf
      size := fun _ hf => (preserves_lift _ _).bind hf
      code := fun _ => preserves_pure _ _
      indeterminate := preserves_throw _ _
      reply := fun _ _ _ => (keepsIo_onPdus _).bind fun _ => h.reply _ _ _ _
      sourceReply := fun _ => (keepsIo_onPdus _).bind fun _ => h.reply _ _ _ _ }
  exact hrules.dtvHandler

theorem registryHandler (services : Services) (cmd : Pdu) :
    Preserves (fun s : Daemon => J s.io) (Registry.registryHandler w services cmd) := by
  have hrules : RegistryRules w services (Preserves fun s : Daemon => J s.io) :=
    { code := fun _ => preserves_pure _ _
      get := fun hf => (preserves_get _).bind hf
      create := fun _ hnone hf => (keepsIo_onPdus _).bind (forall_created hnone (preserves_pure _ _) hf)
      destroyed := fun _ _ => keepsIo_destroyed _ _
      register := fun _ _ hf => (keepsIo_onDtv _).bind hf
      unregister := fun _ hf => (keepsIo_onDtv _).bind hf
      setHandler := fun _ _ hf => Preserves.bind (preserves_modify fun _ hs => hs) fun _ => hf
      append := fun _ _ _ hf => (keepsIo_onPdus _).bind hf
      send := fun wbuf => (h.registrySendPdu wbuf).bind fun _ => preserves_pure _ _ }
  exact hrules.registryHandler cmd

theorem sendErrorReply (service error : UInt8) :
    Preserves (fun s : Daemon => J s.io) (Io.sendErrorReply w service error) := by
  refine (keepsIo_onPdus _).bind fun wbuf => ?_
  cases wbuf with
  | none => exact preserves_throw _ _
  | some wbuf =>
    refine (keepsIo_onPdus _).bind fun appended => (preserves_io (h _)).bind fun res => ?_
    exact .ite (preserves_throw _ _) (preserves_pure _ _)

theorem handlePdu (hhandle : ∀ s cmd, J s → J { s with log := .handlePdu cmd :: s.log })
    (services : Services) (cmd : Pdu) :
    Preserves (fun s : Daemon => J s.io) (Io.handlePdu w services cmd) := by
  refine Preserves.bind (preserves_io (preserves_modify fun s hs => hhandle s cmd hs)) fun _ => ?_
  refine (preserves_get _).bind fun s => .bind ?_ fun status => .ite ?_ (preserves_pure _ _)
  · exact Io.serve_rule (preserves_pure _ _) (h.registryHandler services cmd) (h.dtvHandler cmd) s
  · exact (h.sendErrorReply _ _).bind fun _ => preserves_pure _ _

/-- Callbacks that are not those of the socket. -/
theorem callback {input : Input} (hreadable : ∀ packet, input ≠ .readable packet)
    (hwritable : input ≠ .writable) (herr : input ≠ .err) (hhup : input ≠ .hup) :
    Preserves (fun s : Daemon => J s.io) (Daemon.callback w input) := by
  cases input with
  | halEvent event => exact (keepsIo_onEnv _).bind fun _ => preserves_pure _ _
  | channelUpdate chStatus tunerId sourceType ch =>
    exact (keepsIo_channelUpdateNfyCb _ _ _ _).bind fun _ => preserves_pure _ _
  | scanStatus scanStatus tunerId sourceType =>
    refine Preserves.bind (.ite ?_ (.ite ?_ (preserves_pure _ _))) fun _ => preserves_pure _ _
    · exact keepsIo_scanEnded _ _ _
    · exact keepsIo_scanEnded _ _ _
  | eventNfy tunerId sourceType ch progNum progs =>
    exact (keepsIo_eventNfyCb _ _ _ _ _).bind fun _ => preserves_pure _ _
  | task idx =>
    refine (preserves_get _).bind fun s => ?_
    cases s.tasks[idx]? with
    | none => exact preserves_pure _ _
    | some wbuf =>
      exact Preserves.bind (preserves_modify fun _ hs => hs) fun _ => h.sendNtfPdu wbuf
  | readable packet => exact absurd rfl (hreadable packet)
  | writable => exact absurd rfl hwritable
  | err => exact absurd rfl herr
  | hup => exact absurd rfl hhup

end SendInvariant

namespace IoInvariant

variable {J : IoState → Prop} (h : IoInvariant w J)

include h

theorem fdIoIn (packet : Option (List UInt8)) :
    Preserves (fun s : Daemon => J s.io) (Io.fdIoIn w packet) := by
  have hin : Preserves (fun s : Daemon => J s.io)
      (ioStateIn w.lib w.fdio Daemon.ioLens (Io.handlePdu w (.inTree w)) packet) := by
    refine ioStateIn_preserves (fun s hs => ?_) (preserves_io h.stop) (fun rbuf hset => ?_)
      (h.send.handlePdu h.handle _) packet
    · exact ensures_zoom.mpr (ensures_modify.mpr (h.recv s.io hs))
    · exact preserves_io (preserves_modify fun s hs => h.rbuf s _ (hset s.rbuf) hs)
  exact hin.bind fun _ => .ite (preserves_pure _ _) (preserves_pure _ _)

/-- Every callback keeps it but those that close the connection. -/
theorem callback {input : Input} (herr : input ≠ .err) (hhup : input ≠ .hup) :
    Preserves (fun s : Daemon => J s.io) (Daemon.callback w input) := by
  by_cases hreadable : ∃ packet, input = .readable packet
  · obtain ⟨packet, rfl⟩ := hreadable
    exact h.fdIoIn packet
  by_cases hwritable : input = .writable
  · subst hwritable
    exact (preserves_io h.out).bind fun _ => .ite (preserves_pure _ _) (preserves_pure _ _)
  exact h.send.callback (fun packet heq => hreadable ⟨packet, heq⟩) hwritable herr hhup

theorem step {input : Input} (herr : input ≠ .err) (hhup : input ≠ .hup) :
    Preserves (fun s : Daemon => J s.io) (Daemon.step w input) := by
  refine (h.callback herr hhup).bind fun result => .ite ?_ (preserves_pure _ _)
  exact preserves_modify fun _ hs => hs

end IoInvariant

/-! ### An open descriptor -/

/-- I/O is done on a descriptor that is open. -/
def IoEvent.UsesOpen : IoEvent → Prop
  | .recvmsg fd | .sendPduWbuf fd _ _ | .addFdEvents fd _ _ => fd ≠ -1
  | .handlePdu _ | .ioStateSend _ | .destroyPduWbuf _ | .removeFd _ | .close _ => True

instance : (event : IoEvent) → Decidable event.UsesOpen
  | .recvmsg fd | .sendPduWbuf fd _ _ | .addFdEvents fd _ _ => inferInstanceAs (Decidable (fd ≠ -1))
  | .handlePdu _ | .ioStateSend _ | .destroyPduWbuf _ | .removeFd _ | .close _ =>
    inferInstanceAs (Decidable True)

/-- The connection is open, and has always been where it was used. -/
structure IoState.Open (s : IoState) : Prop where
  fd : s.fd ≠ -1
  rbuf : s.rbuf ≠ none
  log : ∀ event ∈ s.log, event.UsesOpen

section

variable {fdio : Fdio} {s : IoState}

theorem IoState.Open.logged (h : s.Open) (event : IoEvent) (hevent : s.fd ≠ -1 → event.UsesOpen) :
    IoState.Open { s with log := event :: s.log } :=
  ⟨h.fd, h.rbuf, List.forall_mem_cons.mpr ⟨hevent h.fd, h.log⟩⟩

theorem open_watch : WatchInvariant IoState.Open where
  added _ _ _ hs := hs.logged _ id
  removed _ hs := hs.logged _ fun _ => trivial
  epollEvents _ _ hs := ⟨hs.fd, hs.rbuf, hs.log⟩

theorem open_drain : Preserves IoState.Open (ioStateSendPendingWbufs fdio) := by
  refine ioStateSendPendingWbufs_preserves (fun s wbuf hs => hs.logged _ id) ?_
  intro s wbuf sendq result _ _ _ hs
  have hsent : IoState.Open { s with log := .sendPduWbuf s.fd wbuf result :: s.log } := hs.logged _ id
  have hdestroyed := hsent.logged (.destroyPduWbuf wbuf) fun _ => trivial
  exact ⟨hdestroyed.fd, hdestroyed.rbuf, hdestroyed.log⟩

theorem open_ioStateSend (wbuf : Wbuf) : Preserves IoState.Open (ioStateSend fdio wbuf) := by
  intro s hs
  have hpassed : IoState.Open { s with log := .ioStateSend wbuf :: s.log } := hs.logged _ fun _ => trivial
  exact open_watch.ioStateSend open_drain ⟨hpassed.fd, hpassed.rbuf, hpassed.log⟩

theorem open_invariant : IoInvariant w IoState.Open where
  send := open_ioStateSend
  out := open_watch.ioStateOut open_drain
  stop := open_watch.stopWatching _
  recv _ hs := hs.logged _ id
  handle _ _ hs := hs.logged _ fun _ => trivial
  rbuf _ _ hset hs := ⟨hs.fd, hset hs.rbuf, hs.log⟩

/-- Closing the connection uses nothing but the descriptor that is closed. -/
theorem closeConnection_closed (hs : s.Open) : ∃ t, closeConnection s = .ok ((), t) ∧ t.fd = -1 ∧
    ∀ event ∈ t.log, event.UsesOpen := by
  refine ⟨_, rfl, rfl, ?_⟩
  exact ((hs.logged (.removeFd s.fd) fun _ => trivial).logged (.close s.fd)
    fun _ => trivial).log

end

/-! ### Steps of the daemon -/

/-- No I/O was done on a closed descriptor, and none can be: the loop is left once the
descriptor is closed, and while it runs there is a receive buffer. -/
structure Daemon.Live (s : Daemon) : Prop where
  log : ∀ event ∈ s.io.log, event.UsesOpen
  left : s.io.fd = -1 → s.running = false
  rbuf : s.running = true → s.io.rbuf ≠ none

variable {s t : Daemon} {input : Input}

theorem Daemon.Live.open (h : s.Live) (hrunning : s.running = true) : s.io.Open := by
  refine ⟨fun hfd => ?_, h.rbuf hrunning, h.log⟩
  rw [h.left hfd] at hrunning
  cases hrunning

theorem IoState.Open.live (h : s.io.Open) : s.Live :=
  ⟨h.log, fun hfd => absurd hfd h.fd, fun _ => h.rbuf⟩

/-- A step keeps I/O on an open descriptor exactly when it is not a socket error. -/
theorem Daemon.Step.live_iff (hstep : Daemon.Step w s input t) (hs : s.Live) :
    t.Live ↔ input ≠ .err := by
  obtain ⟨hrunning, -, hrun⟩ := hstep
  have hopen := hs.open hrunning
  obtain ⟨io, hclose, hfd, hlog⟩ := closeConnection_closed hopen
  have hclose' : onIo closeConnection s = .ok ((), { s with io }) := zoom_ok hclose
  by_cases herr : input = .err
  · -- `IO_POLL`: the loop goes on
    subst herr
    have hcallback : Daemon.callback w .err s = .ok (.poll, { s with io }) := bind_ok hclose' _
    rw [Daemon.step, bind_ok hcallback] at hrun
    cases hrun
    refine iff_of_false (fun ht => ?_) fun hne => hne rfl
    have hleft := ht.left hfd
    rw [hrunning] at hleft
    cases hleft
  · refine iff_of_true ?_ herr
    by_cases hhup : input = .hup
    · -- `IO_EXIT`: the loop is left
      subst hhup
      have hcallback : Daemon.callback w .hup s = .ok (.exit, { s with io }) := bind_ok hclose' _
      rw [Daemon.step, bind_ok hcallback] at hrun
      cases hrun
      exact ⟨hlog, fun _ => rfl, fun h => by cases h⟩
    · exact IoState.Open.live (open_invariant.step herr hhup s hopen _ _ hrun)

/-- What connecting leaves in the I/O state. -/
theorem Daemon.Connected.io (h : Daemon.Connected w s) : ∃ fd rbuf result, 0 ≤ fd.toInt ∧
    w.lib.createPduRbuf pduMaxDataLength = some rbuf ∧
    s.io = ⟨fd, epollErr ||| epollIn, some rbuf, [],
      [.addFdEvents fd (epollErr ||| epollIn) result, .removeFd fd]⟩ := by
  obtain ⟨fd, rbuf, result, hfd, hrbuf, rfl⟩ := h.eq
  exact ⟨fd, rbuf, result, hfd, hrbuf, rfl⟩

theorem Daemon.Connected.live (h : Daemon.Connected w s) : s.Live := by
  obtain ⟨fd, rbuf, result, hfd, -, hio⟩ := h.io
  have hne : fd ≠ -1 := by
    rintro rfl
    exact absurd hfd (by decide)
  refine IoState.Open.live ?_
  rw [hio]
  refine ⟨hne, Option.some_ne_none _, fun event hevent => ?_⟩
  simp only [List.mem_cons, List.not_mem_nil, or_false] at hevent
  rcases hevent with rfl | rfl
  · exact hne
  · trivial

/-- From the connection on, no I/O is done on a closed descriptor, and the loop is left
as soon as the descriptor is closed, if and only if no socket error is handled. -/
theorem connection_live_iff (hconnected : Daemon.Connected w s) {l : List (Transition Daemon Input)}
    (hrun : Run (Daemon.Step w) s l t) :
    (s.Live ∧ ∀ x ∈ l, x.after.Live) ↔ ∀ x ∈ l, x.label ≠ .err := by
  have hkeep (a : Daemon) (input : Input) (b : Daemon) (_ : Daemon.Step w a input b) (h : True) : True := h
  have hgood (a : Daemon) (input : Input) (b : Daemon) (hstep : Daemon.Step w a input b) (_ : True)
      (ha : a.Live) : b.Live ↔ input ≠ .err := Daemon.Step.live_iff hstep ha
  exact (and_iff_right hconnected.live).trans (hrun.good_iff hkeep hgood trivial hconnected.live)

/-! ### A notification after an error -/

/-- A client registers the DTV service, and a notification is queued for it. -/
def notifiesClient : List Input :=
  [.readable (some [0, 1, 1, 0, 1]), .scanStatus dtvScanComplete (some tunerOne) 0]

/-- It is sent, and then the client hangs up. -/
def clientLeaves : List Input := notifiesClient ++ [.task 0, .hup]

/-- The socket reports an error before it is sent. -/
def clientBreaks : List Input := notifiesClient ++ [.err, .task 0]

/-- The run of inputs on a daemon that is just connected. -/
def clientRun (inputs : List Input) : List (Transition Daemon Input) :=
  trace (Daemon.next (.onDriver switchingDriver)) (.connected (.onDriver switchingDriver)) inputs

theorem connection_live_clientLeaves : (Daemon.connected (.onDriver switchingDriver)).Live ∧
    ∀ x ∈ clientRun clientLeaves, x.after.Live := by
  have hconnected : Daemon.Connected (.onDriver switchingDriver) (.connected (.onDriver switchingDriver)) :=
    ⟨3, by decide, rfl⟩
  refine (connection_live_iff hconnected (Daemon.trace_run (by decide +kernel))).mpr ?_
  intro x hx herr
  have hlabel := label_mem_of_trace x hx
  rw [herr] at hlabel
  simp [clientLeaves, notifiesClient] at hlabel

/-- The notification goes to descriptor -1. -/
theorem connection_dead : ¬∀ (w : World) (s t : Daemon) (l : List (Transition Daemon Input)),
    Daemon.Connected w s → Run (Daemon.Step w) s l t → s.Live ∧ ∀ x ∈ l, x.after.Live := by
  intro h
  let last := clientBreaks.foldl (Daemon.next (.onDriver switchingDriver))
    (.connected (.onDriver switchingDriver))
  have hconnected : Daemon.Connected (.onDriver switchingDriver) (.connected (.onDriver switchingDriver)) :=
    ⟨3, by decide, rfl⟩
  have hrun : Run (Daemon.Step (.onDriver switchingDriver)) (.connected (.onDriver switchingDriver))
      (clientRun clientBreaks) last := Daemon.trace_run (by decide +kernel)
  obtain ⟨hs, hlive⟩ := h _ _ _ _ hconnected hrun
  have hlast : last.Live := hrun.invariant (fun x hx _ _ => hlive x hx) hs
  exact absurd hlast.log (by decide +kernel)

end Tvd

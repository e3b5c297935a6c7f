import Tvd.Io.Framing
import Tvd.Service.Connection
import Tvd.Service.Exchange

/-! Packets over whole runs. The commands handled are the PDUs in the packets received,
in order, each framed by the bytes of its own packet alone. `io_state_in` fails on none
of them; if it does not return, the PDU was there and handling it stopped the process,
as `send_error_reply` does where it cannot reply. -/

namespace Tvd

open Exec

variable {w : World} {fdio : Fdio}

/-! ### What receiving depends on -/

/-- The descriptor, the receive buffer and the commands handled. -/
def IoState.inbound (s : IoState) : Int32 × Option Rbuf × List Pdu :=
  (s.fd, s.rbuf, handledPdus s.log)

theorem inbound_log (s : IoState) {event : IoEvent} (h : event.handled = none) :
    IoState.inbound { s with log := event :: s.log } = s.inbound := by
  unfold IoState.inbound
  rw [handledPdus_cons, h, Option.toList_none, List.append_nil]

theorem inbound_watch (x : Int32 × Option Rbuf × List Pdu) : WatchInvariant fun s => s.inbound = x where
  added s _ _ hs := (inbound_log s rfl).trans hs
  removed s hs := (inbound_log s rfl).trans hs
  epollEvents _ _ hs := hs

theorem inbound_drain (x : Int32 × Option Rbuf × List Pdu) :
    Preserves (fun s => s.inbound = x) (ioStateSendPendingWbufs fdio) := by
  refine ioStateSendPendingWbufs_preserves (fun s wbuf hs => (inbound_log s rfl).trans hs) ?_
  intro s wbuf sendq result _ _ _ hs
  have hsent : IoState.inbound { s with sendq, log := .sendPduWbuf s.fd wbuf result :: s.log } = x :=
    (inbound_log { s with sendq } rfl).trans hs
  exact (inbound_log { s with sendq, log := .sendPduWbuf s.fd wbuf result :: s.log } rfl).trans hsent

theorem keeps_inbound_stopWatching (event : UInt32) :
    Keeps IoState.inbound (stopWatching fdio event) :=
  fun s => (inbound_watch s.inbound).stopWatching event s rfl

/-- Sending does not touch it. -/
theorem keeps_inbound_ioStateSend (wbuf : Wbuf) : Keeps IoState.inbound (ioStateSend fdio wbuf) := by
  intro s
  refine (inbound_watch s.inbound).ioStateSend (inbound_drain s.inbound) ?_
  exact inbound_log { s with sendq := s.sendq ++ [wbuf] } rfl

theorem keeps_inbound_ioStateOut : Keeps IoState.inbound (ioStateOut fdio) :=
  fun s => (inbound_watch s.inbound).ioStateOut (inbound_drain s.inbound) s rfl

theorem inbound_sendInvariant (P : Int32 × Option Rbuf × List Pdu → Prop) :
    SendInvariant w fun s => P s.inbound := by
  intro wbuf
  exact (keeps_inbound_ioStateSend wbuf).preserves fun s t hsame hs => hsame ▸ hs

/-- Handling a command returns zero, and keeps the descriptor and the receive buffer. -/
theorem handlePdu_inbound (cmd : Pdu) (s : Daemon) :
    Ensures (Io.handlePdu w (.inTree w) cmd) s fun res t => res = 0 ∧ t.io.fd = s.io.fd ∧
      t.io.rbuf = s.io.rbuf ∧ handledPdus t.io.log = handledPdus s.io.log ++ [cmd] := by
  intro res t hrun
  have hkeep : SendInvariant w fun io => io.fd = s.io.fd ∧ io.rbuf = s.io.rbuf :=
    inbound_sendInvariant fun x => x.1 = s.io.fd ∧ x.2.1 = s.io.rbuf
  obtain ⟨hfd, hrbuf⟩ := hkeep.handlePdu (fun _ _ h => h) _ cmd s ⟨rfl, rfl⟩ _ _ hrun
  obtain ⟨wbuf, _, _, hpass, -⟩ := handlePdu_replies cmd s _ _ hrun
  refine ⟨?_, hfd, hrbuf, (Daemon.logged_passes hpass).2.1⟩
  obtain ⟨_, t₁, -, hrun⟩ := bind_eq_ok.mp hrun
  rw [get_bind_apply] at hrun
  obtain ⟨status, t₂, -, hrun⟩ := bind_eq_ok.mp hrun
  split at hrun
  · obtain ⟨_, _, -, hrun⟩ := bind_eq_ok.mp hrun
    cases hrun
    rfl
  · cases hrun
    rfl

/-! ### One packet -/

/-- `io_state_in` of the connection. -/
abbrev Io.stateIn (w : World) (packet : Option (List UInt8)) : DaemonM Int32 :=
  ioStateIn w.lib w.fdio Daemon.ioLens (Io.handlePdu w (.inTree w)) packet

/-- `io_state_in` returns zero and has handled the PDU in the packet, if there is one; or
there is one, and handling it does not return. -/
def Daemon.Frames (w : World) (o : ByteOrder) (maxlen : ℕ) (s : Daemon) (packet : List UInt8) : Prop :=
  (∃ t, Io.stateIn w (some packet) s = .ok (0, t) ∧
    handledPdus t.io.log = handledPdus s.io.log ++ (framePdu o maxlen packet).toList) ∨
  ∃ rbuf cmd fault, s.io.rbuf = some rbuf ∧ framePdu o maxlen packet = some cmd ∧
    Io.handlePdu w (.inTree w) cmd { s with io := s.io.receive rbuf packet } = .error fault ∧
    Io.stateIn w (some packet) s = .error fault

/-- While the connection is open, there is a receive buffer of `maxlen` bytes. -/
def Daemon.Attached (maxlen : ℕ) (s : Daemon) : Prop :=
  s.io.fd ≠ -1 → ∃ rbuf, s.io.rbuf = some rbuf ∧ rbuf.maxlen = maxlen

variable {o : ByteOrder} {maxlen : ℕ} {s t : Daemon}

theorem handledPdus_receive (io : IoState) (rbuf : Rbuf) (packet : List UInt8) :
    handledPdus (io.receive rbuf packet).log = handledPdus io.log := by
  unfold IoState.receive
  rw [handledPdus_cons]
  exact List.append_nil _

/-- Receiving a packet frames it, and keeps the receive buffer. -/
theorem stateIn_frames (hframes : w.lib.Frames o) (hroom : 4 + pduMaxDataLength ≤ maxlen)
    {packet : List UInt8} (hpacket : packet ≠ []) {rbuf : Rbuf} (hrbuf : s.io.rbuf = some rbuf)
    (hmaxlen : rbuf.maxlen = maxlen) : s.Frames w o maxlen packet ∧
      Ensures (Io.stateIn w (some packet)) s fun _ t => t.io.fd = s.io.fd ∧
        ∃ rbuf, t.io.rbuf = some rbuf ∧ rbuf.maxlen = maxlen := by
  subst hmaxlen
  have hrbuf' : (Daemon.ioLens.get s).rbuf = some rbuf := hrbuf
  cases hframe : framePdu o rbuf.maxlen packet with
  | none =>
    have hin : Io.stateIn w (some packet) s = .ok (0, { s with io := s.io.receive rbuf packet }) :=
      ioStateIn_unframed hframes hrbuf' hroom hpacket hframe
    refine ⟨.inl ⟨_, hin, ?_⟩, ?_⟩
    · rw [hframe, Option.toList_none, List.append_nil]
      exact handledPdus_receive _ _ _
    · intro res t hrun
      rw [hin] at hrun
      cases hrun
      exact ⟨rfl, _, rfl, rfl⟩
  | some cmd =>
    have hin : Io.stateIn w (some packet) s = (Io.handlePdu w (.inTree w) cmd >>= fun status => _)
        { s with io := s.io.receive rbuf packet } :=
      ioStateIn_framed hframes hrbuf' hroom hpacket hframe
    cases hcmd : Io.handlePdu w (.inTree w) cmd { s with io := s.io.receive rbuf packet } with
    | error fault =>
      have hfault : Io.stateIn w (some packet) s = .error fault := hin.trans (bind_error hcmd _)
      refine ⟨.inr ⟨rbuf, cmd, fault, hrbuf, hframe, hcmd, hfault⟩, ?_⟩
      intro res t hrun
      rw [hfault] at hrun
      cases hrun
    | ok result =>
      obtain ⟨res, u⟩ := result
      obtain ⟨rfl, hfd, hu, hhandled⟩ := handlePdu_inbound cmd _ _ _ hcmd
      have hdone : Io.stateIn w (some packet) s = .ok (0,
          { u with io := { u.io with rbuf := u.io.rbuf.map ({ · with len := 0 }) } }) :=
        hin.trans (bind_ok hcmd _)
      refine ⟨.inl ⟨_, hdone, ?_⟩, ?_⟩
      · rw [hframe]
        exact hhandled.trans (congrArg (· ++ [cmd]) (handledPdus_receive _ _ _))
      · intro res t hrun
        rw [hdone] at hrun
        cases hrun
        refine ⟨hfd, { rbuf.received packet with len := 0 }, ?_, rfl⟩
        dsimp only
        rw [hu]
        rfl

/-! ### Runs -/

/-- What arrives on the connection is a packet with at least one byte. -/
def Input.HasData : Input → Prop
  | .readable packet => ∃ bytes, packet = some bytes ∧ bytes ≠ []
  | _ => True

/-- The packet that arrives, if any. -/
def Input.packet : Input → Option (List UInt8)
  | .readable packet => packet
  | _ => none

/-- The packets received in a run, oldest first. -/
def packets (l : List (Transition Daemon Input)) : List (List UInt8) :=
  l.filterMap fun x => x.label.packet

/-- Callbacks that are not those of the socket leave it as it is. -/
theorem callback_inbound {input : Input} (hreadable : ∀ packet, input ≠ .readable packet)
    (hwritable : input ≠ .writable) (herr : input ≠ .err) (hhup : input ≠ .hup) :
    Keeps (fun s : Daemon => s.io.inbound) (Daemon.callback w input) := by
  intro s
  have hsend : SendInvariant w fun io => io.inbound = s.io.inbound :=
    inbound_sendInvariant (· = s.io.inbound)
  exact hsend.callback hreadable hwritable herr hhup s rfl

/-- A packet that arrives while the connection is open is framed. -/
theorem Daemon.Attached.frames (hs : s.Attached maxlen) (hframes : w.lib.Frames o)
    (hroom : 4 + pduMaxDataLength ≤ maxlen) (hopen : s.io.fd ≠ -1) {packet : List UInt8}
    (hpacket : packet ≠ []) : s.Frames w o maxlen packet := by
  obtain ⟨rbuf, hrbuf, hmaxlen⟩ := hs hopen
  exact (stateIn_frames hframes hroom hpacket hrbuf hmaxlen).1

/-- `io_state_in` returns zero in every step that gets a packet. -/
theorem Daemon.Step.stateIn (hstep : Daemon.Step w s input t) {packet : List UInt8}
    (hinput : input = .readable (some packet)) (hs : s.Frames w o maxlen packet) :
    ∃ u, Io.stateIn w (some packet) s = .ok (0, u) ∧
      handledPdus u.io.log = handledPdus s.io.log ++ (framePdu o maxlen packet).toList ∧
      t = { u with running := t.running } := by
  subst hinput
  obtain ⟨result, v, hcallback, ht⟩ := hstep.callback
  obtain ⟨res, u, hin, hrest⟩ := bind_eq_ok.mp hcallback
  have hu : v = u := by
    split at hrest
    · cases hrest
      rfl
    · cases hrest
      rfl
  rcases hs with ⟨u', hin', hhandled⟩ | ⟨_, _, fault, -, -, -, hfault⟩
  · cases hin.symm.trans hin'
    exact ⟨u, hin', hhandled, hu ▸ ht⟩
  · cases hin.symm.trans hfault

/-- Closing the connection handles nothing. -/
theorem closeConnection_attached : Ensures (onIo closeConnection) s fun _ t =>
    t.Attached maxlen ∧ handledPdus t.io.log = handledPdus s.io.log := by
  intro _ t hrun
  have hhandled : t.io.traffic = s.io.traffic :=
    congrArg Prod.fst (keeps_traffic_onIo keeps_traffic_closeConnection s _ _ hrun)
  refine ⟨fun hopen => ?_, congrArg Prod.snd hhandled⟩
  cases hrun
  exact absurd rfl hopen

/-- A step handles the PDU in the packet it receives, and nothing else. -/
theorem Daemon.Step.framed (hframes : w.lib.Frames o) (hroom : 4 + pduMaxDataLength ≤ maxlen)
    (hstep : Daemon.Step w s input t) (hdata : input.HasData) (hs : s.Attached maxlen) :
    t.Attached maxlen ∧ handledPdus t.io.log =
      handledPdus s.io.log ++ input.packet.toList.filterMap (framePdu o maxlen) := by
  by_cases hreadable : ∃ packet, input = .readable packet
  · obtain ⟨packet, rfl⟩ := hreadable
    obtain ⟨packet, rfl, hpacket⟩ := hdata
    obtain ⟨rbuf, hrbuf, hmaxlen⟩ := hs hstep.2.1
    obtain ⟨hframed, hattached⟩ := stateIn_frames hframes hroom hpacket hrbuf hmaxlen
    obtain ⟨u, hin, hhandled, ht⟩ := hstep.stateIn rfl hframed
    obtain ⟨-, hu⟩ := hattached _ _ hin
    rw [ht]
    refine ⟨fun _ => hu, hhandled.trans ?_⟩
    cases h : framePdu o maxlen packet <;> simp [Input.packet, h]
  have hpacket : input.packet = none := by
    cases input with
    | readable packet => exact absurd ⟨packet, rfl⟩ hreadable
    | halEvent | channelUpdate | scanStatus | eventNfy | task | writable | err | hup => rfl
  rw [hpacket, Option.toList_none, List.filterMap_nil, List.append_nil]
  obtain ⟨result, v, hcallback, ht⟩ := hstep.callback
  suffices v.Attached maxlen ∧ handledPdus v.io.log = handledPdus s.io.log by
    rw [ht]
    exact this
  by_cases hclosed : input = .err ∨ input = .hup
  · obtain ⟨_, u, hclose, hpure⟩ : ∃ a u, onIo closeConnection s = .ok (a, u) ∧ v = u := by
      rcases hclosed with rfl | rfl
      · obtain ⟨a, u, hclose, hpure⟩ := bind_eq_ok.mp hcallback
        cases hpure
        exact ⟨a, _, hclose, rfl⟩
      · obtain ⟨a, u, hclose, hpure⟩ := bind_eq_ok.mp hcallback
        cases hpure
        exact ⟨a, _, hclose, rfl⟩
    rw [hpure]
    exact closeConnection_attached _ _ hclose
  · obtain ⟨herr, hhup⟩ := not_or.mp hclosed
    have hsame : v.io.inbound = s.io.inbound := by
      by_cases hwritable : input = .writable
      · subst hwritable
        have hout : Keeps (fun s : Daemon => s.io.inbound) (Io.fdIoOut w) :=
          keeps_inbound_ioStateOut.zoom.bind fun _ => .ite (keeps_pure _ _) (keeps_pure _ _)
        exact hout _ _ _ hcallback
      · exact callback_inbound (fun packet heq => hreadable ⟨packet, heq⟩) hwritable herr hhup _ _ _ hcallback
    have hfd : v.io.fd = s.io.fd := congrArg Prod.fst hsame
    have hrbuf : v.io.rbuf = s.io.rbuf := congrArg (fun x => x.2.1) hsame
    rw [Daemon.Attached, hfd, hrbuf]
    exact ⟨hs, congrArg (fun x => x.2.2) hsame⟩

/-- The same of a run. -/
theorem run_framed (hframes : w.lib.Frames o) (hroom : 4 + pduMaxDataLength ≤ maxlen)
    {l : List (Transition Daemon Input)} (hrun : Run (Daemon.Step w) s l t)
    (hdata : ∀ x ∈ l, x.label.HasData) (hs : s.Attached maxlen) :
    t.Attached maxlen ∧ (∀ x ∈ l, x.before.Attached maxlen) ∧ handledPdus t.io.log =
      handledPdus s.io.log ++ (packets l).filterMap (framePdu o maxlen) := by
  induction hrun with
  | nil s =>
    refine ⟨hs, fun x hx => ?_, (List.append_nil _).symm⟩
    cases hx
  | @cons s u t input l hstep hrest ih =>
    obtain ⟨hu, hhandled⟩ := hstep.framed hframes hroom (hdata _ List.mem_cons_self) hs
    obtain ⟨ht, hbefore, hlater⟩ := ih (fun x hx => hdata x (List.mem_cons_of_mem _ hx)) hu
    refine ⟨ht, List.forall_mem_cons.mpr ⟨hs, hbefore⟩, ?_⟩
    rw [hlater, hhandled, List.append_assoc, ← List.filterMap_append]
    cases h : input.packet <;> simp [packets, h]

/-- The receive buffer of a connection just made. -/
theorem Daemon.Connected.rbuf (h : Daemon.Connected w s) : ∃ rbuf, s.io.rbuf = some rbuf ∧
    w.lib.createPduRbuf pduMaxDataLength = some rbuf ∧ handledPdus s.io.log = [] := by
  obtain ⟨fd, rbuf, result, -, hcreate, hio⟩ := h.io
  rw [hio]
  exact ⟨rbuf, rfl, hcreate, rfl⟩

/-- From the connection on, as long as every packet has data, the commands handled are
the PDUs that the packets themselves frame, in order, and `io_state_in` returns zero in
every step that gets a packet. Whatever packet comes next, it returns zero as well, unless
the packet frames a PDU and handling that PDU does not return. -/
theorem packets_framed (hframes : w.lib.Frames o) (hconnected : Daemon.Connected w s)
    {l : List (Transition Daemon Input)} (hrun : Run (Daemon.Step w) s l t)
    (hdata : ∀ x ∈ l, x.label.HasData) : ∃ rbuf, s.io.rbuf = some rbuf ∧
      handledPdus t.io.log = (packets l).filterMap (framePdu o rbuf.maxlen) ∧
      (∀ x ∈ l, ∀ packet, x.label = .readable (some packet) →
        ∃ u, Io.stateIn w (some packet) x.before = .ok (0, u) ∧ handledPdus u.io.log =
          handledPdus x.before.io.log ++ (framePdu o rbuf.maxlen packet).toList) ∧
      (t.io.fd ≠ -1 → ∀ packet, packet ≠ [] → t.Frames w o rbuf.maxlen packet) := by
  obtain ⟨rbuf, hrbuf, hcreate, hnone⟩ := hconnected.rbuf
  have hroom := hframes.room rbuf hcreate
  have hs : s.Attached rbuf.maxlen := fun _ => ⟨rbuf, hrbuf, rfl⟩
  obtain ⟨ht, hbefore, hhandled⟩ := run_framed hframes hroom hrun hdata hs
  refine ⟨rbuf, hrbuf, ?_, fun x hx packet hlabel => ?_, fun hopen packet hpacket => ?_⟩
  · rw [hhandled, hnone, List.nil_append]
  · have hstep := hrun.step_of_mem x hx
    have hopen : x.before.io.fd ≠ -1 := by
      have henabled := hstep.2.1
      rwa [hlabel] at henabled
    have hpacket : packet ≠ [] := by
      have hbytes := hdata x hx
      rw [hlabel] at hbytes
      obtain ⟨bytes, heq, hne⟩ := hbytes
      cases heq
      exact hne
    obtain ⟨u, hin, hu, -⟩ :=
      hstep.stateIn hlabel ((hbefore x hx).frames hframes hroom hopen hpacket)
    exact ⟨u, hin, hu⟩
  · exact ht.frames hframes hroom hopen hpacket

/-! ### A short packet, and one whose reply cannot be allocated -/

/-- A Register command, and a packet that ends before its header does. -/
def shortPacket : List Input := [.readable (some [0, 1, 1, 0, 1]), .readable (some [0, 1])]

theorem packets_framed_shortPacket : ∃ rbuf,
    (Daemon.connected (.onDriver switchingDriver)).io.rbuf = some rbuf ∧
    handledPdus (shortPacket.foldl (Daemon.next (.onDriver switchingDriver))
      (.connected (.onDriver switchingDriver))).io.log =
        [[0, 1, 1, 0, 1], [0, 1]].filterMap (framePdu .little rbuf.maxlen) := by
  have hconnected : Daemon.Connected (.onDriver switchingDriver) (.connected (.onDriver switchingDriver)) :=
    ⟨3, by decide, rfl⟩
  have hdata : ∀ x ∈ clientRun shortPacket, x.label.HasData := by
    intro x hx
    have hlabel := label_mem_of_trace x hx
    simp only [shortPacket, List.mem_cons, List.not_mem_nil, or_false] at hlabel
    rcases hlabel with h | h <;> rw [h] <;> exact ⟨_, rfl, List.cons_ne_nil _ _⟩
  obtain ⟨rbuf, hrbuf, hhandled, -⟩ := packets_framed Lib.reference_frames hconnected
    (Daemon.trace_run (by decide +kernel) : Run _ _ (clientRun shortPacket) _) hdata
  exact ⟨rbuf, hrbuf, hhandled⟩

/-- The in-tree daemon without memory for write buffers. -/
def wbuflessWorld : World :=
  .inTree { Lib.reference with createPduWbuf := fun _ _ _ => false } .ready switchingDriver .lp64 fun _ _ => 0

/-- A command to a service that is not there stops the daemon: it has to be answered by
an error, and there is no buffer for that. -/
theorem packet_aborts : ¬∀ (w : World) (o : ByteOrder) (s t : Daemon)
    (l : List (Transition Daemon Input)), w.lib.Frames o → Daemon.Connected w s →
      Run (Daemon.Step w) s l t → (∀ x ∈ l, x.label.HasData) → t.io.fd ≠ -1 →
      ∀ packet, packet ≠ [] → ∃ u, Io.stateIn w (some packet) t = .ok (0, u) := by
  intro h
  have hframes := Lib.reference_frames
  have hconnected : Daemon.Connected wbuflessWorld (.connected wbuflessWorld) := ⟨3, by decide, rfl⟩
  obtain ⟨u, hu⟩ := h wbuflessWorld .little _ _ [] ⟨hframes.room, hframes.hasPdu, hframes.isFull, hframes.pdu⟩
    hconnected (.nil _) (fun x hx => by cases hx) (by decide +kernel) [5, 0, 0, 0] (List.cons_ne_nil _ _)
  have habort : (Io.stateIn wbuflessWorld (some [5, 0, 0, 0]) (.connected wbuflessWorld)).isOk = false := by
    decide +kernel
  rw [hu] at habort
  cases habort

end Tvd

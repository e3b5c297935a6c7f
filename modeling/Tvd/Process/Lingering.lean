import Tvd.Hal.Arrivals
import Tvd.Process.Runs
import Tvd.Service.Polling

/-! A process that lost its client. An error of the connection closes the descriptor, but
does not leave the loop, and without a descriptor no later event of the socket can. -/

namespace Tvd

open Exec

variable {w : World} {p : Platform} {host : Host p} {argv : List CString} {s t : Process} {input : Input}

/-- In the loop, with a connection that was set up and closed. -/
structure Process.Lingers (s : Process) : Prop where
  phase : s.phase = .looping
  connecting : ¬s.Connecting
  closed : s.daemon.io.fd = -1

/-- Neither an error of the connection nor what does not come from it leaves the loop. -/
theorem callback_stays (hinput : input.OfSocket → input = .err) (s : Daemon) :
    Ensures (Daemon.callback w input) s fun result _ => ¬(result = .exit ∨ result = .abort) := by
  refine (callback_leaves input s).mono fun result t ⟨hexit, habort⟩ => ?_
  rintro (hleaves | hleaves)
  · cases hexit hleaves
    cases hinput trivial
  · obtain ⟨hsocket, hne⟩ := habort hleaves
    exact hne (hinput hsocket)

/-- Such a step is one of the daemon. -/
theorem Process.Connected.stays {socketName : CString} (hs : Process.Connected w host socketName s)
    (hinput : input.OfSocket → input = .err) (hstep : Process.Step w s input t) :
    Process.Connected w host socketName t ∧ Daemon.Step w s.daemon input t.daemon := by
  refine (hs.step hstep).resolve_right ?_
  rintro ⟨-, hexited⟩
  obtain ⟨result, u, hcallback, hrest⟩ := bind_eq_ok.mp hstep.2.2
  obtain ⟨hdaemon, hu, -, -⟩ := callback_connected hs.epollFuncs hcallback
  rw [if_neg (callback_stays hinput _ _ _ hdaemon)] at hrest
  cases hrest
  have hlooping : t.phase = .looping := by
    rw [hu]
    exact hs.phase
  cases hlooping.symm.trans hexited

theorem Process.Connected.not_connecting {socketName : CString} (hs : Process.Connected w host socketName s) :
    ¬s.Connecting := by
  intro hconnecting
  cases hs.epollFuncs.symm.trans hconnecting

theorem Process.Started.not_lingers (hargv : ∀ arg ∈ argv, arg.strlen ≤ p.sizeMax)
    (hstarted : Process.Started host argv s) : ¬s.Lingers := by
  intro hlingers
  rcases hstarted.cases hargv with ⟨-, rfl⟩ | ⟨-, hfailed | hentered⟩
  · cases hlingers.phase
  · cases hlingers.phase.symm.trans hfailed.phase
  · exact hlingers.connecting hentered.epollFuncs

/-- A process that lingers was connected, and what comes next does not come from its client. -/
theorem Process.Lingers.connected (hlingers : s.Lingers) (hs : Process.Stage w host argv s) :
    Process.Connected w host (givenOptions argv).socketName s := by
  cases hs with
  | refused h => cases hlingers.phase.symm.trans h.phase
  | failed _ h => cases hlingers.phase.symm.trans h.phase
  | entered _ h => exact absurd h.epollFuncs hlingers.connecting
  | connected _ h => exact h
  | left _ h =>
    obtain ⟨success, hphase⟩ := h.phase
    cases hlingers.phase.symm.trans hphase

theorem Process.Lingers.not_ofSocket (hlingers : s.Lingers) (henabled : s.Enabled input) : ¬input.OfSocket := by
  intro hsocket
  rw [Process.Enabled, if_pos hsocket] at henabled
  exact henabled.2.elim hlingers.connecting fun hopen => hopen hlingers.closed

/-- The commands handled stay as they are. -/
theorem Process.Lingers.handled_eq (hlingers : s.Lingers) (hs : Process.Stage w host argv s)
    (hstep : Process.Step w s input t) : handledPdus t.daemon.io.log = handledPdus s.daemon.io.log := by
  have hsocket := hlingers.not_ofSocket hstep.2.1
  obtain ⟨-, hdaemon⟩ := (hlingers.connected hs).stays (fun h => absurd h hsocket) hstep
  obtain ⟨result, u, hcallback, ht⟩ := hdaemon.callback
  have hkept : SendInvariant w fun io => handledPdus io.log = handledPdus s.daemon.io.log :=
    inbound_sendInvariant fun x => x.2.2 = handledPdus s.daemon.io.log
  have hquiet : Preserves (fun d : Daemon => handledPdus d.io.log = handledPdus s.daemon.io.log)
      (Daemon.callback w input) :=
    hkept.callback (fun packet h => hsocket (h ▸ trivial)) (fun h => hsocket (h ▸ trivial))
      (fun h => hsocket (h ▸ trivial)) fun h => hsocket (h ▸ trivial)
  have hlast := hquiet s.daemon rfl result u hcallback
  rw [ht]
  exact hlast

/-- A step leads to a process that lingers from one that does, or with an error of the
connection. -/
theorem Process.Stage.lingers_iff (hs : Process.Stage w host argv s) (hstep : Process.Step w s input t) :
    t.Lingers ↔ s.Lingers ∨ input = .err ∧ ¬s.Connecting := by
  have hexited {success : Bool} (hphase : t.phase = .exited success) : ¬t.Lingers := fun ht => by
    cases hphase.symm.trans ht.phase
  have hlooping : s.phase = .looping := hstep.1
  cases hs with
  | refused h => cases hlooping.symm.trans h.phase
  | failed _ h => cases hlooping.symm.trans h.phase
  | left _ h =>
    obtain ⟨success, hphase⟩ := h.phase
    cases hlooping.symm.trans hphase
  | entered _ h =>
    have hconnecting : s.Connecting := h.epollFuncs
    refine iff_of_false ?_ ?_
    · rcases h.step hstep with ⟨-, -, hconnected⟩ | ⟨-, hphase⟩
      · obtain ⟨fd, rbuf, result, hfd, -, hio⟩ := Daemon.Connected.io ⟨s.fd, h.fd, hconnected⟩
        intro ht
        have hclosed := ht.closed
        rw [hio] at hclosed
        rw [show fd = -1 from hclosed] at hfd
        exact absurd hfd (by decide)
      · exact hexited hphase
    · rintro (hlingers | ⟨-, hne⟩)
      · exact hlingers.connecting hconnecting
      · exact hne hconnecting
  | connected haccepts h =>
    have hgoes (ht : Process.Connected w host (givenOptions argv).socketName t) (hclosed : t.daemon.io.fd = -1) :
        t.Lingers := ⟨ht.phase, ht.not_connecting, hclosed⟩
    by_cases hclosed : s.daemon.io.fd = -1
    · have hlingers : s.Lingers := ⟨hlooping, h.not_connecting, hclosed⟩
      have hsocket := hlingers.not_ofSocket hstep.2.1
      obtain ⟨ht, hdaemon⟩ := h.stays (fun h => absurd h hsocket) hstep
      have hfd := hdaemon.fd.2 (fun h => hsocket (h ▸ trivial)) fun h => hsocket (h ▸ trivial)
      exact iff_of_true (hgoes ht (hfd.trans hclosed)) (.inl hlingers)
    rw [or_iff_right fun hlingers => hclosed hlingers.closed, and_iff_left h.not_connecting]
    by_cases herr : input = .err
    · obtain ⟨ht, hdaemon⟩ := h.stays (fun _ => herr) hstep
      exact iff_of_true (hgoes ht (hdaemon.fd.1 (.inl herr))) herr
    refine iff_of_false ?_ herr
    rcases h.step hstep with ⟨ht, hdaemon⟩ | ⟨-, hphase⟩
    · have hhup : input ≠ .hup := by
        rintro rfl
        rcases (Process.Stage.step (.connected haccepts h) hstep).2 with ⟨-, hup⟩ | hphase
        · cases hup
        · cases ht.phase.symm.trans hphase
      exact fun hlingers => hclosed ((hdaemon.fd.2 herr hhup).symm.trans hlingers.closed)
    · exact hexited hphase

/-- In every run of the process, it lingers in the end if and only if an error of the
connection was among the events, and from such an error on no event of the socket arrives
and no command is handled, so that it never exits. -/
theorem process_lingers_iff (hargv : ∀ arg ∈ argv, arg.strlen ≤ p.sizeMax) {l : List (Transition Process Input)}
    (hstarted : Process.Started host argv s) (hrun : Run (Process.Step w) s l t) :
    (t.Lingers ↔ ∃ x ∈ l, x.label = .err ∧ ¬x.before.Connecting) ∧
      ∀ x ∈ l, x.before.Lingers → x.after.Lingers ∧ ¬x.label.OfSocket ∧
        handledPdus x.after.daemon.io.log = handledPdus x.before.daemon.io.log := by
  have hs : Process.Stage w host argv s := hstarted.stage hargv
  have hkeep {a b : Process} {i : Input} (hstep : Process.Step w a i b) (ha : Process.Stage w host argv a) :
      Process.Stage w host argv b := (ha.step hstep).1
  constructor
  · rw [hrun.last_iff (fun _ _ _ => hkeep) (fun _ _ _ hstep ha => ha.lingers_iff hstep) hs,
      or_iff_right (hstarted.not_lingers hargv)]
  · intro x hx hlingers
    have hstep := hrun.step_of_mem x hx
    have hbefore := (hrun.invariant_mem (fun _ _ => hkeep) hs x hx).1
    exact ⟨(hbefore.lingers_iff hstep).mpr (.inl hlingers), hlingers.not_ofSocket hstep.2.1,
      hlingers.handled_eq hbefore hstep⟩

/-- The service is registered, the connection fails, and a device arrives. -/
def lostInputs : List Input := [.writable, .readable (some [0, 1, 1, 0, 1]), .err, .halEvent (arrival 1)]

def lostTrace : List (Transition Process Input) :=
  trace (Process.next (.onDriver switchingDriver)) clientStart lostInputs

def lostEnd : Process := lostInputs.foldl (Process.next (.onDriver switchingDriver)) clientStart

theorem lost_run : Run (Process.Step (.onDriver switchingDriver)) clientStart lostTrace lostEnd :=
  Process.trace_run _ (by decide +kernel)

/-- The process is still there, with the device. -/
theorem process_lingers_lost : lostEnd.Lingers ∧ lostEnd.daemon.dtv.env.hal.deviceNum = 1 := by
  have herror : ∃ x ∈ lostTrace, x.label = .err ∧ ¬x.before.Connecting :=
    ⟨⟨_, .err, _⟩, .tail _ (.tail _ (.head _)), rfl, by decide +kernel⟩
  exact ⟨(process_lingers_iff clientArgv_strlen client_started lost_run).1.mpr herror, by decide +kernel⟩

end Tvd

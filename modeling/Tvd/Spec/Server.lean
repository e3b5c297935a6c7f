import Tvd.Exec.Acceptor
import Tvd.Model.Pdu
import Tvd.Model.TvHal

/-! What the daemon is for, told without its code. A server keeps the list of the tuners
that the driver announced. A client registers the DTV service and may then ask for the
tuners, or for the stream of one. What a reply looks like on the wire is a parameter. -/

namespace Tvd

/-- The wire formats of replies: the version that the Registry tells, and a list of tuners. -/
structure Format where
  version : List UInt8
  tuners : List Int32 → List UInt8

/-- Whether the DTV service is registered, and the tuners in the order of their arrival. -/
structure Server where
  registered : Bool
  tuners : List Int32
  deriving DecidableEq

/-- Commands: to register or unregister the DTV service, another one of the Registry, the
two DTV commands that can succeed, another one of the DTV service, and one of no service. -/
inductive Request where
  | register
  | unregister
  | registry
  | getTuners
  | setSource
  | dtv
  | unknown
  deriving DecidableEq

inductive Reply where
  | success (content : List UInt8)
  | error (status : Int32)
  deriving DecidableEq

/-- What can be seen of a server: an event of the driver, and a request with its reply. -/
inductive Observation where
  | event (event : TvInputEvent)
  | exchange (request : Request) (reply : Reply)
  deriving DecidableEq

/-- What an event makes of the list of tuners. -/
def TvInputEvent.list (event : TvInputEvent) (tuners : List Int32) : List Int32 :=
  if event.deviceType ≠ .tuner then tuners
  else match event.type with
    | .deviceAvailable =>
      if tuners.length < maxDeviceNum then tuners ++ [event.deviceId] else tuners
    | .deviceUnavailable => tuners.erase event.deviceId
    | .streamConfigurationsChanged | .other _ => tuners

namespace Server

def initial : Server := ⟨false, []⟩

/-- The server behind a request and its reply, `none` where it would not reply so. The
list of tuners starts anew with every attempt to register, which fails without memory
before that. -/
def answer (format : Format) (s : Server) : Request → Reply → Option Server
  | .register, .success content =>
    if s.registered = false ∧ content = format.version then some ⟨true, []⟩ else none
  | .register, .error status =>
    some (if s.registered = false ∧ status ≠ errorNomem then { s with tuners := [] } else s)
  | .unregister, .success content => if content = [] then some { s with registered := false } else none
  | .getTuners, .success content =>
    if s.registered = true ∧ content = format.tuners s.tuners then some s else none
  | .setSource, .success _ => if s.registered = true then some s else none
  | .registry, .success _ | .dtv, .success _ | .unknown, .success _ => none
  | .unregister, .error _ | .registry, .error _ => some s
  | .getTuners, .error status =>
    if status = if s.registered then errorNomem else errorUnsupported then some s else none
  | .setSource, .error status | .dtv, .error status =>
    if s.registered = true ∨ status = errorUnsupported then some s else none
  | .unknown, .error status => if status = errorUnsupported then some s else none

theorem answer_registered (format : Format) {s : Server} (h : s.registered = false) :
    s.answer format .register (.success format.version) = some ⟨true, []⟩ := if_pos ⟨h, rfl⟩

theorem answer_registerFails (format : Format) {s : Server} (h : s.registered = false) {status : Int32}
    (hstatus : status ≠ errorNomem) :
    s.answer format .register (.error status) = some { s with tuners := [] } :=
  congrArg some (if_pos ⟨h, hstatus⟩)

theorem answer_unregistered (format : Format) (s : Server) :
    s.answer format .unregister (.success []) = some { s with registered := false } := by
  rw [answer, if_pos rfl]

theorem answer_getTuners (format : Format) {s : Server} (h : s.registered = true) :
    s.answer format .getTuners (.success (format.tuners s.tuners)) = some s := if_pos ⟨h, rfl⟩

theorem answer_unsupported (format : Format) (s : Server) {request : Request}
    (h : request = .unknown ∨ s.registered = false ∧ (request = .getTuners ∨ request = .setSource ∨ request = .dtv)) :
    s.answer format request (.error errorUnsupported) = some s := by
  rcases h with rfl | ⟨hfree, rfl | rfl | rfl⟩
  · rw [answer, if_pos rfl]
  · rw [answer, hfree]
    rfl
  · rw [answer, if_pos (.inr rfl)]
  · rw [answer, if_pos (.inr rfl)]

/-- The server once this was seen. -/
def next (format : Format) (s : Server) : Observation → Option Server
  | .event event => some { s with tuners := event.list s.tuners }
  | .exchange request reply => s.answer format request reply

end Server

/-! ### Since a registration -/

/-- The list of tuners that events make of another. -/
def listAll (events : List TvInputEvent) (tuners : List Int32) : List Int32 :=
  events.foldl (fun tuners event => event.list tuners) tuners

/-- The event, if it is one. -/
def Observation.toEvent : Observation → Option TvInputEvent
  | .event e => some e
  | .exchange _ _ => none

/-- The request and the reply, if it is one. -/
def Observation.toExchange : Observation → Option (Request × Reply)
  | .event _ => none
  | .exchange request reply => some (request, reply)

/-- A registration that succeeds. -/
def Observation.Registers : Observation → Prop
  | .exchange .register (.success _) => True
  | _ => False

namespace Server

variable {format : Format} {s t : Server}

/-- A server that is registered after an exchange, other than by it, was so before, with
the same tuners. -/
theorem answer_kept {request : Request} {reply : Reply}
    (hnot : ¬(Observation.exchange request reply).Registers)
    (h : s.answer format request reply = some t) (hregistered : t.registered = true) : s = t := by
  cases reply with
  | success content =>
    cases request with
    | register => exact absurd trivial hnot
    | registry | dtv | unknown => cases h
    | unregister =>
      obtain ⟨-, heq⟩ := Option.ite_none_right_eq_some.mp h
      cases heq
      cases hregistered
    | getTuners | setSource =>
      obtain ⟨-, heq⟩ := Option.ite_none_right_eq_some.mp h
      exact Option.some_inj.mp heq
  | error status =>
    cases request with
    | register =>
      have heq := Option.some_inj.mp h
      split at heq
      · next hfree =>
        rw [← heq, hfree.1] at hregistered
        cases hregistered
      · exact heq
    | unregister | registry => exact Option.some_inj.mp h
    | getTuners | setSource | dtv | unknown =>
      obtain ⟨-, heq⟩ := Option.ite_none_right_eq_some.mp h
      exact Option.some_inj.mp heq

/-- While it is registered, events alone change the list. -/
theorem tuners_kept {recent : List Observation} (hrecent : ∀ observation ∈ recent, ¬observation.Registers)
    (h : Exec.accept (next format) s recent = some t) (hregistered : t.registered = true) :
    s.registered = true ∧ t.tuners = listAll (recent.filterMap Observation.toEvent) s.tuners := by
  induction recent generalizing s with
  | nil =>
    cases h
    exact ⟨hregistered, rfl⟩
  | cons observation recent ih =>
    obtain ⟨u, hnext, hrest⟩ := Exec.accept_cons_eq_some.mp h
    obtain ⟨hfirst, hrecent⟩ := List.forall_mem_cons.mp hrecent
    obtain ⟨hu, htuners⟩ := ih hrecent hrest
    cases observation with
    | event event =>
      cases hnext
      exact ⟨hu, htuners⟩
    | exchange request reply =>
      obtain rfl := answer_kept hfirst hnext hu
      exact ⟨hu, htuners⟩

/-- Get tuners succeeds with what the events since the last registration make of no tuners. -/
theorem getTuners_since {past recent : List Observation} {version content : List UInt8}
    (hrecent : ∀ observation ∈ recent, ¬observation.Registers)
    (h : Exec.accept (next format) s (past ++ .exchange .register (.success version) ::
      recent ++ [.exchange .getTuners (.success content)]) = some t) :
    content = format.tuners (listAll (recent.filterMap Observation.toEvent) []) := by
  obtain ⟨u, hbefore, hlast⟩ := Exec.accept_append_eq_some.mp h
  obtain ⟨_, hget, -⟩ := Exec.accept_cons_eq_some.mp hlast
  obtain ⟨⟨hregistered, hcontent⟩, -⟩ := Option.ite_none_right_eq_some.mp hget
  obtain ⟨v, -, hsince⟩ := Exec.accept_append_eq_some.mp hbefore
  obtain ⟨x, hregister, hrest⟩ := Exec.accept_cons_eq_some.mp hsince
  obtain ⟨-, heq⟩ := Option.ite_none_right_eq_some.mp hregister
  cases heq
  rw [hcontent, (tuners_kept hrecent hrest hregistered).2]

end Server

end Tvd

import Tvd.Io.Queue

/-! What a log says. The functions of the I/O state log events on its descriptor and change
its queue, its buffer and the events it polls for, but never the descriptor itself. So
what such events and such changes keep, every function keeps but for closing. -/

namespace Tvd

open Exec

/-- The descriptor that an event works on. -/
def IoEvent.fd : IoEvent → Option Int32
  | .recvmsg fd | .sendPduWbuf fd _ _ | .addFdEvents fd _ _ | .removeFd fd | .close fd => some fd
  | .handlePdu _ | .ioStateSend _ | .destroyPduWbuf _ => none

/-- The event leaves the descriptor open, and works on no other one. -/
def IoEvent.On (fd : Int32) (event : IoEvent) : Prop :=
  (event.fd = none ∨ event.fd = some fd) ∧ event ≠ .close fd

/-- Logging keeps it, and so does everything that the log does not show. -/
structure Logged (J : IoState → Prop) : Prop where
  log : ∀ s event, event.On s.fd → J s → J { s with log := event :: s.log }
  frame : ∀ s epollEvents rbuf sendq, J s → J { s with epollEvents, rbuf, sendq }

namespace Logged

variable {fdio : Fdio} {J : IoState → Prop} (h : Logged J)

include h

theorem sendq {s : IoState} (hs : J s) (sendq : List Wbuf) : J { s with sendq } :=
  h.frame s s.epollEvents s.rbuf sendq hs

theorem epollEvents {s : IoState} (hs : J s) (epollEvents : UInt32) : J { s with epollEvents } :=
  h.frame s epollEvents s.rbuf s.sendq hs

theorem rbuf {s : IoState} (hs : J s) (rbuf : Option Rbuf) : J { s with rbuf } :=
  h.frame s s.epollEvents rbuf s.sendq hs

theorem watch : WatchInvariant J where
  added s _ _ hs := h.log s _ ⟨.inr rfl, nofun⟩ hs
  removed s hs := h.log s _ ⟨.inr rfl, nofun⟩ hs
  epollEvents _ epollEvents hs := h.epollEvents hs epollEvents

theorem drain : Preserves J (ioStateSendPendingWbufs fdio) := by
  refine ioStateSendPendingWbufs_preserves (fun s wbuf hs => h.log s _ ⟨.inr rfl, nofun⟩ hs) ?_
  intro s wbuf sendq result _ _ _ hs
  have hsent : J { s with log := .sendPduWbuf s.fd wbuf result :: s.log } := h.log s _ ⟨.inr rfl, nofun⟩ hs
  exact h.sendq (h.log _ (.destroyPduWbuf wbuf) ⟨.inl rfl, nofun⟩ hsent) sendq

theorem ioStateSend (wbuf : Wbuf) : Preserves J (ioStateSend fdio wbuf) := by
  intro s hs
  have hpassed : J { s with log := .ioStateSend wbuf :: s.log } := h.log s _ ⟨.inl rfl, nofun⟩ hs
  exact h.watch.ioStateSend h.drain (h.sendq hpassed _)

theorem ioStateOut : Preserves J (ioStateOut fdio) := h.watch.ioStateOut h.drain

end Logged

end Tvd

import ModuleBus.Message

set_option autoImplicit false

/-! # Calls that wait for a reply

A call is known by its peer, service and message type, and at most one call of a kind waits at a
time. Every call that is registered gets a ticket of its own: a reply is kept for the ticket whose
call it completes, and giving up a call never removes one that was registered after it. -/

namespace ModuleBus

/-- What a reply is matched by. -/
structure CallKey where
  peer : Address
  service : Service
  type : UInt8
deriving DecidableEq

/-- A reply to a call. -/
structure Reply where
  frame : FrameKind
  payload : Bytes
deriving DecidableEq

/-- Number of a registered call. -/
abbrev Ticket := Nat

/-- The calls of one participant. -/
structure PendingCalls where
  /-- The ticket of the next call. -/
  next : Ticket
  /-- Calls that wait for a reply. -/
  waiting : List (CallKey × Ticket)
  /-- Replies that were not taken yet. -/
  answered : List (Ticket × Reply)
deriving DecidableEq

namespace PendingCalls

/-- No calls at all. -/
def none : PendingCalls := ⟨0, [], []⟩

/-- Number of calls that wait. -/
def count (p : PendingCalls) : Nat := p.waiting.length

/-- The ticket of the call that waits under a key. -/
def ticket? (p : PendingCalls) (key : CallKey) : Option Ticket := p.waiting.lookup key

/-- Registers a call, unless one of its kind waits already. -/
def register (p : PendingCalls) (key : CallKey) : Option Ticket × PendingCalls :=
  match p.ticket? key with
  | some _ => (Option.none, p)
  | Option.none =>
    (some p.next, { p with next := p.next + 1, waiting := (key, p.next) :: p.waiting })

/-- Completes the call that waits under a key; tells whether there is one. -/
def complete (p : PendingCalls) (key : CallKey) (reply : Reply) : Bool × PendingCalls :=
  match p.ticket? key with
  | Option.none => (false, p)
  | some ticket =>
    (true, { p with
      waiting := p.waiting.filter fun w => w.1 != key
      answered := (ticket, reply) :: p.answered })

/-- The reply to a call. -/
def reply? (p : PendingCalls) (ticket : Ticket) : Option Reply := p.answered.lookup ticket

/-- Forgets a call: its caller has its reply or no longer waits. -/
def forget (p : PendingCalls) (ticket : Ticket) : PendingCalls :=
  { p with
    waiting := p.waiting.filter fun w => w.2 != ticket
    answered := p.answered.filter fun a => a.1 != ticket }

end PendingCalls

end ModuleBus

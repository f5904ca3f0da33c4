import ModuleBus.Dispatch.Endpoint

set_option autoImplicit false

/-! # Serving

A server takes the queued requests of its participant one after another to a handler, and sends
what the handler answers. A command that fails, also because its answer cannot be written, is
answered with an error reply. -/

namespace ModuleBus

/-- What a handler makes of a request. -/
inductive Outcome where
  | reply (payload : Bytes)
  /-- Nothing is answered. -/
  | silent
  | fail (code : ErrorCode)
  /-- An answer that takes some milliseconds. -/
  | replyAfter (ms : Nat) (payload : Bytes)
deriving DecidableEq

/-- What handles the requests of a service in a world. -/
class Handler (H W : Type) where
  handle : Clock → Message → H → W → Outcome × H × W

/-- A request that was handled, and what it failed with. -/
structure Handled where
  clock : Clock
  message : Message
  failure : Option ErrorCode
deriving DecidableEq

/-- What a server waits for. -/
inductive Serving where
  | forRequest
  /-- The time that an answer takes. -/
  | answering (request : Message) (payload : Bytes) (timer : Timer)
  /-- The next try of an error reply. -/
  | retry (reply : ErrorReply) (timer : Timer)
deriving DecidableEq

/-- A server with its handler. -/
structure Server (H : Type) where
  handler : H
  waiting : Serving
  /-- What was handled, newest first. -/
  handled : List Handled

namespace Server

variable {H W : Type}

/-- A server that has not handled anything. -/
def start (handler : H) : Server H := ⟨handler, .forRequest, []⟩

/-- When a server that nothing reaches acts again. -/
def wake? (s : Server H) : Option Nat :=
  match s.waiting with
  | .forRequest => none
  | .answering _ _ timer => some timer.due
  | .retry _ timer => some timer.due

/-- Notes that the request handled last has failed. -/
def noteFailure (s : Server H) (code : ErrorCode) : Server H :=
  match s.handled with
  | [] => s
  | h :: rest => { s with handled := { h with failure := some code } :: rest }

variable [Link W]

/-- Writes an error reply, and goes on unless it has to be tried again. -/
def refuse (s : Server H) (clock : Clock) (r : ErrorReply) (e : Endpoint W) :
    Server H × Endpoint W :=
  match r.send clock e with
  | (none, e) => ({ s with waiting := .forRequest }, e)
  | (some (r, timer), e) => ({ s with waiting := .retry r timer }, e)

/-- Ends a request that failed. -/
def fail (s : Server H) (clock : Clock) (m : Message) (code : ErrorCode) (e : Endpoint W) :
    Server H × Endpoint W :=
  let s := s.noteFailure code
  if m.frame = .command then
    s.refuse clock (.first ⟨m.source, m.service.toByte, m.type, code⟩) e
  else ({ s with waiting := .forRequest }, e)

/-- Answers a request. -/
def answer (s : Server H) (clock : Clock) (m : Message) (payload : Bytes) (e : Endpoint W) :
    Server H × Endpoint W :=
  match e.reply m payload with
  | (.ok _, e) => ({ s with waiting := .forRequest }, e)
  | (.error error, e) => s.fail clock m error.status e

/-- Takes a request to the handler. -/
def serve [Handler H W] (s : Server H) (clock : Clock) (m : Message) (e : Endpoint W) :
    Server H × Endpoint W :=
  let (outcome, handler, world) := Handler.handle clock m s.handler e.world
  let s := { s with handler := handler, handled := ⟨clock, m, none⟩ :: s.handled }
  let e := { e with world := world }
  match outcome with
  | .reply payload => s.answer clock m payload e
  | .silent => ({ s with waiting := .forRequest }, e)
  | .fail code => s.fail clock m code e
  | .replyAfter ms payload => ({ s with waiting := .answering m payload (clock.after ms) }, e)

/-- One step, if there is anything to do. -/
def step [Handler H W] (s : Server H) (clock : Clock) (e : Endpoint W) :
    Option (Server H × Endpoint W) :=
  match s.waiting with
  | .forRequest =>
    match e.node.inbound with
    | [] => none
    | m :: rest => some (s.serve clock m (e.update fun d => { d with inbound := rest }))
  | .answering m payload timer =>
    if timer.isOver clock then some (s.answer clock m payload e) else none
  | .retry r timer => if timer.isOver clock then some (s.refuse clock r e) else none

end Server

end ModuleBus

import ModuleBus.Dispatch.Endpoint

set_option autoImplicit false

/-! # Calls

A call sends a command and waits for the reply of its kind from the same peer. A `Request` is a
command together with how its reply is read, a `Notice` a message that nobody answers; both are
what an `Exchange` does between two participants. -/

namespace ModuleBus

/-- A call that waits for its reply. -/
structure Call where
  ticket : Ticket
  timer : Timer
deriving DecidableEq

namespace Call

/-- What a reply means for its call. -/
def answer (reply : Reply) : Except DispatchError Bytes :=
  match reply.frame with
  | .response => .ok reply.payload
  | .error => .error (.remote (.ofPayload reply.payload))
  | _ => .error .malformed

/-- Forgets a call. -/
def abandon {W : Type} (c : Call) (e : Endpoint W) : Endpoint W :=
  e.update fun d => { d with pending := d.pending.forget c.ticket }

/-- Sends a command that waits for its reply so many milliseconds, unless one of its kind waits
already. -/
def start {W : Type} [Link W] (clock : Clock) (key : CallKey) (payload : Bytes) (timeout : Nat)
    (e : Endpoint W) : Except DispatchError Call × Endpoint W :=
  match e.node.pending.register key with
  | (none, _) => (.error .busy, e)
  | (some ticket, pending) =>
    let call : Call := ⟨ticket, clock.after timeout⟩
    let e := e.update fun d => { d with pending := pending }
    match e.send key.peer .command key.service key.type payload with
    | (.error error, e) => (.error error, call.abandon e)
    | (.ok _, e) => (.ok call, e)

/-- The end of a call: its reply, or the timeout. -/
def step {W : Type} (c : Call) (clock : Clock) (e : Endpoint W) :
    Option (Except DispatchError Bytes × Endpoint W) :=
  match e.node.pending.reply? c.ticket with
  | some reply => some (answer reply, c.abandon e)
  | none => if c.timer.isOver clock then some (.error .timeout, c.abandon e) else none

end Call

/-! ## Requests and notices -/

/-- A command, and how its reply is read. -/
structure Request (α : Type) where
  key : CallKey
  payload : Bytes
  read : Bytes → Except DispatchError α
  /-- What the arrival of a reply does to the participant that asked. -/
  onReply : Bytes → Dispatcher → Dispatcher

namespace Request

variable {α β : Type}

/-- The request whose reply is read and then changed. -/
def map (f : α → β) (r : Request α) : Request β :=
  { r with read := fun bytes => (r.read bytes).map f }

variable {W : Type}

/-- What a call for the request ended with. -/
def finish (r : Request α) (reply : Except DispatchError Bytes) (e : Endpoint W) :
    Except DispatchError α × Endpoint W :=
  match reply with
  | .error error => (.error error, e)
  | .ok bytes =>
    (r.read bytes, e.update (r.onReply bytes))

end Request

/-- A message that nobody answers. -/
structure Notice where
  peer : Address
  frame : FrameKind
  service : Service
  type : UInt8
  payload : Bytes
deriving DecidableEq

/-- What one participant wants of another. -/
inductive Exchange (α : Type) where
  /-- Something that cannot even be sent. -/
  | refused (error : DispatchError)
  | notice (notice : Notice) (result : (written : Nat) → α)
  /-- A request, with its timeout in milliseconds. -/
  | request (request : Request α) (timeout : Nat)

namespace Exchange

variable {α β : Type}

/-- The exchange whose result is changed. -/
def map (f : α → β) : Exchange α → Exchange β
  | refused error => refused error
  | notice n result => notice n (f ∘ result)
  | request r timeout => request (r.map f) timeout

/-- The exchange of a request that may have been refused. -/
def ofRequest (timeout : Nat) : Except DispatchError (Request α) → Exchange α
  | .error error => refused error
  | .ok r => request r timeout

end Exchange

/-- An exchange that was started. -/
inductive Exchanging (α : Type) where
  | finished (result : Except DispatchError α)
  | waiting (call : Call) (request : Request α)

namespace Exchanging

variable {α : Type} {W : Type}

/-- Starts an exchange. -/
def start [Link W] (x : Exchange α) (clock : Clock) (e : Endpoint W) : Exchanging α × Endpoint W :=
  match x with
  | .refused error => (finished (.error error), e)
  | .notice n result =>
    let (written, e) := e.send n.peer n.frame n.service n.type n.payload
    (finished (written.map result), e)
  | .request r timeout =>
    match Call.start clock r.key r.payload timeout e with
    | (.error error, e) => (finished (.error error), e)
    | (.ok call, e) => (waiting call r, e)

/-- One step, if there is anything to do. -/
def step (x : Exchanging α) (clock : Clock) (e : Endpoint W) :
    Option (Exchanging α × Endpoint W) :=
  match x with
  | finished _ => none
  | waiting call r => (call.step clock e).map fun (reply, e) =>
    let (result, e) := r.finish reply e
    (finished result, e)

/-- When an exchange that nothing reaches acts again. -/
def wake? : Exchanging α → Option Nat
  | finished _ => none
  | waiting call _ => some call.timer.due

/-- Forgets an exchange that is not finished. -/
def abandon (x : Exchanging α) (e : Endpoint W) : Endpoint W :=
  match x with
  | finished _ => e
  | waiting call _ => call.abandon e

end Exchanging

end ModuleBus

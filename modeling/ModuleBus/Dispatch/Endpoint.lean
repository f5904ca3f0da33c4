import ModuleBus.Clock
import ModuleBus.Dispatch.Dispatcher

set_option autoImplicit false

/-! # Sending

An endpoint is a participant together with the world that its link is in. A message is written
packet by packet, without anything of the same participant in between, and a packet that cannot be
written ends it. Error replies are tried again a few times, with a pause in between. -/

namespace ModuleBus

/-- A participant in its world. -/
structure Endpoint (W : Type) where
  node : Dispatcher
  world : W

namespace Endpoint

variable {W : Type}

/-- The address of the participant. -/
def address (e : Endpoint W) : Address := e.node.address

/-- The endpoint with its participant changed. -/
def update (e : Endpoint W) (f : Dispatcher → Dispatcher) : Endpoint W :=
  { e with node := f e.node }

/-- Counts a remark. -/
def note (e : Endpoint W) (severity : Severity) : Endpoint W := e.update (·.note severity)

variable [Link W]

/-- Moves the participant to another address. -/
def setAddress (e : Endpoint W) (a : Address) : Endpoint W where
  node := { e.node with encoder := { e.node.encoder with source := a } }
  world := Link.setAddress e.node.port a e.world

/-- Sends an envelope, and counts the bytes written. -/
def sendEnvelope (e : Endpoint W) (destination : Address) (maySeal : Bool) (bytes : Bytes) :
    Except DispatchError Nat × Endpoint W :=
  match e.node.frame destination maySeal bytes with
  | (.error error, node) => (.error (.codec error), { e with node := node })
  | (.ok outgoing, node) =>
    let (written, world) := writeAll node.port destination outgoing.packets e.world
    (written.mapError .transport, ⟨node, world⟩)

/-- Sends a message, and counts the bytes written. -/
def send (e : Endpoint W) (destination : Address) (frame : FrameKind) (service : Service)
    (type : UInt8) (payload : Bytes) : Except DispatchError Nat × Endpoint W :=
  e.sendEnvelope destination (Dispatcher.isSealable service.toByte)
    (envelope frame service.toByte type payload)

/-- Answers a request. -/
def reply (e : Endpoint W) (request : Message) (payload : Bytes) :
    Except DispatchError Nat × Endpoint W :=
  e.send request.source .response request.service request.type payload

end Endpoint

/-! ## Error replies -/

/-- An error reply on its way, and the number of the next try. -/
structure ErrorReply where
  refusal : Refusal
  attempt : Nat
deriving DecidableEq

namespace ErrorReply

/-- An error reply that was not tried yet. -/
def first (refusal : Refusal) : ErrorReply := ⟨refusal, 1⟩

/-- Times that an error reply is written at most. -/
def maxAttempts (s : DispatchSettings) : Nat := max 1 s.errorReplyAttempts

variable {W : Type} [Link W]

/-- Writes an error reply. If that fails and it may be tried again, the reply waits for that. -/
def send (r : ErrorReply) (clock : Clock) (e : Endpoint W) :
    Option (ErrorReply × Timer) × Endpoint W :=
  match e.sendEnvelope r.refusal.destination (Dispatcher.isSealable r.refusal.service)
    (envelope .error r.refusal.service r.refusal.type r.refusal.code.toPayload) with
  | (.ok _, e) => (none, e)
  | (.error _, e) =>
    if r.attempt < maxAttempts e.node.settings then
      (some ({ r with attempt := r.attempt + 1 }, clock.after e.node.settings.errorRetryDelay), e)
    else (none, e.note .error)

end ErrorReply

end ModuleBus

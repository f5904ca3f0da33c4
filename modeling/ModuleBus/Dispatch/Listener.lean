import ModuleBus.Dispatch.Endpoint

set_option autoImplicit false

/-! # Listening

Every participant listens to its link: it collects packets into messages and takes the messages
in. A partial message is given up when its deadline passes while no packet waits; only packets of
the message itself move the deadline. After a failed receive, and between the tries of an error
reply, the listener pauses. -/

namespace ModuleBus

/-- What a listener waits for. -/
inductive Listening where
  /-- A packet, or the deadline of the partial message. -/
  | forPacket (deadline : Timer)
  /-- The end of a pause after a failed receive. -/
  | pause (timer : Timer)
  /-- The next try of an error reply. -/
  | retry (reply : ErrorReply) (timer : Timer)
deriving DecidableEq

/-- The listener of a participant. -/
structure Listener where
  reassembler : Reassembler
  /-- When the partial message is given up. -/
  deadline : Nat
  waiting : Listening

namespace Listener

/-- A listener at the start, with a receive buffer of the given size. -/
def start (settings : DispatchSettings) : Listener :=
  ⟨.start (List.replicate settings.receiveBuffer 0), 0, .forPacket ⟨0, 0⟩⟩

/-- Waits for the next packet. -/
def listen (l : Listener) (clock : Clock) : Listener :=
  { l with waiting := .forPacket (clock.at l.deadline) }

/-- When a listener that nothing reaches acts again. -/
def wake? (l : Listener) : Option Nat :=
  match l.waiting with
  | .forPacket deadline => if l.reassembler.isIdle then none else some deadline.due
  | .pause timer => some timer.due
  | .retry _ timer => some timer.due

variable {W : Type} [Link W]

/-- Writes an error reply, and listens on unless it has to be tried again. -/
def refuse (l : Listener) (clock : Clock) (r : ErrorReply) (e : Endpoint W) :
    Listener × Endpoint W :=
  match r.send clock e with
  | (none, e) => (l.listen clock, e)
  | (some (r, timer), e) => ({ l with waiting := .retry r timer }, e)

/-- Takes in one packet. -/
def take (l : Listener) (clock : Clock) (packet : Bytes) (e : Endpoint W) :
    Listener × Endpoint W :=
  let (result, reassembler) := l.reassembler.push packet
  let l := { l with reassembler := reassembler }
  match result with
  | .error _ => (l.listen clock, e)
  | .ok none =>
    let deadline := clock.now + ofMillis e.node.settings.reassemblyTimeout
    (({ l with deadline := deadline }).listen clock, e)
  | .ok (some done) =>
    if done.truncated then (l.listen clock, e.note .warning)
    else
      match e.node.accept done.source done.sealed (reassembler.content done) with
      | (none, node) => (l.listen clock, { e with node := node })
      | (some refusal, node) => l.refuse clock (.first refusal) { e with node := node }

/-- One step, if there is anything to do. -/
def step (l : Listener) (clock : Clock) (e : Endpoint W) : Option (Listener × Endpoint W) :=
  match l.waiting with
  | .pause timer => if timer.isOver clock then some (l.listen clock, e) else none
  | .retry r timer => if timer.isOver clock then some (l.refuse clock r e) else none
  | .forPacket deadline =>
    match Link.receive e.node.port e.world with
    | (.nothing, _) =>
      if !l.reassembler.isIdle && deadline.isOver clock then
        some (({ l with reassembler := l.reassembler.reset }).listen clock, e.note .warning)
      else none
    | (.lost, world) => some (l, { e with world := world })
    | (.failed _, world) =>
      some ({ l with waiting := .pause (clock.after e.node.settings.errorRetryDelay) },
        ({ e with world := world }).note .warning)
    | (.packet bytes, world) =>
      some (l.take clock (bytes.take maxPacket) { e with world := world })

end Listener

end ModuleBus

import ModuleBus.Client

set_option autoImplicit false

/-! # The handshake of a module

A module that has just been switched on asks for the bus, declares its name to get its address,
and agrees on a session key with the controller. As soon as the grant is lost, or a step fails,
the attempt is given up: the key is forgotten, the request line released, and after a pause the
next attempt begins. -/

namespace ModuleBus

/-- How far a handshake is. -/
inductive HandshakeStage where
  | requestIsolation
  | declare
  | keyExchange
  | finishExchange
  | done
deriving DecidableEq

/-- What a handshake waits for. -/
inductive HandshakeWait where
  /-- The grant, or the end of waiting for it. -/
  | forGrant (timer : Timer)
  /-- The pause before the next attempt. -/
  | backoff (timer : Timer)
  /-- The pause after the grant. -/
  | settling (timer : Timer)
  /-- The pause before the module declares itself. -/
  | delaying (timer : Timer)
  /-- The address. -/
  | declaring (call : Call)
  /-- The controller's point, to be used with the secret. -/
  | exchanging (address : Address) (secret : Nat) (call : Call)
  /-- Nothing: the module has its address and its key. -/
  | finished (address : Address)
deriving DecidableEq

/-- The handshake of one module. -/
structure Handshake where
  settings : HandshakeSettings
  name : String
  stage : HandshakeStage
  /-- Attempts that were started. -/
  attempts : Nat
  waiting : HandshakeWait
deriving DecidableEq

namespace Handshake

/-- The address at the end of the handshake. -/
def address? (h : Handshake) : Option Address :=
  match h.waiting with
  | .finished address => some address
  | _ => none

/-- When a handshake that nothing reaches acts again. -/
def wake? (h : Handshake) : Option Nat :=
  match h.waiting with
  | .forGrant timer | .backoff timer | .settling timer | .delaying timer => some timer.due
  | .declaring call | .exchanging _ _ call => some call.timer.due
  | .finished _ => none

variable {W : Type} [Link W] [Lines W]

/-- Drives the request line. -/
def setRequest (e : Endpoint W) (on : Bool) : Endpoint W :=
  { e with world := Lines.setRequest e.node.port on e.world }

/-- Switches the lamp. -/
def setIndicator (e : Endpoint W) (on : Bool) : Endpoint W :=
  { e with world := Lines.setIndicator e.node.port on e.world }

/-- The grant line is asserted. -/
def isGranted (e : Endpoint W) : Bool := Lines.isGranted e.world e.node.port

/-- Begins the next attempt. -/
def begin (h : Handshake) (clock : Clock) (e : Endpoint W) : Handshake × Endpoint W :=
  ({ h with
     stage := .requestIsolation
     attempts := h.attempts + 1
     waiting := .forGrant (clock.after h.settings.requestTimeout) },
   setRequest (setIndicator e true) true)

/-- A handshake with its first attempt begun. -/
def start (settings : HandshakeSettings) (name : String) (clock : Clock) (e : Endpoint W) :
    Handshake × Endpoint W :=
  begin ⟨settings, name, .requestIsolation, 0, .forGrant (clock.at clock.now)⟩ clock e

/-- Releases the request line and waits for the next attempt. -/
def backOff (h : Handshake) (clock : Clock) (e : Endpoint W) : Handshake × Endpoint W :=
  ({ h with waiting := .backoff (clock.after h.settings.retryBackoff) }, setRequest e false)

/-- Gives an attempt up after its grant. -/
def giveUp (h : Handshake) (clock : Clock) (e : Endpoint W) : Handshake × Endpoint W :=
  h.backOff clock ((e.note .warning).update (·.revokeKey .controller))

/-- Forgets the call that a handshake waits for. -/
def abandonCall (h : Handshake) (e : Endpoint W) : Endpoint W :=
  match h.waiting with
  | .declaring call | .exchanging _ _ call => call.abandon e
  | _ => e

/-- Sends the declaration. -/
def declare (h : Handshake) (clock : Clock) (e : Endpoint W) : Handshake × Endpoint W :=
  let e := e.update (·.revokeKey .controller)
  let request := Client.declare h.name
  match Call.start clock request.key request.payload h.settings.declareTimeout e with
  | (.error _, e) => h.giveUp clock e
  | (.ok call, e) => ({ h with waiting := .declaring call }, e)

/-- Takes an address and sends a public point. -/
def exchange (h : Handshake) (clock : Clock) (address : Address) (e : Endpoint W) :
    Handshake × Endpoint W :=
  let e := if address = e.address then e else e.setAddress address
  let h := { h with stage := .keyExchange }
  let secret := e.node.entropy.secret
  let e := e.update fun d => { d with entropy := d.entropy.next }
  let request := Client.exchangeKey (e.node.suite.publicPoint secret)
  match Call.start clock request.key request.payload h.settings.keyExchangeTimeout e with
  | (.error _, e) => h.giveUp clock e
  | (.ok call, e) => ({ h with waiting := .exchanging address secret call }, e)

/-- Completes the exchange with the controller's point. -/
def complete (h : Handshake) (clock : Clock) (address : Address) (secret : Nat) (point : Bytes)
    (e : Endpoint W) : Handshake × Endpoint W :=
  let h := { h with stage := .finishExchange }
  match e.node.suite.agree secret point with
  | .error _ => h.giveUp clock e
  | .ok key =>
    ({ h with stage := .done, waiting := .finished address },
     setIndicator (setRequest (e.update (·.installKey .controller key)) false) false)

/-- One step towards the key, if there is anything to do. -/
def advance (h : Handshake) (clock : Clock) (e : Endpoint W) : Option (Handshake × Endpoint W) :=
  match h.waiting with
  | .settling timer =>
    if timer.isOver clock then
      if isGranted e then
        some ({ h with waiting := .delaying (clock.after h.settings.declareDelay) }, e)
      else some (h.giveUp clock e)
    else none
  | .delaying timer => if timer.isOver clock then some (h.declare clock e) else none
  | .declaring call =>
    (call.step clock e).map fun (reply, e) =>
      match ((Client.declare h.name).finish reply e).1 with
      | .ok (some address) => h.exchange clock address e
      | _ => h.giveUp clock e
  | .exchanging address secret call =>
    (call.step clock e).map fun (reply, e) =>
      match reply with
      | .ok point => h.complete clock address secret point e
      | .error _ => h.giveUp clock e
  | _ => none

/-- One step, if there is anything to do. After the grant, the loss of the grant ends an attempt
that cannot go on at once. -/
def step (h : Handshake) (clock : Clock) (e : Endpoint W) : Option (Handshake × Endpoint W) :=
  match h.waiting with
  | .finished _ => none
  | .forGrant timer =>
    if isGranted e then
      some ({ h with stage := .declare, waiting := .settling (clock.after h.settings.settle) }, e)
    else if timer.isOver clock then some (h.backOff clock e)
    else none
  | .backoff timer => if timer.isOver clock then some (h.begin clock e) else none
  | _ =>
    match h.advance clock e with
    | some next => some next
    | none => if isGranted e then none else some (h.giveUp clock (h.abandonCall e))

end Handshake

end ModuleBus

import ModuleBus.Dispatch.Error
import ModuleBus.Dispatch.Pending
import ModuleBus.Packet.Encoder
import ModuleBus.Packet.Reassembler
import ModuleBus.Settings.Basic
import ModuleBus.Tally

set_option autoImplicit false

/-! # Dispatchers

A dispatcher is what a participant remembers of its traffic: its address and sequence number, the
session keys of its peers, the services that it answers for, the calls that wait for a reply and
the requests that wait to be handled. `frame` makes packets of an envelope that goes out, sealed if
there is a key for the peer, and `accept` takes in the bytes of a message that has arrived. -/

namespace ModuleBus

/-- Requests that wait to be handled at most; a command that finds the queue full is refused. -/
def inboundCapacity : Nat := 8

/-- What one participant remembers. -/
structure Dispatcher where
  port : Port
  settings : DispatchSettings
  suite : Suite
  encoder : FrameEncoder
  keys : List (Address × SessionKey)
  services : List Service
  pending : PendingCalls
  inbound : List Message
  entropy : Entropy
  tally : Tally

/-- An error message that answers a command. -/
structure Refusal where
  destination : Address
  service : UInt8
  type : UInt8
  code : ErrorCode
deriving DecidableEq

namespace Dispatcher

/-- The dispatcher of a participant that has not sent or received anything. The seed of its random
source is its own. -/
def start (port : Port) (address : Address) (settings : DispatchSettings)
    (services : List Service) (seed : Nat) : Dispatcher where
  port := port
  settings := settings
  suite := .standard
  encoder := .start address settings.layout
  keys := []
  services := services
  pending := .none
  inbound := []
  entropy := ⟨seed, 0⟩
  tally := .empty

/-- The address that messages are sent from. -/
def address (d : Dispatcher) : Address := d.encoder.source

/-- Counts a remark. -/
def note (d : Dispatcher) (severity : Severity) : Dispatcher :=
  { d with tally := d.tally.note severity d.address }

/-! ## Keys and services -/

/-- The key shared with a peer. -/
def key? (d : Dispatcher) (peer : Address) : Option SessionKey := d.keys.lookup peer

/-- There is a key for a peer. -/
def hasKey (d : Dispatcher) (peer : Address) : Bool := (d.key? peer).isSome

/-- Forgets the key shared with a peer. -/
def revokeKey (d : Dispatcher) (peer : Address) : Dispatcher :=
  { d with keys := d.keys.filter fun k => k.1 != peer }

/-- Keeps a key shared with a peer, in place of an older one. -/
def installKey (d : Dispatcher) (peer : Address) (key : SessionKey) : Dispatcher :=
  { d with keys := (peer, key) :: (d.revokeKey peer).keys }

/-- Forgets all keys. -/
def clearKeys (d : Dispatcher) : Dispatcher := { d with keys := [] }

/-- Answers for one more service. -/
def register (d : Dispatcher) (service : Service) : Dispatcher :=
  if d.services.contains service then d else { d with services := d.services ++ [service] }

@[simp] theorem key?_installKey_self (d : Dispatcher) (peer : Address) (key : SessionKey) :
    (d.installKey peer key).key? peer = some key := by
  simp [key?, installKey]

/-! ## Messages that go out -/

/-- Messages of the initialization service are never sealed. -/
def isSealable (service : UInt8) : Bool := service != Service.initialization.toByte

/-- The packets of an envelope, sealed if there is a key for the peer and it may be. -/
def frame (d : Dispatcher) (destination : Address) (maySeal : Bool) (bytes : Bytes) :
    Except CodecError Outgoing × Dispatcher :=
  match if maySeal then d.key? destination else none with
  | some key =>
    let (outgoing, encoder) :=
      d.encoder.encode destination (d.suite.lock key d.entropy.nonce bytes) true
    (outgoing, { d with encoder := encoder, entropy := d.entropy.next })
  | none =>
    let (outgoing, encoder) := d.encoder.encode destination bytes false
    (outgoing, { d with encoder := encoder })

/-! ## Messages that come in -/

/-- Hands a message on: a reply to the call that waits for it, a request to the queue. The refusal
is what a command is answered with that cannot be queued. -/
def route (d : Dispatcher) (m : Message) : Option Refusal × Dispatcher :=
  let refuse (code : ErrorCode) : Option Refusal :=
    if m.frame = .command then some ⟨m.source, m.service.toByte, m.type, code⟩ else none
  if !m.frame.isRequest then
    match d.pending.complete ⟨m.source, m.service, m.type⟩ ⟨m.frame, m.payload⟩ with
    | (true, pending) => (none, { d with pending := pending })
    | (false, _) => (none, d.note .warning)
  else if !d.services.contains m.service then (refuse .noSupport, d)
  else if d.inbound.length ≥ inboundCapacity then (refuse .busy, d.note .warning)
  else (none, { d with inbound := d.inbound ++ [m] })

/-- The text of a message from a peer. -/
def open? (d : Dispatcher) (source : Address) (sealed : Bool) (bytes : Bytes) : Option Bytes :=
  if !sealed then some bytes
  else
    match d.key? source with
    | none => none
    | some key => (d.suite.unlock key bytes).toOption

/-- Takes in the bytes of a whole message. -/
def accept (d : Dispatcher) (source : Address) (sealed : Bool) (bytes : Bytes) :
    Option Refusal × Dispatcher :=
  match d.open? source sealed bytes with
  | none => (none, d.note .warning)
  | some plain =>
    match Message.decode source d.address plain with
    | .ok m => d.route m
    | .error (.unknownService .command service type) =>
      (some ⟨source, service, type, .noSupport⟩, d)
    | .error _ => (none, d.note .warning)

end Dispatcher

end ModuleBus

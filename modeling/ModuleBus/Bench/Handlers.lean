import ModuleBus.Bench.Basic
import ModuleBus.Storage.LogStore
import ModuleBus.Topic

set_option autoImplicit false

/-! # Handlers for the bench

The storage service, the radio with given answers of its uplink, a handler that sends every
payload back, and one that follows a script. -/

namespace ModuleBus

/-- What a log store makes of a request. -/
def LogStore.outcome (s : LogStore) (m : Message) : Outcome × LogStore :=
  if m.service ≠ .storage then (.fail .noSupport, s)
  else
    match s.respond m.type m.payload with
    | (.ok payload, s) => (.reply payload, s)
    | (.error code, s) => (.fail code, s)

instance {W : Type} : Handler LogStore W where
  handle _ m s w :=
    let (outcome, s) := s.outcome m
    (outcome, s, w)

/-- What a radio is asked to publish. -/
def publication? (m : Message) : Except ErrorCode TopicMessage :=
  if m.service = .networking ∧ m.type = NetworkingRequest.publish.toByte then
    TopicMessage.parse m.payload
  else .error .noSupport

/-- Something that an uplink was given. -/
structure Sighting where
  clock : Clock
  source : Address
  message : TopicMessage
deriving DecidableEq

/-- A radio whose uplink gives some answers in turn, and then its last one again and again. -/
structure Radio where
  answers : List Int
  /-- What the uplink was given, newest first. -/
  seen : List Sighting
deriving DecidableEq

namespace Radio

/-- The next answer, and the radio after it. -/
def next (r : Radio) : Int × Radio :=
  match r.answers with
  | [] => (0, r)
  | [last] => (last, r)
  | answer :: rest => (answer, { r with answers := rest })

/-- What a radio makes of a request. -/
def outcome (r : Radio) (clock : Clock) (m : Message) : Outcome × Radio :=
  match publication? m with
  | .error code => (.fail code, r)
  | .ok message =>
    let (answer, r) := r.next
    (.reply (Bytes.ofIntLE 4 answer), { r with seen := ⟨clock, m.source, message⟩ :: r.seen })

end Radio

/-- A handler of the bench. -/
inductive BenchHandler where
  | storage (store : LogStore)
  | radio (radio : Radio)
  | echo
  /-- What is made of each service and type; anything else is not supported. -/
  | script (outcomes : List ((UInt8 × UInt8) × Outcome))

namespace BenchHandler

/-- What a handler makes of a request. -/
def outcome (h : BenchHandler) (clock : Clock) (m : Message) : Outcome × BenchHandler :=
  match h with
  | storage s => let (outcome, s) := s.outcome m; (outcome, storage s)
  | radio r => let (outcome, r) := r.outcome clock m; (outcome, radio r)
  | echo => (.reply m.payload, echo)
  | script outcomes =>
    ((outcomes.lookup (m.service.toByte, m.type)).getD (.fail .noSupport), script outcomes)

/-- What the uplink of a radio was given since the last time, oldest first. -/
def takeSeen : BenchHandler → List Sighting × BenchHandler
  | radio r => (r.seen.reverse, radio { r with seen := [] })
  | h => ([], h)

end BenchHandler

instance {W : Type} : Handler BenchHandler W where
  handle clock m h w :=
    let (outcome, h) := h.outcome clock m
    (outcome, h, w)

namespace Bench

variable {A W α : Type}

/-- Serves a station with a handler that has not handled anything. -/
def serve (b : Bench A BenchHandler W α) (i : Nat) (h : BenchHandler) :
    Bench A BenchHandler W α :=
  { b with stations := b.stations.modify i fun s => { s with server := some (.start h) } }

/-- What uplinks were given since the last time, in the order of the turns. -/
def takeSeen (b : Bench A BenchHandler W α) : List Sighting × Bench A BenchHandler W α :=
  ((b.stations.flatMap fun s => (s.server.map fun v => v.handler.takeSeen.1).getD []).mergeSort
      fun x y => x.clock.turn ≤ y.clock.turn,
    { b with stations := b.stations.map fun s =>
      { s with server := s.server.map fun v => { v with handler := v.handler.takeSeen.2 } } })

end Bench

end ModuleBus

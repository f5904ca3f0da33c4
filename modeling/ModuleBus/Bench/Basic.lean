import ModuleBus.Dispatch.Listener
import ModuleBus.Dispatch.Server
import ModuleBus.Handshake

set_option autoImplicit false

/-! # The bench

A bench holds participants on a shared link and runs them against the clock. In each turn everybody
acts until he waits: the listeners and servers of the stations, whatever else lives in the world,
and the errands that were given to stations. When nobody can act, the clock goes to the next
moment at which somebody will. -/

namespace ModuleBus

/-- Repeats a step as long as it can be done; tells whether it was done at all. -/
def repeatStep {σ : Type} (step : σ → Option σ) : (fuel : Nat) → σ → Bool × σ
  | 0, s => (false, s)
  | fuel + 1, s =>
    match step s with
    | none => (false, s)
    | some s => (true, (repeatStep step fuel s).2)

/-- Steps of one participant in one turn at most. -/
def stepsPerTurn : Nat := 100000

/-- A world that knows the time. -/
class Timed (W : Type) where
  setTime : Nat → W → W

/-! ## Stations -/

/-- A participant with what runs on it. -/
structure Station (H : Type) where
  node : Dispatcher
  listener : Option Listener
  server : Option (Server H)

namespace Station

variable {H W : Type}

/-- A participant that listens. -/
def listening (node : Dispatcher) : Station H := ⟨node, some (.start node.settings), none⟩

/-- When a station that nothing reaches acts again. -/
def wakes (s : Station H) : List Nat :=
  ((s.listener.bind Listener.wake?).toList) ++ ((s.server.bind Server.wake?).toList)

variable [Link W]

/-- The listener and the server act until they wait. -/
def act [Handler H W] (clock : Clock) (s : Station H) (w : W) : Bool × Station H × W :=
  let (heard, s, w) := match s.listener with
    | none => (false, s, w)
    | some listener =>
      let (moved, listener, e) :=
        repeatStep (fun (p : Listener × Endpoint W) => p.1.step clock p.2) stepsPerTurn
          (listener, ⟨s.node, w⟩)
      (moved, { s with listener := some listener, node := e.node }, e.world)
  match s.server with
  | none => (heard, s, w)
  | some server =>
    let (moved, server, e) :=
      repeatStep (fun (p : Server H × Endpoint W) => p.1.step clock p.2) stepsPerTurn
        (server, ⟨s.node, w⟩)
    (heard || moved, { s with server := some server, node := e.node }, e.world)

end Station

/-! ## Errands -/

/-- What a station was told to do. -/
inductive Assignment (α : Type) where
  /-- An exchange that starts when the timer is over. -/
  | delayed (timer : Timer) (exchange : Exchange α)
  | exchanging (exchanging : Exchanging α)
  /-- An exchange that ended at a moment. -/
  | exchanged (time : Nat) (result : Except DispatchError α)
  /-- An error reply that is written, at once or when the timer is over. -/
  | refusing (reply : ErrorReply) (timer : Option Timer)
  | refused
  | shaking (handshake : Handshake)

namespace Assignment

variable {α W : Type}

/-- Nothing is left to do. -/
def isDone : Assignment α → Bool
  | exchanged _ _ | refused => true
  | shaking h => h.address?.isSome
  | _ => false

/-- What an exchange ended with. -/
def result? : Assignment α → Option (Except DispatchError α)
  | exchanged _ result => some result
  | _ => none

/-- The moment at which an exchange ended. -/
def ended? : Assignment α → Option Nat
  | exchanged time _ => some time
  | _ => none

/-- The handshake of a station that goes through one. -/
def handshake? : Assignment α → Option Handshake
  | shaking h => some h
  | _ => none

/-- When an assignment that nothing reaches acts again. -/
def wake? : Assignment α → Option Nat
  | delayed timer _ => some timer.due
  | exchanging x => x.wake?
  | refusing _ timer => timer.map Timer.due
  | shaking h => h.wake?
  | _ => none

/-- Starts an exchange now. -/
def exchange [Link W] (clock : Clock) (x : Exchange α) (e : Endpoint W) :
    Assignment α × Endpoint W :=
  let (x, e) := Exchanging.start x clock e
  (exchanging x, e)

/-- Gives an assignment up. -/
def abandon (a : Assignment α) (e : Endpoint W) : Endpoint W :=
  match a with
  | exchanging x => x.abandon e
  | shaking h => h.abandonCall e
  | _ => e

/-- One step, if there is anything to do. -/
def step [Link W] [Lines W] (a : Assignment α) (clock : Clock) (e : Endpoint W) :
    Option (Assignment α × Endpoint W) :=
  match a with
  | delayed timer x => if timer.isOver clock then some (exchange clock x e) else none
  | exchanging (.finished result) => some (exchanged clock.now result, e)
  | exchanging x => (x.step clock e).map fun (x, e) => (exchanging x, e)
  | refusing r timer =>
    if timer.all (·.isOver clock) then
      match r.send clock e with
      | (none, e) => some (refused, e)
      | (some (r, timer), e) => some (refusing r (some timer), e)
    else none
  | shaking h => (h.step clock e).map fun (h, e) => (shaking h, e)
  | _ => none

end Assignment

/-- An assignment of the station with a number. -/
structure Errand (α : Type) where
  station : Nat
  assignment : Assignment α

/-! ## The bench itself -/

/-- What else acts in a world, among stations. -/
class Actor (A H W : Type) where
  /-- Acts until it waits; tells whether it did anything. -/
  act : Clock → A → List (Station H) → W → Bool × A × List (Station H) × W
  /-- The moments at which it acts again. -/
  wakes : A → List Nat

/-- Participants on a shared link. -/
structure Bench (A H W α : Type) where
  clock : Clock
  world : W
  stations : List (Station H)
  actor : A
  errands : List (Errand α)

namespace Bench

variable {A H W α : Type}

/-- Changes the participant of a station and the world; gives `default` if there is none. -/
def atStation {β : Type} (b : Bench A H W α) (i : Nat) (default : β)
    (f : Clock → Endpoint W → β × Endpoint W) : β × Bench A H W α :=
  match b.stations[i]? with
  | none => (default, b)
  | some s =>
    let (result, e) := f b.clock ⟨s.node, b.world⟩
    (result, { b with
      stations := b.stations.set i { s with node := e.node }
      world := e.world })

/-- Changes the participant of a station. -/
def update (b : Bench A H W α) (i : Nat) (f : Dispatcher → Dispatcher) : Bench A H W α :=
  (b.atStation i () fun _ e => ((), e.update f)).2

/-- Changes the world. -/
def onWorld (b : Bench A H W α) (f : W → W) : Bench A H W α := { b with world := f b.world }

/-- Moves the participant of a station to another address. -/
def setAddress [Link W] (b : Bench A H W α) (i : Nat) (a : Address) : Bench A H W α :=
  (b.atStation i () fun _ e => ((), e.setAddress a)).2

/-- The participant of a station. -/
def node? (b : Bench A H W α) (i : Nat) : Option Dispatcher := b.stations[i]?.map Station.node

/-- Every station acts until it waits. -/
def actStations [Link W] [Handler H W] (clock : Clock) :
    List (Station H) → W → Bool × List (Station H) × W
  | [], w => (false, [], w)
  | s :: rest, w =>
    let (moved, s, w) := s.act clock w
    let (others, rest, w) := actStations clock rest w
    (moved || others, s :: rest, w)

/-- The errand with a number acts until it waits. -/
def actErrand [Link W] [Lines W] (b : Bench A H W α) (i : Nat) : Bool × Bench A H W α :=
  match b.errands[i]? with
  | none => (false, b)
  | some errand =>
    let idle := (false, errand.assignment)
    let ((moved, assignment), b) := b.atStation errand.station idle fun clock e =>
      let (moved, assignment, e) :=
        repeatStep (fun (p : Assignment α × Endpoint W) => p.1.step clock p.2) stepsPerTurn
          (errand.assignment, e)
      ((moved, assignment), e)
    (moved, { b with errands := b.errands.set i { errand with assignment := assignment } })

variable [Link W] [Lines W] [Handler H W] [Actor A H W]

/-- One turn: everybody acts until he waits. -/
def turn (b : Bench A H W α) : Bool × Bench A H W α :=
  let b := { b with clock := { b.clock with turn := b.clock.turn + 1 } }
  let (heard, stations, world) := actStations b.clock b.stations b.world
  let (lived, actor, stations, world) := Actor.act b.clock b.actor stations world
  let b := { b with stations := stations, actor := actor, world := world }
  (List.range b.errands.length).foldl
    (fun (moved, b) i => let (did, b) := b.actErrand i; (moved || did, b))
    (heard || lived, b)

/-- The next moment at which somebody acts who waits now. -/
def nextWake? (b : Bench A H W α) : Option Nat :=
  (b.stations.flatMap Station.wakes ++ Actor.wakes H W b.actor
    ++ b.errands.filterMap fun errand => errand.assignment.wake?).min?

/-- All errands are done, and there are some. -/
def isDone (b : Bench A H W α) : Bool :=
  !b.errands.isEmpty && b.errands.all fun errand => errand.assignment.isDone

variable [Timed W]

/-- Moves the clock. -/
def goTo (b : Bench A H W α) (time : Nat) : Bench A H W α :=
  { b with
    clock := { b.clock with now := max b.clock.now time }
    world := Timed.setTime (max b.clock.now time) b.world }

/-- Runs until nobody acts before or at the limit, or, if told so, until the errands are done. If
the limit comes first, the clock stands there in the end. -/
def runTo (untilDone : Bool) (limit : Option Nat) : (fuel : Nat) → Bench A H W α → Bench A H W α
  | 0, b => b
  | fuel + 1, b =>
    let (moved, b) := b.turn
    if untilDone && b.isDone then b
    else if moved then runTo untilDone limit fuel b
    else
      match b.nextWake?.filter fun time => limit.all (time ≤ ·) with
      | some time => runTo untilDone limit fuel (b.goTo time)
      | none => b.goTo (limit.getD b.clock.now)

/-- Turns of one run at most. -/
def maxTurns : Nat := 0x10000000000

/-- Runs until everybody waits, without moving the clock. -/
def settle (b : Bench A H W α) : Bench A H W α := runTo false (some b.clock.now) maxTurns b

/-- Lets some milliseconds pass. -/
def advance (b : Bench A H W α) (ms : Nat) : Bench A H W α :=
  runTo false (some (b.clock.now + ofMillis ms)) maxTurns b

/-- Gives the errands up that are not done. -/
def dropErrands (b : Bench A H W α) : Bench A H W α :=
  let b := b.errands.foldl
    (fun b errand =>
      (b.atStation errand.station () fun _ e => ((), errand.assignment.abandon e)).2) b
  { b with errands := [] }

/-- Runs errands until they are done or the limit comes, gives up what is left of them, and lets
the others finish what they are about. -/
def runErrands (b : Bench A H W α) (errands : List (Errand α)) (limit : Option Nat) :
    List (Assignment α) × Bench A H W α :=
  let b := runTo true limit maxTurns { b with errands := errands }
  (b.errands.map Errand.assignment, b.dropErrands.settle)

/-- Runs one exchange of a station to its end. -/
def exchange (b : Bench A H W α) (i : Nat) (x : Exchange α) :
    Option (Except DispatchError α) × Bench A H W α :=
  let (assignment, b) := b.atStation i .refused fun clock e => Assignment.exchange clock x e
  let (ended, b) := b.runErrands [⟨i, assignment⟩] none
  (ended.head?.bind Assignment.result?, b)

/-- Runs exchanges to their end that start together, each at its station after so many
milliseconds. -/
def together (b : Bench A H W α) (exchanges : List (Nat × Nat × Exchange α)) :
    List (Assignment α) × Bench A H W α :=
  b.runErrands (exchanges.map fun (i, ms, x) => ⟨i, .delayed (b.clock.after ms) x⟩) none

/-- Runs handshakes that start together, each at its station with its settings and name, for some
milliseconds at most. -/
def shake (b : Bench A H W α) (ms : Nat) (stations : List (Nat × HandshakeSettings × String)) :
    List (Option Handshake) × Bench A H W α :=
  let limit := b.clock.now + ofMillis ms
  let (errands, b) := stations.foldl
    (fun (errands, b) (i, settings, name) =>
      let (assignment, b) := b.atStation i .refused fun clock e =>
        let (h, e) := Handshake.start settings name clock e
        (Assignment.shaking h, e)
      (errands ++ [⟨i, assignment⟩], b))
    (([], b) : List (Errand α) × Bench A H W α)
  let (ended, b) := b.runErrands errands (some limit)
  (ended.map Assignment.handshake?, b)

/-! ## Looking back -/

omit [Link W] [Lines W] [Handler H W] [Actor A H W] [Timed W]

/-- What handlers were given since the last time, in the order of the turns. -/
def takeHandled (b : Bench A H W α) : List Handled × Bench A H W α :=
  ((b.stations.flatMap fun s => (s.server.map fun v => v.handled.reverse).getD []).mergeSort
      fun x y => x.clock.turn ≤ y.clock.turn,
    { b with stations := b.stations.map fun s =>
      { s with server := s.server.map fun v => { v with handled := [] } } })

/-- The remarks that were counted at the stations. -/
def tally (b : Bench A H W α) : Tally := b.stations.foldl (fun t s => t.merge s.node.tally) .empty

end Bench

end ModuleBus

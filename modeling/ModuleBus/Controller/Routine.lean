import ModuleBus.Controller.Coordinator

set_option autoImplicit false

/-! # The controller's routine

The controller waits for a request, for a fix of the satellite receiver, or for the next thing
that is due, in this order of preference, and does one thing at a time. What is due at one moment
is done in a fixed order: the tick of the isolation scheduler, the accounting period, the check of
the watchdogs, the end of sleeps. -/

namespace ModuleBus

/-- Fixes that wait for the controller at most. -/
def fixCapacity : Nat := 4

/-- What the controller is about. -/
inductive Occupation where
  /-- It waits; the timer is for the next thing due. -/
  | idle (timer : Timer)
  /-- It pauses in an event. The moment is that of the duties that the event belongs to. -/
  | paused (pause : Pause) (duties : Option Nat)
deriving DecidableEq

/-- The controller at work. -/
structure Controller where
  coordinator : Coordinator
  nextTick : Nat
  nextPeriod : Nat
  nextCheck : Nat
  /-- Fixes that were not taken up yet. -/
  fixes : List Fix
  occupation : Occupation
deriving DecidableEq

namespace Controller

/-- Offers a fix; tells whether there was room for it. -/
def offer (c : Controller) (fix : Fix) : Bool × Controller :=
  if c.fixes.length < fixCapacity then (true, { c with fixes := c.fixes ++ [fix] }) else (false, c)

/-- When the next thing is due. -/
def nextDue (c : Controller) : Nat :=
  (c.coordinator.wakes.toList.filterMap id).foldl min
    (min (min c.nextTick c.nextPeriod) c.nextCheck)

/-- Waits again. -/
def rest (c : Controller) (clock : Clock) : Controller :=
  { c with occupation := .idle (clock.at c.nextDue) }

/-- When a controller that nothing reaches acts again. -/
def wake? (c : Controller) : Option Nat :=
  match c.occupation with
  | .idle timer => some timer.due
  | .paused pause _ => some pause.timer.due

variable {W : Type} [Board W]

/-- A controller that boots now. -/
def boot (settings : Settings) (clock : Clock) (w : W) : Controller × W :=
  let (coordinator, w) := Coordinator.boot settings clock.now w
  let c : Controller := {
    coordinator := coordinator
    nextTick := clock.now + ofMillis settings.isolation.checkInterval
    nextPeriod := clock.now + ofMillis settings.energy.updateInterval
    nextCheck := clock.now + ofMillis settings.watchdog.checkInterval
    fixes := []
    occupation := .idle (clock.at clock.now) }
  (c.rest clock, w)

/-- The duties of the moment `now` that follow the check of the watchdogs. -/
def afterCheck (c : Controller) (clock : Clock) (now : Nat) (e : Endpoint W) :
    Controller × Endpoint W :=
  let (coordinator, world) := c.coordinator.wakeDue now e.world
  (({ c with coordinator := coordinator }).rest clock, { e with world := world })

/-- The moment of the next check of the watchdogs. -/
def scheduleCheck (c : Controller) (now : Nat) : Controller :=
  { c with nextCheck := now + ofMillis c.coordinator.watchdog.checkInterval }

/-- The duties of the moment `now` that follow the tick. -/
def afterTick (c : Controller) (clock : Clock) (now : Nat) (e : Endpoint W) :
    Controller × Endpoint W :=
  let (c, e) :=
    if now ≥ c.nextPeriod then
      let (coordinator, world) := c.coordinator.energyUpdate now e.world
      let interval := coordinator.accounts.settings.updateInterval
      ({ c with coordinator := coordinator, nextPeriod := now + ofMillis interval },
       { e with world := world })
    else (c, e)
  if now ≥ c.nextCheck then
    match c.coordinator.checkWatchdogs clock e.world with
    | (some pause, coordinator, world) =>
      ({ c with coordinator := coordinator, occupation := .paused pause (some now) },
       { e with world := world })
    | (none, coordinator, world) =>
      (({ c with coordinator := coordinator }).scheduleCheck now).afterCheck clock now
        { e with world := world }
  else c.afterCheck clock now e

/-- The moment of the next tick. -/
def scheduleTick (c : Controller) (now : Nat) : Controller :=
  { c with nextTick := now + ofMillis c.coordinator.isolation.settings.checkInterval }

/-- Does what is due now. -/
def runDue (c : Controller) (clock : Clock) (e : Endpoint W) : Controller × Endpoint W :=
  let now := clock.now
  if now ≥ c.nextTick then
    match c.coordinator.isolationTick e with
    | (.cycling s, coordinator, e) =>
      let timer := clock.after coordinator.isolation.settings.powerCycle
      ({ c with coordinator := coordinator, occupation := .paused (.cycling s timer) (some now) },
       e)
    | (.done _, coordinator, e) =>
      (({ c with coordinator := coordinator }).scheduleTick now).afterTick clock now e
  else c.afterTick clock now e

variable [Link W]

/-- Goes on with the duties of the moment `now` after a pause in one of them. -/
def continueDuties (c : Controller) (clock : Clock) (pause : Pause) (now : Nat) (e : Endpoint W) :
    Controller × Endpoint W :=
  match pause with
  | .cycling _ _ => (c.scheduleTick now).afterTick clock now e
  | _ => (c.scheduleCheck now).afterCheck clock now e

/-- One step, if there is anything to do. -/
def step (c : Controller) (clock : Clock) (e : Endpoint W) : Option (Controller × Endpoint W) :=
  match c.occupation with
  | .paused pause duties =>
    if !pause.timer.isOver clock then none
    else
      let (next, coordinator, e) := c.coordinator.resume clock pause e
      let c := { c with coordinator := coordinator }
      match next, duties with
      | some next, _ => some ({ c with occupation := .paused next duties }, e)
      | none, some now => some (c.continueDuties clock pause now e)
      | none, none => some (c.rest clock, e)
  | .idle timer =>
    match e.node.inbound, c.fixes with
    | m :: rest, _ =>
      let e := e.update fun d => { d with inbound := rest }
      let (pause, coordinator, e) := c.coordinator.receive clock m e
      let c := { c with coordinator := coordinator }
      match pause with
      | some pause => some ({ c with occupation := .paused pause none }, e)
      | none => some (c.rest clock, e)
    | [], fix :: fixes =>
      let c := { c with coordinator := { c.coordinator with fix := some fix }, fixes := fixes }
      some (c.rest clock, e)
    | [], [] => if timer.isOver clock then some (c.runDue clock e) else none

end Controller

end ModuleBus

import ModuleBus.Simulation.Post

set_option autoImplicit false

/-! # Whole runs

A run of a scene: the controller, every module at its work, the satellite receiver, and the meter
that lets the backplane use energy in short periods. -/

namespace ModuleBus

/-- Milliseconds between two periods of the meter. -/
def meterInterval : Nat := 100

/-- The fix that is reported so many milliseconds after the first one. -/
def Receiver.fix (r : Receiver) (elapsed : Nat) : Fix where
  time := .ofDateTime (r.start.addMillis elapsed) r.satellites
  location :=
    ⟨LocationInfo.millionths r.latitude, LocationInfo.millionths r.longitude, r.satellites⟩

/-- What the satellite receiver is about. -/
inductive Receiving where
  /-- No receiver. -/
  | none
  /-- It waits for its first fix. -/
  | searching (timer : Timer)
  /-- A fix waits for room; the ticker is for the one after it. -/
  | offering (fix : Fix) (first ticker : Nat)
  /-- It waits for the ticker. -/
  | waiting (first ticker : Nat)

/-- Everything that lives in a run. -/
structure Inhabitants where
  controller : Controller
  receiver : Option Receiver
  receiving : Receiving
  harvest : Harvest
  /-- When the period of the meter ends. -/
  meterTicker : Nat
  /-- When it began. -/
  meterLast : Nat
  /-- The jobs of the modules, in the order of their stations. -/
  jobs : List Job

namespace Inhabitants

/-- One step of the satellite receiver, if there is anything to do. -/
def stepReceiver (clock : Clock) (i : Inhabitants) : Option Inhabitants :=
  match i.receiver with
  | none => none
  | some r =>
    match i.receiving with
    | .none => none
    | .searching timer =>
      if timer.isOver clock then
        some { i with
          receiving := .offering (r.fix 0) clock.now (clock.now + ofMillis r.interval) }
      else none
    | .offering fix first ticker =>
      match i.controller.offer fix with
      | (true, controller) =>
        some { i with controller := controller, receiving := .waiting first ticker }
      | (false, _) => none
    | .waiting first ticker =>
      if clock.now < ticker then none
      else
        some { i with
          receiving := .offering (r.fix (millisBetween first clock.now)) first
            (ticker + ofMillis r.interval) }

/-- One step of the meter, if there is anything to do. -/
def stepMeter (clock : Clock) (i : Inhabitants) (b : Backplane) :
    Option (Inhabitants × Backplane) :=
  if clock.now < i.meterTicker then none
  else
    let seconds := Float.ofNat (clock.now - i.meterLast) / 1000000.0
    some ({ i with
      meterTicker := i.meterTicker + ofMillis meterInterval
      meterLast := clock.now }, b.advance seconds i.harvest.sample)

/-- The jobs act until they wait; the first is at the given station. `before` is the backplane at
the beginning of the turn. -/
def actJobs (before : Backplane) (clock : Clock) :
    (station : Nat) → List Job → List (Station BenchHandler) → Backplane →
      Bool × List Job × List (Station BenchHandler) × Backplane
  | _, [], stations, b => (false, [], stations, b)
  | station, job :: rest, stations, b =>
    let (moved, job, stations, b) :=
      actAt (fun (j : Job) e => j.step before clock e) station job stations b
    let (others, rest, stations, b) := actJobs before clock (station + 1) rest stations b
    (moved || others, job :: rest, stations, b)

/-- Everything acts until it waits. -/
def act (clock : Clock) (i : Inhabitants) (stations : List (Station BenchHandler))
    (before : Backplane) : Bool × Inhabitants × List (Station BenchHandler) × Backplane :=
  let (ran, controller, stations, b) :=
    actAt (fun (c : Controller) e => c.step clock e) 0 i.controller stations before
  let i := { i with controller := controller }
  let (metered, i, b) :=
    repeatStep (fun (p : Inhabitants × Backplane) => p.1.stepMeter clock p.2) stepsPerTurn (i, b)
  let (received, i) := repeatStep (stepReceiver clock) stepsPerTurn i
  let (worked, jobs, stations, b) := actJobs before clock 1 i.jobs stations b
  (ran || metered || received || worked, { i with jobs := jobs }, stations, b)

/-- The moments at which anything acts that waits now. -/
def wakes (i : Inhabitants) : List Nat :=
  let receiver := match i.receiving with
    | .none | .offering _ _ _ => []
    | .searching timer => [timer.due]
    | .waiting _ ticker => [ticker]
  i.controller.wake?.toList ++ receiver ++ [i.meterTicker] ++ i.jobs.flatMap Job.wakes

end Inhabitants

instance : Actor Inhabitants BenchHandler Backplane where
  act := Inhabitants.act
  wakes := Inhabitants.wakes

/-- A run on the bench. -/
abbrev Run := Bench Inhabitants BenchHandler Backplane Unit

namespace Run

/-- A run that has just begun. -/
def start (scene : Scene) (settings : Settings) : Run :=
  let clock : Clock := ⟨0, 0⟩
  let (controller, world) := Controller.boot settings clock (Backplane.wired scene)
  { clock := clock
    world := world
    stations := scene.stations settings
    actor := {
      controller := controller
      receiver := scene.receiver
      receiving := match scene.receiver with
        | none => .none
        | some r => .searching (clock.after r.delay)
      harvest := scene.harvest
      meterTicker := ofMillis meterInterval
      meterLast := 0
      jobs := scene.placed.map fun (s, m) =>
        .start m s settings (if m.kind = .radio then scene.downlinks else []) }
    errands := [] }

/-- The events of a run: by time, then by slot, and at one slot in the order in which they
happened. -/
def events (r : Run) : List SlotEvent :=
  (r.actor.jobs.flatMap fun j => j.takeEvents.1).mergeSort fun a b =>
    a.time < b.time || (a.time == b.time && a.slot ≤ b.slot)

/-- The summary of a run. -/
def summary (scene : Scene) (r : Run) : RunSummary :=
  r.events.foldl (fun summary e => summary.record e.slot e.event)
    (scene.placed.foldl (fun summary m => summary.nameSlot m.1 m.2.name) .start)

/-- Runs a scene for some milliseconds. -/
def simulate (scene : Scene) (settings : Settings) (ms : Nat) : Run :=
  (start scene settings).advance ms

end Run

end ModuleBus

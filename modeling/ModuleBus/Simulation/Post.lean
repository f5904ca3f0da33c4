import ModuleBus.Bench.Handlers
import ModuleBus.Controller.Routine
import ModuleBus.Simulation.Job

set_option autoImplicit false

/-! # A post

The controller and the modules of a scene, wired to one backplane: station 0 is the controller,
the others are the modules in the order of the scene. The controller runs its routine; the modules
only listen until they are told to do something. -/

namespace ModuleBus

instance : Timed Backplane where
  setTime _ b := b

/-- The slots and descriptions of the modules of a scene. -/
def Scene.placed (scene : Scene) : List (Slot × ModuleDescription) :=
  scene.modules.filterMap fun m => (Slot.ofNat? m.slot).map fun s => (s, m)

/-- The station of the module in a slot; station 0 is the controller's. -/
def Scene.stationIn? (scene : Scene) (s : Slot) : Option Nat :=
  (scene.placed.findIdx? fun m => m.1 == s).map (· + 1)

/-- The backplane of a scene with a port for every participant. -/
def Backplane.wired (scene : Scene) : Backplane :=
  scene.placed.foldl (fun b m => b.attach m.1 .unassigned)
    ((Backplane.ofScene scene).attach Slot.controller .controller)

/-- The stations of a scene. -/
def Scene.stations {H : Type} (scene : Scene) (settings : Settings) : List (Station H) :=
  .listening (.start 0 .controller settings.dispatch Coordinator.services 0)
    :: scene.placed.mapIdx fun i m =>
      .listening (.start (i + 1) .unassigned settings.dispatch (Job.servicesOf m.2.kind) (i + 1))

/-- The participant of a station acts until it waits. -/
def actAt {σ H W : Type} (step : σ → Endpoint W → Option (σ × Endpoint W)) (i : Nat) (s : σ)
    (stations : List (Station H)) (w : W) : Bool × σ × List (Station H) × W :=
  match stations[i]? with
  | none => (false, s, stations, w)
  | some station =>
    let (moved, s, e) :=
      repeatStep (fun (p : σ × Endpoint W) => step p.1 p.2) stepsPerTurn (s, ⟨station.node, w⟩)
    (moved, s, stations.set i { station with node := e.node }, e.world)

instance {H W : Type} [Board W] [Link W] : Actor Controller H W where
  act clock c stations w := actAt (fun (c : Controller) e => c.step clock e) 0 c stations w
  wakes c := c.wake?.toList

/-- A post on the bench. -/
abbrev Post (α : Type) := Bench Controller BenchHandler Backplane α

namespace Post

/-- A post whose controller has just booted. -/
def start {α : Type} (scene : Scene) (settings : Settings) : Post α :=
  let clock : Clock := ⟨0, 0⟩
  let (controller, world) := Controller.boot settings clock (Backplane.wired scene)
  { clock := clock
    world := world
    stations := scene.stations settings
    actor := controller
    errands := [] }

/-- Changes the backplane, and lets everybody act on that. -/
def onBackplane {α : Type} (p : Post α) (f : Backplane → Backplane) : Post α :=
  Bench.settle (p.onWorld f)

/-- A cold start of the module at a station. -/
def coldStart {α : Type} (p : Post α) (i : Nat) (a : Address) : Post α :=
  Bench.settle (p.atStation i () fun _ e => ((), e.coldStart a)).2

/-- Offers the controller a fix of the satellite receiver; tells whether there was room for it. -/
def offer {α : Type} (fix : Fix) (p : Post α) : Bool × Post α :=
  let (taken, controller) := p.actor.offer fix
  (taken, Bench.settle { p with actor := controller })

/-- The slots whose modules hold the grant. -/
def granted {α : Type} (p : Post α) : List Slot :=
  (p.world.ports.filter fun port => p.world.grants.get port.slot).map PortState.slot

end Post

end ModuleBus

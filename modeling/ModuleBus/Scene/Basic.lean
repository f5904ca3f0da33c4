import ModuleBus.Calendar
import ModuleBus.Decimal.Shortest
import ModuleBus.Slot
import ModuleBus.Text.Utf8

set_option autoImplicit false

/-! # Scenes

A scene describes one post: the modules in its slots and what they draw, the battery and the
harvest, what the satellite receiver reports, and the messages that arrive from outside. Energies
are in microwatt-hours, powers in microwatts. `Scene.check` says whether a scene makes sense. -/

namespace ModuleBus

/-- Charge and gauge of the battery. -/
structure Battery where
  start : Nat
  capacity : Nat
  /-- A gauge answers; without one the controller runs on an assumed charge. -/
  gauge : Bool
deriving Inhabited

/-- Mean and spread of the harvested power. -/
structure Harvest where
  mean : Float
  spread : Float
deriving Inhabited

/-- The harvested power of a meter period: the mean, and never less than nothing. -/
def Harvest.sample (h : Harvest) : Float :=
  let power := h.mean + 0.0
  if power > 0.0 then power else 0.0

/-- What the satellite receiver reports, and when. -/
structure Receiver where
  latitude : Float
  longitude : Float
  satellites : UInt8
  /-- Civil time of the first fix. -/
  start : DateTime
  /-- Milliseconds until the first fix. -/
  delay : Nat
  /-- Milliseconds between fixes. -/
  interval : Nat
deriving Inhabited

/-- What a module does. -/
inductive ModuleKind where
  /-- Serves the storage service, in the storage slot. -/
  | storage
  /-- Serves the networking service and forwards messages from outside. -/
  | radio
  /-- Samples, logs, publishes and tickles its watchdog. -/
  | sensor
deriving DecidableEq, Inhabited

/-- The name of a kind in messages. -/
def ModuleKind.name : ModuleKind → String
  | storage => "Storage"
  | radio => "Radio"
  | sensor => "Sensor"

/-- One module of a scene. -/
structure ModuleDescription where
  name : String
  slot : Nat
  kind : ModuleKind
  /-- Power drawn while the module is on. -/
  draw : Float
  /-- Sensors: milliseconds between samples. -/
  publishInterval : Nat
  /-- Sensors: milliseconds to be off after every sample. -/
  dutyCycle : Option Nat
  /-- Sensors: uses the watchdog. -/
  watchdog : Bool
  /-- Sensors: samples after which the watchdog is no longer tickled. -/
  hangAfter : Option Nat
  /-- Radio: probability that an uplink succeeds. -/
  uplinkSuccess : Float
  /-- Radio: energy of an uplink, charged to the publisher. -/
  uplinkCost : Nat
deriving Inhabited

/-- A message from outside that the radio forwards. -/
structure Downlink where
  /-- Milliseconds after the start. -/
  time : Nat
  topic : String
  data : String
deriving Inhabited

/-- A whole scene. -/
structure Scene where
  name : String
  /-- Seconds that a run takes. -/
  duration : Nat
  battery : Battery
  harvest : Harvest
  controllerDraw : Float
  houseDraw : Float
  receiver : Option Receiver
  modules : List ModuleDescription
  downlinks : List Downlink
deriving Inhabited

/-- The first module described for a slot. -/
def Scene.moduleIn? (scene : Scene) (slot : Slot) : Option ModuleDescription :=
  scene.modules.find? fun m => m.slot == slot.val

/-! ## Checking -/

/-- Bytes of the longest module name. -/
def maxModuleName : Nat := 16

/-- What is wrong with a scene. -/
inductive SceneProblem where
  | noModules
  | noDuration
  | overfullBattery (start capacity : Nat)
  | negativeHarvest
  | negativeDraw
  | slotOutside (name : String) (slot : Nat)
  | controllerSlot (name : String) (slot : Nat)
  | repeatedSlot (slot : Nat)
  | nameLength (name : String)
  | repeatedName (name : String)
  | negativeModuleDraw (name : String)
  | storageSlot (name : String)
  | uplinkRange (name : String)
  | noInterval (name : String)
  | repeatedKind (kind : ModuleKind)
  | badCoordinate (latitude longitude : Float)
  | noFixInterval

/-- The text of a problem. -/
def SceneProblem.message : SceneProblem → String
  | noModules => "Scene must contain at least one module"
  | noDuration => "duration_s must be positive"
  | overfullBattery start capacity =>
    s!"Battery start {start} µWh exceeds capacity {capacity} µWh"
  | negativeHarvest => "Harvest mean and sigma must be non-negative"
  | negativeDraw => "Controller and house draw must be non-negative"
  | slotOutside name slot => s!"Module {name} slot {slot} outside 0-7"
  | controllerSlot name slot => s!"Module {name} cannot occupy the controller slot {slot}"
  | repeatedSlot slot => s!"Duplicate slot found: {slot}"
  | nameLength name => "Module name '" ++ name ++ "' must be 1-16 bytes"
  | repeatedName name => s!"Duplicate module name found: {name}"
  | negativeModuleDraw name => s!"Module {name} draw must be non-negative"
  | storageSlot name => s!"Storage module {name} must sit in slot 4"
  | uplinkRange name => s!"Module {name} uplink_success must be within 0-1"
  | noInterval name => s!"Sensor {name} publish_interval_ms must be positive"
  | repeatedKind kind => "At most one " ++ kind.name ++ " module is supported"
  | badCoordinate latitude longitude =>
    "GPS position (" ++ Shortest.text latitude ++ ", " ++ Shortest.text longitude
      ++ ") is not a valid coordinate"
  | noFixInterval => "GPS fix_interval_ms must be positive"

/-- The first of some conditions that does not hold. -/
def firstProblem (checks : List (Bool × SceneProblem)) : Option SceneProblem :=
  (checks.find? fun c => !c.1).map (·.2)

/-- The number lies between two others. -/
def within (low high x : Float) : Bool := low ≤ x && x ≤ high

/-- What is wrong with a module that follows the modules `before`. -/
def ModuleDescription.problem? (m : ModuleDescription) (before : List ModuleDescription) :
    Option SceneProblem :=
  let size := (Utf8.ofText m.name).length
  firstProblem [
    (m.slot < slotCount, .slotOutside m.name m.slot),
    (m.slot != Slot.controller.val, .controllerSlot m.name m.slot),
    (before.all fun o => o.slot != m.slot, .repeatedSlot m.slot),
    (1 ≤ size && size ≤ maxModuleName, .nameLength m.name),
    (before.all fun o => o.name != m.name, .repeatedName m.name),
    (!(m.draw < 0.0), .negativeModuleDraw m.name),
    (m.kind != .storage || m.slot == Slot.storage.val, .storageSlot m.name),
    (within 0.0 1.0 m.uplinkSuccess, .uplinkRange m.name),
    (m.kind != .sensor || m.publishInterval != 0, .noInterval m.name)]

/-- What is wrong with the first bad module of a list that follows the modules `before`. -/
def modulesProblem? (before : List ModuleDescription) :
    List ModuleDescription → Option SceneProblem
  | [] => none
  | m :: rest =>
    match m.problem? before with
    | some problem => some problem
    | none => modulesProblem? (before ++ [m]) rest

namespace Scene

/-- The number of modules of a kind. -/
def count (scene : Scene) (kind : ModuleKind) : Nat :=
  (scene.modules.filter fun m => m.kind == kind).length

/-- What is wrong with the satellite receiver. -/
def receiverProblem? (r : Receiver) : Option SceneProblem :=
  firstProblem [
    (within (-90.0) 90.0 r.latitude && within (-180.0) 180.0 r.longitude,
      .badCoordinate r.latitude r.longitude),
    (r.interval != 0, .noFixInterval)]

/-- The first problem of a scene. -/
def problem? (scene : Scene) : Option SceneProblem :=
  let general := firstProblem [
    (!scene.modules.isEmpty, .noModules),
    (scene.duration != 0, .noDuration),
    (scene.battery.start ≤ scene.battery.capacity,
      .overfullBattery scene.battery.start scene.battery.capacity),
    (!(scene.harvest.spread < 0.0 || scene.harvest.mean < 0.0), .negativeHarvest),
    (!(scene.controllerDraw < 0.0 || scene.houseDraw < 0.0), .negativeDraw)]
  let kinds := firstProblem [
    (scene.count .storage ≤ 1, .repeatedKind .storage),
    (scene.count .radio ≤ 1, .repeatedKind .radio)]
  general <|> modulesProblem? [] scene.modules <|> kinds
    <|> scene.receiver.bind receiverProblem?

/-- A scene that makes sense. -/
def check (scene : Scene) : Except SceneProblem Unit :=
  match scene.problem? with
  | some problem => .error problem
  | none => .ok ()

end Scene

end ModuleBus

import ModuleBus.Json.Reader
import ModuleBus.Scene.Basic

set_option autoImplicit false

/-! # Reading scenes

A scene is written as a JSON object. Fields that may be left out have the defaults named here;
fields of other names are passed over. -/

namespace ModuleBus

/-- Why no scene was read. -/
inductive SceneError where
  /-- The file could not be read. -/
  | unreadable (path : String)
  /-- The text is no JSON, or not of a scene. -/
  | malformed
  /-- The scene makes no sense. -/
  | invalid (problem : SceneProblem)

/-- The text of a scene error. -/
def SceneError.message : SceneError → String
  | unreadable path => s!"Failed to read file: Failed to read file: {path}"
  | malformed => "Failed to parse JSON: Invalid JSON format"
  | invalid problem => "Validation error: " ++ problem.message

namespace Scene

/-- Bounds of the whole numbers in a scene. -/
def byte : Json → Option Nat := Json.nat? UInt8.size

/-- A whole number of 32 bits. -/
def word : Json → Option Nat := Json.nat? UInt32.size

/-- A whole number of 64 bits. -/
def long : Json → Option Nat := Json.nat? UInt64.size

/-- The battery of a scene. -/
def readBattery (v : Json) : Option Battery := do
  match ← v.record? ["start_uwh", "capacity_uwh", "gauge"] with
  | [start, capacity, gauge] =>
    pure {
      start := ← Json.required? word start
      capacity := ← Json.required? word capacity
      gauge := ← Json.default? true Json.bool? gauge }
  | _ => none

/-- The harvest of a scene. -/
def readHarvest (v : Json) : Option Harvest := do
  match ← v.record? ["mean_uw", "sigma_uw"] with
  | [mean, spread] =>
    pure {
      mean := ← Json.required? Json.real? mean
      spread := ← Json.default? 0.0 Json.real? spread }
  | _ => none

/-- The satellite receiver of a scene. -/
def readReceiver (v : Json) : Option Receiver := do
  match ← v.record? ["latitude", "longitude", "satellites", "start", "fix_delay_ms",
    "fix_interval_ms"] with
  | [latitude, longitude, satellites, start, delay, interval] =>
    pure {
      latitude := ← Json.required? Json.real? latitude
      longitude := ← Json.required? Json.real? longitude
      satellites := UInt8.ofNat (← Json.required? byte satellites)
      start := ← Json.required? (fun v => v.text?.bind DateTime.ofText?) start
      delay := ← Json.default? 0 long delay
      interval := ← Json.default? 1000 long interval }
  | _ => none

/-- The kind of a module: its name, or an object with the name and `null`. -/
def readKind (v : Json) : Option ModuleKind := do
  let name ← match v with
    | .object [(name, .null)] => name
    | v => v.text?
  [("storage", ModuleKind.storage), ("radio", .radio), ("sensor", .sensor)].lookup name

/-- A module of a scene. -/
def readModule (v : Json) : Option ModuleDescription := do
  match ← v.record? ["name", "slot", "kind", "draw_uw", "publish_interval_ms", "duty_cycle_ms",
    "watchdog", "hang_after_samples", "uplink_success", "uplink_cost_uwh"] with
  | [name, slot, kind, draw, interval, dutyCycle, watchdog, hangAfter, success, cost] =>
    pure {
      name := ← Json.required? Json.text? name
      slot := ← Json.required? byte slot
      kind := ← Json.required? readKind kind
      draw := ← Json.required? Json.real? draw
      publishInterval := ← Json.default? 10000 long interval
      dutyCycle := ← Json.default? none (Json.optional? word) dutyCycle
      watchdog := ← Json.default? false Json.bool? watchdog
      hangAfter := ← Json.default? none (Json.optional? word) hangAfter
      uplinkSuccess := ← Json.default? 1.0 Json.real? success
      uplinkCost := ← Json.default? 0 word cost }
  | _ => none

/-- A message from outside. -/
def readDownlink (v : Json) : Option Downlink := do
  match ← v.record? ["at_ms", "topic", "data"] with
  | [time, topic, data] =>
    pure {
      time := ← Json.required? long time
      topic := ← Json.required? Json.text? topic
      data := ← Json.required? Json.text? data }
  | _ => none

/-- The items of an array, each read by `read`. -/
def readList {α : Type} (read : Json → Option α) (v : Json) : Option (List α) := do
  (← v.items?).mapM read

/-- A scene, not yet checked. -/
def ofJson? (v : Json) : Option Scene := do
  match ← v.record? ["name", "duration_s", "battery", "harvest", "controller_draw_uw",
    "house_draw_uw", "gps", "modules", "downlinks"] with
  | [name, duration, battery, harvest, controllerDraw, houseDraw, receiver, modules, downlinks] =>
    pure {
      name := ← Json.required? Json.text? name
      duration := ← Json.required? long duration
      battery := ← Json.required? readBattery battery
      harvest := ← Json.default? ⟨0.0, 0.0⟩ readHarvest harvest
      controllerDraw := ← Json.required? Json.real? controllerDraw
      houseDraw := ← Json.default? 0.0 Json.real? houseDraw
      receiver := ← Json.default? none (Json.optional? readReceiver) receiver
      modules := ← Json.required? (readList readModule) modules
      downlinks := ← Json.default? [] (readList readDownlink) downlinks }
  | _ => none

/-- The scene that a text writes. -/
def read (text : String) : Except SceneError Scene :=
  match (Json.read? text).bind ofJson? with
  | none => .error .malformed
  | some scene =>
    match scene.check with
    | .error problem => .error (.invalid problem)
    | .ok () => .ok scene

end Scene

end ModuleBus

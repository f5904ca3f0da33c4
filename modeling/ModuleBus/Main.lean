import ModuleBus.Decimal.Shortest
import ModuleBus.Scene.Reader
import ModuleBus.Settings.Reader
import ModuleBus.Simulation.Run

set_option autoImplicit false

/-! # The command line

Runs the scene in a file, the sample scene if none is named, and prints the result. Time is
simulated, so that a run takes no longer than its computation. Settings are read from the file
beside the scene; without such a file the defaults are in force. -/

namespace ModuleBus

/-! ## The printed result

What is left when a run is over: the summary of the events, the battery and the rails, the energy
ledger in the memory, and the remarks by address. The ledger is left out when the memory holds
none, and so are its entries that nothing was ever booked on. -/

/-- The tally as it is printed, in the order of the addresses. -/
def Tally.text (t : Tally) : String :=
  if t.entries.isEmpty then ""
  else
    let entries := t.entries.mergeSort fun x y => x.1.value ≤ y.1.value
    "warnings/errors by address:\n" ++ String.join (entries.map fun (a, c) =>
      "  " ++ a.text ++ s!" {c.warnings} warning(s), {c.errors} error(s)\n")

/-- The ledger as it is printed. -/
def Ledger.text (l : Ledger) : String :=
  let line (e : Entity) : String :=
    let remaining := l.remaining.get e
    let used := l.used.get e
    if remaining = 0 ∧ used = 0 then ""
    else "  " ++ alignLeft 12 e.text ++ " remaining " ++ alignRight 12 (toString remaining)
      ++ " used " ++ alignRight 10 (toString used) ++ "\n"
  "energy ledger (µWh):\n" ++ String.join (Entity.all.map line)

/-- The battery and the rails of a scene's modules as they are printed. -/
def Backplane.text (b : Backplane) (scene : Scene) : String :=
  let switch (on : Bool) : String := alignLeft 3 (if on then "on" else "off")
  s!"battery: {Shortest.roundHalfEven b.battery} µWh, hardware watchdog pulses: {b.pulses}\n"
    ++ String.join (scene.placed.map fun (s, m) =>
      "  " ++ s.text ++ " " ++ alignLeft 16 m.name ++ " power " ++ switch (b.power.get s) ++ " bus "
        ++ switch (b.bus.get s) ++ s!" power-offs {b.powerOffs.get s}\n")

/-- The result of a run of a scene as it is printed. -/
def Run.text (r : Run) (scene : Scene) : String :=
  s!"== {scene.name} after {scene.duration} s ==\n"
    ++ (r.summary scene).text
    ++ r.world.text scene
    ++ ((Coordinator.loadLedger r.world).toOption.map Ledger.text).getD ""
    ++ r.tally.text

/-! ## Files -/

/-- The scene that is run when none is named. -/
def sampleScene : String := "scenes/sample.json"

/-- The scene in a file. -/
def Scene.load (path : String) : IO (Except SceneError Scene) := do
  try return Scene.read (← IO.FS.readFile path)
  catch _ => return .error (.unreadable path)

/-- The settings in a file, or the defaults if there is no such file. -/
def Settings.load (path : String) : IO (Except SettingsError Settings) := do
  try return Settings.read (← IO.FS.readFile path)
  catch
    | .noFileOrDirectory .. => return .ok {}
    | _ => return .error (.unreadable path)

/-- A failure as it is printed, with what lies behind it. -/
def failureText (message : String) (cause : Option String) : String :=
  "Error: " ++ message ++ match cause with
    | some cause => "\n\nCaused by:\n    " ++ cause
    | none => ""

end ModuleBus

open ModuleBus in
/-- Runs the scene in the file that the first argument names. -/
def main (args : List String) : IO UInt32 := do
  let path := args.head?.getD sampleScene
  match ← Scene.load path with
  | .error e =>
    IO.eprintln (failureText ("Failed to load scene " ++ path) e.message)
    return 1
  | .ok scene =>
    match ← Settings.load (Settings.pathFor path) with
    | .error e =>
      IO.eprintln (failureText e.message e.cause?)
      return 1
    | .ok settings =>
      IO.print ((Run.simulate scene settings (scene.duration * 1000)).text scene)
      return 0

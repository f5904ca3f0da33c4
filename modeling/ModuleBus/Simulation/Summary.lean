import ModuleBus.EnergyMessage
import ModuleBus.Slot
import ModuleBus.Text.Basic

set_option autoImplicit false

/-! # What modules do, and its summary

Modules tell what they do in events. A summary counts the events of a run slot by slot and is
printed as a table with one line for each named slot. -/

namespace ModuleBus

/-- What a module did, or what happened to it. -/
inductive ModuleEvent where
  | poweredOn
  | powerLost
  | initialized (address : Address) (attempts : Nat)
  | stored (logName : String) (length : Nat)
  | published (topic : String) (code : Int)
  /-- The radio tried an uplink for a publisher. -/
  | uplink (source : Address) (delivered : Bool)
  | energyQueried (information : EnergyInformation)
  | energyReported (entries : Nat)
  | sleepRequested (ms : Nat)
  | forwarded (topic : String)
  | callFailed (text : String)
deriving DecidableEq

/-- An event at a slot. Times are in microseconds. -/
structure SlotEvent where
  time : Nat
  slot : Slot
  event : ModuleEvent
deriving DecidableEq

/-- The counts of one slot. -/
structure SlotSummary where
  name : Option String := none
  powerOns : Nat := 0
  powerLosses : Nat := 0
  initializations : Nat := 0
  address : Option Address := none
  writes : Nat := 0
  storedBytes : Nat := 0
  publishes : Nat := 0
  rejected : Nat := 0
  delivered : Nat := 0
  undelivered : Nat := 0
  reports : Nat := 0
  sleeps : Nat := 0
  forwarded : Nat := 0
  failedCalls : Nat := 0
  energy : Option EnergyInformation := none
deriving DecidableEq, Inhabited

namespace SlotSummary

/-- Counts an event. -/
def record (s : SlotSummary) : ModuleEvent → SlotSummary
  | .poweredOn => { s with powerOns := s.powerOns + 1 }
  | .powerLost => { s with powerLosses := s.powerLosses + 1 }
  | .initialized address _ =>
    { s with initializations := s.initializations + 1, address := some address }
  | .stored _ length => { s with writes := s.writes + 1, storedBytes := s.storedBytes + length }
  | .published _ code =>
    { s with
      publishes := s.publishes + 1
      rejected := if code < 0 then s.rejected + 1 else s.rejected }
  | .uplink _ true => { s with delivered := s.delivered + 1 }
  | .uplink _ false => { s with undelivered := s.undelivered + 1 }
  | .energyQueried information => { s with energy := some information }
  | .energyReported _ => { s with reports := s.reports + 1 }
  | .sleepRequested _ => { s with sleeps := s.sleeps + 1 }
  | .forwarded _ => { s with forwarded := s.forwarded + 1 }
  | .callFailed _ => { s with failedCalls := s.failedCalls + 1 }

end SlotSummary

/-- The counts of a run. -/
structure RunSummary where
  slots : PerSlot SlotSummary
  /-- All events. -/
  events : Nat
deriving DecidableEq

namespace RunSummary

/-- Nothing was counted. -/
def start : RunSummary := ⟨.constant {}, 0⟩

/-- Names a slot. -/
def nameSlot (r : RunSummary) (s : Slot) (name : String) : RunSummary :=
  { r with slots := r.slots.set s { r.slots.get s with name := some name } }

/-- Counts an event. -/
def record (r : RunSummary) (s : Slot) (event : ModuleEvent) : RunSummary :=
  ⟨r.slots.set s ((r.slots.get s).record event), r.events + 1⟩

/-! ## The table -/

/-- Widths of the columns after the first two, which are set to the left. -/
def widths : List Nat := [7, 6, 5, 7, 7, 7, 5, 6, 12]

/-- One line of the table. -/
def line (slot name : String) (cells : List String) : String :=
  " ".intercalate
    (alignLeft 4 slot :: alignLeft 16 name :: List.zipWith alignRight widths cells) ++ "\n"

/-- Two counts with a slash between them. -/
def pair (a b : Nat) : String := s!"{a}/{b}"

/-- The line of a slot, if it has a name. -/
def slotLine (i : Nat) (s : SlotSummary) : String :=
  match s.name with
  | none => ""
  | some name => line (toString i) name [
      (s.address.map Address.text).getD "-",
      pair s.powerOns s.powerLosses,
      toString s.initializations,
      toString s.writes,
      pair (s.publishes - s.rejected) s.publishes,
      pair s.delivered (s.delivered + s.undelivered),
      toString s.sleeps,
      toString s.failedCalls,
      (s.energy.map fun i => toString i.limit).getD "-"]

/-- The printed summary. -/
def text (r : RunSummary) : String :=
  s!"{r.events} events\n"
    ++ line "slot" "name" ["address", "power", "init", "writes", "publish", "uplink", "duty",
      "failed", "limit µWh"]
    ++ String.join (r.slots.toList.zipIdx.map fun (s, i) => slotLine i s)

end RunSummary

end ModuleBus

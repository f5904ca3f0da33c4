import ModuleBus.SlotState

set_option autoImplicit false

/-! # The module table

What the controller knows about each slot. `slotOf?` finds the slot of an address; it is the only
view from addresses to slots, so that `assign`, which takes an address away from the slot that has
it, keeps every address in at most one slot. -/

namespace ModuleBus

/-- Why a slot is on or off. -/
inductive SlotPower where
  | enabled
  /-- Off for a moment, after too many failed isolations. -/
  | disabledIsolation
  /-- Off for want of energy. -/
  | disabledEnergy
  /-- Asleep at its own request. -/
  | disabledDutyCycle
  /-- Switched off from outside. -/
  | disabledOff
deriving DecidableEq, Inhabited

/-- The slot is meant to be on. -/
def SlotPower.isEnabled (p : SlotPower) : Bool := p == .enabled

/-- What the controller knows about a slot. -/
structure ModuleRecord where
  address : Option Address := none
  name : String := ""
  /-- A session key was agreed with the module. -/
  hasKey : Bool := false
  state : SlotPower := .enabled
  /-- The module asked to be watched. -/
  isWatched : Bool := false
  /-- The module was heard of since the last check. -/
  hasTickled : Bool := false
  /-- Isolations that timed out in a row. It never gets beyond one more than the limit of the
  settings, which has 32 bits, so that only with the largest limit of all a count of 32 bits would
  overflow. -/
  failures : Nat := 0
deriving DecidableEq, Inhabited

namespace ModuleRecord

/-- The record without its module: the state of the slot stays. -/
def vacate (r : ModuleRecord) : ModuleRecord :=
  { r with address := none, name := "", hasKey := false, isWatched := false, hasTickled := false }

end ModuleRecord

/-- Longest name that is kept, in characters. -/
def maxKeptName : Nat := 16

/-- A name as it is kept. -/
def keptName (name : String) : String := String.ofList (name.toList.take maxKeptName)

/-- The records of all slots. -/
structure ModuleTable where
  records : PerSlot ModuleRecord
deriving DecidableEq

namespace ModuleTable

/-- The record of a slot. -/
def get (t : ModuleTable) (s : Slot) : ModuleRecord := t.records.get s

/-- The table with the record of a slot changed. -/
def modify (t : ModuleTable) (s : Slot) (f : ModuleRecord → ModuleRecord) : ModuleTable :=
  ⟨t.records.set s (f (t.get s))⟩

@[simp] theorem get_modify_self (t : ModuleTable) (s : Slot) (f : ModuleRecord → ModuleRecord) :
    (t.modify s f).get s = f (t.get s) := by
  simp [modify, get]

theorem get_modify_of_ne (t : ModuleTable) {s r : Slot} (f : ModuleRecord → ModuleRecord)
    (h : r ≠ s) : (t.modify s f).get r = t.get r := by
  exact PerSlot.get_set_of_ne t.records _ h

/-- The slot that has an address. -/
def slotOf? (t : ModuleTable) (a : Address) : Option Slot :=
  Slot.all.find? fun s => (t.get s).address == some a

/-- The slot of the module with a name. -/
def findName? (t : ModuleTable) (name : String) : Option Slot :=
  Slot.all.find? fun s => (t.get s).name != "" && (t.get s).name == name

/-- Takes an address away from the slot that has it, unless that is the slot `s`. -/
def vacateOther (t : ModuleTable) (s : Slot) (a : Address) : ModuleTable :=
  match t.slotOf? a with
  | some other => if other = s then t else t.modify other ModuleRecord.vacate
  | none => t

/-- Binds an address and a name to a slot. The address that the slot had before is given too, if
it was another one. -/
def assign (t : ModuleTable) (s : Slot) (a : Address) (name : String) :
    Option Address × ModuleTable :=
  let previous := (t.get s).address.filter (· != a)
  (previous, (t.vacateOther s a).modify s fun r =>
    { r with address := some a, name := keptName name })

/-- The table of a controller that knows only itself. -/
def start : ModuleTable :=
  ((⟨.constant {}⟩ : ModuleTable).assign Slot.controller .controller "controller").2

/-- The addresses of all slots. -/
def addresses (t : ModuleTable) : PerSlot (Option Address) := t.records.map (·.address)

/-- The states of the occupied slots, in slot order. -/
def slotStates (t : ModuleTable) : List SlotState :=
  t.records.toList.filterMap fun r => r.address.map fun a => ⟨a, r.hasKey, r.name⟩

end ModuleTable

end ModuleBus

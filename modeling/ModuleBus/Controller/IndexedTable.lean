import ModuleBus.Controller.ModuleTable

set_option autoImplicit false

/-! # The module table with an index

A `ModuleTable` searches its records for the slot of an address. Here the slots are also kept by
address, in an index of its own. `assign` has to change both: it empties the slot that the index
gives for the new address, takes the slot's old address out of the index, and enters the new one
in place of what the index had for it. -/

namespace ModuleBus

/-- A module table and the slots by address. -/
structure IndexedTable where
  table : ModuleTable
  index : List (Address × Slot)
deriving DecidableEq

namespace IndexedTable

/-- The record of a slot. -/
def get (t : IndexedTable) (s : Slot) : ModuleRecord := t.table.get s

/-- The slot that the index has for an address. -/
def slotOf? (t : IndexedTable) (a : Address) : Option Slot := t.index.lookup a

/-- The index without an address. -/
def remove (index : List (Address × Slot)) (a : Address) : List (Address × Slot) :=
  index.filter fun entry => entry.1 != a

/-- The index with a slot for an address, in place of another one. -/
def insert (index : List (Address × Slot)) (a : Address) (s : Slot) : List (Address × Slot) :=
  (a, s) :: remove index a

/-- The records after an address was taken away from the slot that the index has for it, unless
that is the slot `s`. -/
def vacateOther (t : IndexedTable) (s : Slot) (a : Address) : ModuleTable :=
  match t.slotOf? a with
  | some other => if other = s then t.table else t.table.modify other ModuleRecord.vacate
  | none => t.table

/-- Binds an address and a name to a slot. The address that the slot had before is given too, if
it was another one. -/
def assign (t : IndexedTable) (s : Slot) (a : Address) (name : String) :
    Option Address × IndexedTable :=
  let table := t.vacateOther s a
  let previous := (table.get s).address.filter (· != a)
  (previous,
    { table := table.modify s fun r => { r with address := some a, name := keptName name }
      index := insert (previous.elim t.index (remove t.index)) a s })

/-- The table of a controller that knows only itself. -/
def start : IndexedTable :=
  ((⟨⟨.constant {}⟩, []⟩ : IndexedTable).assign Slot.controller .controller "controller").2

end IndexedTable

end ModuleBus

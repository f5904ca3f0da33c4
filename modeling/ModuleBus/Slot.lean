import ModuleBus.Address

set_option autoImplicit false

/-! # Slots and metered entities

The backplane has eight slots. One holds the controller board and one the storage module; the
others are metered, each with an energy counter and a budget of its own. Budgets are also kept for
the controller and for the house, its auxiliary subsystem. Per-slot and per-entity values are
vectors in slot order and in ledger order. -/

namespace ModuleBus

/-- Number of slots. -/
abbrev slotCount : Nat := 8

/-- A slot of the backplane. -/
abbrev Slot := Fin slotCount

namespace Slot

/-- The slot of the controller board. -/
def controller : Slot := 3

/-- The slot of the storage module. -/
def storage : Slot := 4

/-- The slot with the lowest number. -/
def first : Slot := 0

/-- The slot with the highest number. -/
def last : Slot := 7

/-- Every slot, in order. -/
def all : List Slot := List.finRange slotCount

/-- Every slot, in order from the one after `s` on; the first slot comes after the last. -/
def allAfter (s : Slot) : List Slot := all.map fun step => s + 1 + step

/-- The slot with the given number. -/
def ofNat? (n : Nat) : Option Slot := if h : n < slotCount then some ⟨n, h⟩ else none

/-- A slot with an energy counter and a budget of its own. -/
def isMetered (s : Slot) : Bool := s != controller && s != storage

/-- The metered slots, in order. -/
def metered : List Slot := all.filter isMetered

/-- The address that a module in the slot gets when it declares itself from the unassigned one. -/
def assignedAddress (s : Slot) : Address := ⟨0x10 + UInt8.ofNat s.val⟩

/-- A slot as it is printed. -/
def text (s : Slot) : String := s!"slot {s.val}"

theorem mem_all (s : Slot) : s ∈ all := List.mem_finRange s

example : metered.length = 6 := by decide

end Slot

/-- One value for each slot. -/
abbrev PerSlot (α : Type) := Vector α slotCount

namespace PerSlot

variable {α : Type}

/-- The same value for every slot. -/
def constant (a : α) : PerSlot α := Vector.replicate slotCount a

/-- The value of a slot. -/
def get (v : PerSlot α) (s : Slot) : α := v[s.val]

/-- The values with that of a slot replaced. -/
def set (v : PerSlot α) (s : Slot) (a : α) : PerSlot α := Vector.set v s.val a s.isLt

@[simp] theorem get_constant (a : α) (s : Slot) : (constant a).get s = a := by
  simp [constant, get]

@[simp] theorem get_ofFn (f : Slot → α) (s : Slot) : PerSlot.get (Vector.ofFn f) s = f s := by
  simp [get]

@[simp] theorem get_set_self (v : PerSlot α) (s : Slot) (a : α) : (v.set s a).get s = a := by
  simp [set, get]

theorem get_set_of_ne (v : PerSlot α) {s r : Slot} (a : α) (h : r ≠ s) :
    (v.set s a).get r = v.get r := by
  have hval : s.val ≠ r.val := fun hv => h (Fin.ext hv.symm)
  exact Vector.getElem_set_ne s.isLt r.isLt hval

end PerSlot

/-! ## Entities -/

/-- A metered consumer of energy. -/
inductive Entity where
  | controller
  /-- The controller's auxiliary subsystem, charged to the controller. -/
  | house
  | module (slot : Slot)
deriving DecidableEq

/-- Number of entities. -/
abbrev entityCount : Nat := slotCount + 2

namespace Entity

/-- Position of an entity in the ledger: controller, house, then the slots. -/
def index : Entity → Fin entityCount
  | controller => 0
  | house => 1
  | module s => ⟨2 + s.val, Nat.add_lt_add_left s.isLt 2⟩

/-- Every entity, in ledger order. -/
def all : List Entity := controller :: house :: Slot.all.map module

/-- The entities whose counter is billed: all but the modules in slots that are not metered. -/
def isBilled : Entity → Bool
  | module s => s.isMetered
  | _ => true

/-- An entity as it is printed. -/
def text : Entity → String
  | controller => "controller"
  | house => "house"
  | module s => s.text

@[simp] theorem val_index_controller : controller.index.val = 0 := rfl

@[simp] theorem val_index_house : house.index.val = 1 := rfl

@[simp] theorem val_index_module (s : Slot) : (module s).index.val = 2 + s.val := rfl

/-- The entity at a position of the ledger. -/
def ofIndex? (i : Nat) : Option Entity := all[i]?

theorem ofIndex?_index (e : Entity) : ofIndex? e.index.val = some e := by
  cases e with
  | controller => rfl
  | house => rfl
  | module s => simp [ofIndex?, all, Slot.all, Nat.add_comm 2]

theorem index_inj {e f : Entity} : e.index = f.index ↔ e = f := by
  refine ⟨fun h => ?_, congrArg index⟩
  have hsome : some e = some f := by rw [← ofIndex?_index e, h, ofIndex?_index]
  exact Option.some.inj hsome

end Entity

/-- One value for each entity, in ledger order. -/
abbrev PerEntity (α : Type) := Vector α entityCount

namespace PerEntity

variable {α : Type}

/-- The same value for every entity. -/
def constant (a : α) : PerEntity α := Vector.replicate entityCount a

/-- The value of an entity. -/
def get (v : PerEntity α) (e : Entity) : α := v[e.index.val]

/-- The values with that of an entity replaced. -/
def set (v : PerEntity α) (e : Entity) (a : α) : PerEntity α :=
  Vector.set v e.index.val a e.index.isLt

@[simp] theorem get_constant (a : α) (e : Entity) : (constant a).get e = a := by
  simp [constant, get]

@[simp] theorem get_set_self (v : PerEntity α) (e : Entity) (a : α) : (v.set e a).get e = a := by
  simp [set, get]

theorem get_set_of_ne (v : PerEntity α) {e d : Entity} (a : α) (h : d ≠ e) :
    (v.set e a).get d = v.get d := by
  have hval : e.index.val ≠ d.index.val := fun hv => h (Entity.index_inj.mp (Fin.ext hv.symm))
  exact Vector.getElem_set_ne e.index.isLt d.index.isLt hval

end PerEntity

end ModuleBus

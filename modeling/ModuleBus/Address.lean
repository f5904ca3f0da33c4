import ModuleBus.Bytes

set_option autoImplicit false

/-! # Bus addresses

Every participant answers at one address. Three addresses are fixed by the role of a
participant, and a module without one declares itself from `Address.unassigned`. -/

namespace ModuleBus

/-- Address of a participant on the bus. -/
structure Address where
  value : UInt8
deriving DecidableEq, Inhabited

namespace Address

/-- The address a module uses until the controller assigns one. -/
def unassigned : Address := ⟨0x00⟩

/-- The controller. -/
def controller : Address := ⟨0x20⟩

/-- The storage module. -/
def storage : Address := ⟨0x21⟩

/-- The radio module. -/
def radio : Address := ⟨0x22⟩

/-- The address as it is printed: two hexadecimal digits after `0x`. -/
def text (a : Address) : String := "0x" ++ Bytes.hexText 2 a.value.toNat

end Address

end ModuleBus

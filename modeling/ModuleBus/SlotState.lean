import ModuleBus.ErrorCode
import ModuleBus.Slot
import ModuleBus.Text.Utf8

set_option autoImplicit false

/-! # Slot states

What the controller tells about its modules: the addresses of all slots, or one record for each
occupied slot. A record is an address, a flag, a length byte and a name of that length, so a list
of records reads back from the records written one after another. -/

namespace ModuleBus

/-- Longest module name on the wire, in bytes. -/
def maxWireName : Nat := 16

/-- An occupied slot as the controller tells about it. -/
structure SlotState where
  address : Address
  hasKey : Bool
  name : String
deriving DecidableEq, Inhabited

namespace SlotState

/-- The bytes of a record; a name that is too long is cut. -/
def toBytes (s : SlotState) : Bytes :=
  let name := (Utf8.ofText s.name).take maxWireName
  s.address.value :: (if s.hasKey then 1 else 0) :: UInt8.ofNat name.length :: name

/-- The bytes of a list of records. -/
def encodeList (states : List SlotState) : Bytes := states.flatMap toBytes

/-- The records that some bytes hold; `size` when the last one is cut short. -/
def decodeList : Bytes → Except ErrorCode (List SlotState)
  | [] => .ok []
  | address :: hasKey :: length :: rest =>
    if rest.length < length.toNat then .error .size
    else
      match decodeList (rest.drop length.toNat) with
      | .error e => .error e
      | .ok states =>
        .ok (⟨⟨address⟩, hasKey != 0, Utf8.textLossy (rest.take length.toNat)⟩ :: states)
  | _ => .error .size
termination_by bytes => bytes.length
decreasing_by simp only [List.length_drop, List.length_cons]; omega

end SlotState

/-! ## Lists of addresses -/

/-- The byte that stands for an empty slot in a list of addresses. -/
def emptySlot : UInt8 := 0xFF

/-- The addresses of the slots, one byte each. -/
def encodeAddresses (addresses : PerSlot (Option Address)) : Bytes :=
  addresses.toList.map fun address => (address.map Address.value).getD emptySlot

/-- The addresses in a list of them, `none` for an empty slot; bytes after the list are passed
over. -/
def decodeAddresses? (bytes : Bytes) : Option (List (Option Address)) :=
  if bytes.length < slotCount then none
  else some ((bytes.take slotCount).map fun b => if b = emptySlot then none else some ⟨b⟩)

end ModuleBus

import ModuleBus.Bytes
import ModuleBus.Slot

set_option autoImplicit false

/-! # The controller's board

What the controller drives: the power rail, the bus switch and the isolation lines of every slot,
the hardware watchdog, the energy counters with the battery's gauge, and a memory that survives a
loss of power. A world with such a board in it is an instance of `Board`. -/

namespace ModuleBus

/-- A world in which a controller drives its board. -/
class Board (W : Type) where
  /-- Switches the power rail of a slot. -/
  setPower : Slot → Bool → W → W
  /-- Connects a slot to the shared bus, or takes it off. -/
  setBus : Slot → Bool → W → W
  /-- The request line of a slot is asserted. -/
  isRequesting : W → Slot → Bool
  /-- Drives the grant line of a slot. -/
  setGrant : Slot → Bool → W → W
  /-- Feeds the hardware watchdog. -/
  feedWatchdog : W → W
  /-- Energy that an entity used since the counters were last reset. -/
  counter : W → Entity → Nat
  /-- Resets all counters. -/
  resetCounters : W → W
  /-- Charge of the battery; `none` when no gauge answers. -/
  charge? : W → Option Nat
  /-- At most so many bytes of the memory from an offset on, or the text of a failure. -/
  readMemory : W → (offset count : Nat) → Except String Bytes
  /-- Writes to the memory from an offset on, or gives the text of a failure. -/
  writeMemory : (offset : Nat) → Bytes → W → Except String Unit × W

/-- What a byte memory holds after a write that may go past its end. -/
def extendMemory (memory : Bytes) (offset : Nat) (data : Bytes) : Bytes :=
  (memory ++ List.replicate (offset + data.length - memory.length) 0).overwrite offset data

end ModuleBus

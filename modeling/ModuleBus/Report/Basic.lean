import ModuleBus.Json.Writer
import ModuleBus.Slot

set_option autoImplicit false

/-! # Reports

A report is the JSON form of a value, for tools that look at what the library computes. Numbers
are whole; a floating-point number is reported by the sixteen hexadecimal digits of its bits, so
that nothing of it is lost. Bytes are reported in hexadecimal, many of them only by their number,
their two ends and a digest. What has one value for each slot or entity is an array in their
order, truth values for slots a text of zeros and ones. An absent value is `null`. -/

namespace ModuleBus

/-- Values that have a report. -/
class Reported (α : Type) where
  report : α → Json

export Reported (report)

/-- A value stands for its report. -/
instance {α : Type} [Reported α] (a : α) : CoeT α a Json := ⟨report a⟩

instance : Reported Json := ⟨id⟩

instance : Reported Int := ⟨fun i => .number (.ofInt i)⟩

instance : Reported Nat := ⟨fun n => report (n : Int)⟩

instance : Reported UInt8 := ⟨fun n => report n.toNat⟩

instance : Reported UInt16 := ⟨fun n => report n.toNat⟩

instance : Reported UInt32 := ⟨fun n => report n.toNat⟩

instance : Reported Int32 := ⟨fun n => report n.toInt⟩

instance : Reported Bool := ⟨.bool⟩

instance : Reported String := ⟨fun s => .string (some s)⟩

/-- What has succeeded without a value. -/
instance : Reported Unit := ⟨fun _ => report "ok"⟩

instance : Reported Float := ⟨fun f => report (Bytes.hexText 16 f.toBits.toNat)⟩

instance : Reported Address := ⟨fun a => report a.value⟩

instance : Reported Slot := ⟨fun s => report s.val⟩

instance {α : Type} [Reported α] : Reported (List α) := ⟨fun xs => .array (xs.map report)⟩

instance {α : Type} [Reported α] : Reported (Option α) := ⟨fun a => (a.map report).getD .null⟩

instance {α β : Type} [Reported α] [Reported β] : Reported (α × β) :=
  ⟨fun p => .array [p.1, p.2]⟩

instance {α : Type} {n : Nat} [Reported α] : Reported (Vector α n) := ⟨fun v => report v.toList⟩

instance {ε α : Type} [Reported ε] [Reported α] : Reported (Except ε α) where
  report
    | .ok a => a
    | .error e => e

/-- Truth values as zeros and ones. -/
def bitText (bits : List Bool) : String := String.ofList (bits.map fun b => if b then '1' else '0')

instance : Reported (PerSlot Bool) := ⟨fun v => report (bitText v.toList)⟩

/-! ## Bytes -/

namespace Bytes

/-- Bytes in hexadecimal, two digits each. -/
def hex (bytes : Bytes) : String := String.join (bytes.map fun b => hexText 2 b.toNat)

/-- The 64-bit digest that multiplies by a prime after every byte is mixed in. -/
def mixDigest (bytes : Bytes) : UInt64 :=
  bytes.foldl (fun digest b => (digest ^^^ b.toUInt64) * 0x100000001b3) 0xcbf29ce484222325

/-- Bytes that are reported in full at most. -/
def maxShown : Nat := 300

/-- Bytes that are shown of each end. -/
def endSize : Nat := 16

end Bytes

instance : Reported Bytes where
  report bytes :=
    if bytes.length ≤ Bytes.maxShown then bytes.hex
    else .record [
      ("len", bytes.length),
      ("head", Bytes.hex (bytes.take Bytes.endSize)),
      ("tail", Bytes.hex (bytes.drop (bytes.length - Bytes.endSize))),
      ("fnv", Bytes.hexText 16 bytes.mixDigest.toNat)]

end ModuleBus

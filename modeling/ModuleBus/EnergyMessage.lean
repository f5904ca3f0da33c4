import ModuleBus.Bytes

set_option autoImplicit false

/-! # Energy messages

The answer to a budget query takes fourteen bytes. A report lists the energy that its sender spent
for others, one entry of six bytes for each, behind a count byte; entries that the count announces
and the payload does not hold are left out. -/

namespace ModuleBus

/-- Answer to a budget query. -/
structure EnergyInformation where
  /-- Microwatt-hours used since the last reset. -/
  used : UInt32
  /-- Microwatt-hours that may still be spent. -/
  limit : UInt32
  /-- Whole seconds since the last reset. -/
  seconds : UInt32
  warning : Bool
  critical : Bool
deriving DecidableEq, Inhabited

namespace EnergyInformation

/-- Bytes of an answer. -/
def size : Nat := 14

/-- The byte of a flag. -/
def flag (b : Bool) : UInt8 := if b then 1 else 0

/-- The bytes of an answer. -/
def toBytes (i : EnergyInformation) : Bytes :=
  Bytes.ofNatLE 4 i.used.toNat ++ Bytes.ofNatLE 4 i.limit.toNat ++ Bytes.ofNatLE 4 i.seconds.toNat
    ++ [flag i.warning, flag i.critical]

/-- The answer at the start of some bytes. -/
def parse? (bytes : Bytes) : Option EnergyInformation :=
  match bytes.natLE? 0 4, bytes.natLE? 4 4, bytes.natLE? 8 4, bytes.drop 12 with
  | some used, some limit, some seconds, warning :: critical :: _ =>
    some ⟨UInt32.ofNat used, UInt32.ofNat limit, UInt32.ofNat seconds, warning != 0,
      critical != 0⟩
  | _, _, _, _ => none

end EnergyInformation

/-- Energy spent for another participant. -/
structure ReportEntry where
  /-- Address of the participant that the energy was spent for. -/
  application : UInt16
  /-- Microwatt-hours. -/
  energy : UInt32
deriving DecidableEq, Inhabited

namespace ReportEntry

/-- Bytes of an entry. -/
def size : Nat := 6

/-- The bytes of an entry. -/
def toBytes (e : ReportEntry) : Bytes :=
  Bytes.ofNatLE 2 e.application.toNat ++ Bytes.ofNatLE 4 e.energy.toNat

/-- The payload of a report: a count byte and at most 255 entries. -/
def encodeReport (entries : List ReportEntry) : Bytes :=
  let entries := entries.take 255
  UInt8.ofNat entries.length :: entries.flatMap toBytes

/-- At most `count` entries from the start of some bytes. -/
def decodeEntries : (count : Nat) → Bytes → List ReportEntry
  | count + 1, a₀ :: a₁ :: e₀ :: e₁ :: e₂ :: e₃ :: rest =>
    ⟨UInt16.ofNat (Bytes.toNatLE [a₀, a₁]), UInt32.ofNat (Bytes.toNatLE [e₀, e₁, e₂, e₃])⟩
      :: decodeEntries count rest
  | _, _ => []

/-- The entries of a report. -/
def decodeReport : Bytes → List ReportEntry
  | [] => []
  | count :: body => decodeEntries count.toNat body

end ReportEntry

end ModuleBus

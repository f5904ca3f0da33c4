import ModuleBus.Address
import ModuleBus.Text.Basic

set_option autoImplicit false

/-! # Counts of warnings

Participants count what they warn of and what fails for good, by the bus address that they have
at the time. Written remarks are counted in the same way: a remark that begins with an address in
brackets counts for that address. -/

namespace ModuleBus

/-- How serious a remark is. -/
inductive Severity where
  | error
  | warning
  | info
  | debug
deriving DecidableEq, Inhabited

namespace Severity

/-- Every severity, the most serious one first. -/
def all : List Severity := [error, warning, info, debug]

/-- Position of a severity, the most serious one first. -/
def rank : Severity → Nat
  | error => 1
  | warning => 2
  | info => 3
  | debug => 4

/-- The severity as a filter is printed, which lets everything pass that is as serious. -/
def text : Severity → String
  | error => "ERROR"
  | warning => "WARN"
  | info => "INFO"
  | debug => "DEBUG"

/-- A remark passes a filter; without one none does. -/
def passes (s : Severity) (filter : Option Severity) : Bool := filter.any (s.rank ≤ ·.rank)

end Severity

/-- Warnings and errors of one address. -/
structure Counts where
  warnings : Nat
  errors : Nat
deriving DecidableEq, Inhabited

/-- Counts by address, in the order in which addresses first appear. -/
structure Tally where
  entries : List (Address × Counts)
deriving DecidableEq

namespace Tally

/-- Nothing was counted. -/
def empty : Tally := ⟨[]⟩

/-- The counts of an address. -/
def get (t : Tally) (a : Address) : Counts := (t.entries.lookup a).getD ⟨0, 0⟩

/-- The entries with some counts added to those of an address. -/
def addTo (a : Address) (c : Counts) : List (Address × Counts) → List (Address × Counts)
  | [] => [(a, c)]
  | (b, d) :: rest =>
    if b = a then (b, ⟨d.warnings + c.warnings, d.errors + c.errors⟩) :: rest
    else (b, d) :: addTo a c rest

/-- Counts a remark; only warnings and errors count. -/
def note (t : Tally) (severity : Severity) (a : Address) : Tally :=
  match severity with
  | .error => ⟨addTo a ⟨0, 1⟩ t.entries⟩
  | .warning => ⟨addTo a ⟨1, 0⟩ t.entries⟩
  | _ => t

/-- Both tallies together. -/
def merge (t u : Tally) : Tally :=
  ⟨u.entries.foldl (fun entries e => addTo e.1 e.2 entries) t.entries⟩

/-! ## Written remarks -/

/-- The value of a hexadecimal digit. -/
def digit? (c : Char) : Option Nat :=
  if c.isDigit then some (c.toNat - '0'.toNat)
  else if 'a' ≤ c ∧ c ≤ 'f' then some (c.toNat - 'a'.toNat + 10)
  else if 'A' ≤ c ∧ c ≤ 'F' then some (c.toNat - 'A'.toNat + 10)
  else none

/-- The address that some hexadecimal digits name, with a plus sign before them or not. -/
def address? (digits : List Char) : Option Address := do
  let digits := match digits with
    | '+' :: rest => rest
    | digits => digits
  if digits = [] then none
  else
    let n ← digits.foldlM (fun n c => (digit? c).map (16 * n + ·)) 0
    if n < 256 then some ⟨UInt8.ofNat n⟩ else none

/-- The address in brackets that a remark begins with; blanks may stand before it. -/
def remarkAddress? (text : String) : Option Address :=
  match trimStart isBlank text.toList with
  | '[' :: '0' :: 'x' :: rest =>
    let digits := rest.takeWhile (· != ']')
    if digits.length < rest.length then address? digits else none
  | _ => none

/-- A written remark, and the module that it comes from. -/
structure Remark where
  severity : Severity
  text : String
  module : Option String
deriving DecidableEq

/-- Counts a written remark, if it comes from a module of the given family. -/
def record (family : String) (t : Tally) (r : Remark) : Tally :=
  match remarkAddress? r.text with
  | some a => if r.module.any (·.startsWith family) then t.note r.severity a else t
  | none => t

end Tally

end ModuleBus

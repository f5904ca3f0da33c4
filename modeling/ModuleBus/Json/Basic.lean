set_option autoImplicit false

/-! # JSON values

A JSON value keeps what its text said: numbers as they were written, and the members of an object
in order, repeated names included. How a number is taken depends on what is asked for: `nat?`
takes whole numbers below a bound, `real?` any number. -/

namespace ModuleBus

/-- A number as it is written. -/
structure Numeral where
  negative : Bool
  /-- Digits before the point. -/
  whole : List Nat
  /-- Digits after the point. -/
  fraction : List Nat
  /-- Sign and digits of the exponent. -/
  exponent : Option (Bool × List Nat)
deriving Inhabited

namespace Numeral

/-- The number that digits write. -/
def ofDigits (digits : List Nat) : Nat := digits.foldl (fun n d => n * 10 + d) 0

/-- A number written without point and exponent. -/
def isWhole (n : Numeral) : Bool := n.fraction.isEmpty && n.exponent.isNone

/-- The value of a whole number below `bound`; a sign makes it none. -/
def nat? (bound : Nat) (n : Numeral) : Option Nat :=
  let value := ofDigits n.whole
  if n.isWhole && !n.negative && value < bound then some value else none

/-! ## Real values

The leading digits make a significand of 64 bits, which is then multiplied or divided by a power
of ten in floating-point arithmetic. A digit that no longer fits ends the significand: digits
before the point then count as a power of ten each, and digits after it are passed over. -/

/-- The largest significand. -/
def maxSignificand : Nat := UInt64.size - 1

/-- Significand and count of the digits that did not fit, for digits before the point. -/
def takeWhole (significand : Nat) : List Nat → Nat × Nat
  | [] => (significand, 0)
  | d :: rest =>
    if significand * 10 + d ≤ maxSignificand then takeWhole (significand * 10 + d) rest
    else (significand, rest.length + 1)

/-- Significand and count of the digits that were taken, for digits after the point. -/
def takeFraction (significand taken : Nat) : List Nat → Nat × Nat
  | [] => (significand, taken)
  | d :: rest =>
    if significand * 10 + d ≤ maxSignificand then
      takeFraction (significand * 10 + d) (taken + 1) rest
    else (significand, taken)

/-- The floating-point number nearest to a power of ten. -/
def powerOfTen (e : Nat) : Float := Float.ofScientific 1 false e

/-- The largest exponent with a finite power of ten. -/
def maxPower : Nat := 308

/-- The value of `f` times ten to a negative power, divided out in steps. -/
def divide (f : Float) : (fuel e : Nat) → Float
  | 0, _ => f
  | fuel + 1, e =>
    if e ≤ maxPower then f / powerOfTen e
    else if f == 0.0 then f
    else divide (f / powerOfTen maxPower) fuel (e - maxPower)

/-- The significand times a power of ten; `none` when that is too large. -/
def scale? (significand : Nat) (e : Int) : Option Float :=
  let f := (UInt64.ofNat significand).toFloat
  if e < 0 then some (divide f (e.natAbs / maxPower + 1) e.natAbs)
  else if e.toNat ≤ maxPower then
    let f := f * powerOfTen e.toNat
    if f.isInf then none else some f
  else if significand = 0 then some f
  else none

/-- The exponent of a number; `none` when it is too large to be counted. -/
def exponent? : Option (Bool × List Nat) → Option Int
  | none => some 0
  | some (negative, digits) =>
    let value : Int := ofDigits digits
    if value ≤ Int32.maxValue.toInt then some (if negative then -value else value) else none

/-- The value of a number; `none` when it is too large. -/
def real? (n : Numeral) : Option Float :=
  let (significand, dropped) := takeWhole 0 n.whole
  let (significand, taken) := takeFraction significand 0 n.fraction
  let value := match exponent? n.exponent with
    | some e => scale? significand ((dropped : Int) - taken + e)
    | none =>
      if significand = 0 || n.exponent.any (fun (e : Bool × List Nat) => e.1) then some 0.0
      else none
  value.map fun f => if n.negative then -f else f

end Numeral

/-- A JSON value. Strings and names are `none` when their escapes name no text; such a string is no
fault of a text until somebody asks for it. -/
inductive Json where
  | null
  | bool (b : Bool)
  | number (n : Numeral)
  | string (s : Option String)
  | array (items : List Json)
  | object (members : List (Option String × Json))

namespace Json

/-- The object with the given fields. -/
def record (fields : List (String × Json)) : Json :=
  object (fields.map fun field => (some field.1, field.2))

/-! ## Taking values -/

/-- A number below `bound`, written without point and exponent. -/
def nat? (bound : Nat) : Json → Option Nat
  | number n => n.nat? bound
  | _ => none

/-- Any number. -/
def real? : Json → Option Float
  | number n => n.real?
  | _ => none

/-- A truth value. -/
def bool? : Json → Option Bool
  | bool b => some b
  | _ => none

/-- A text. -/
def text? : Json → Option String
  | string s => s
  | _ => none

/-- The items of an array. -/
def items? : Json → Option (List Json)
  | array items => some items
  | _ => none

/-- Nothing where `null` stands, or what `read` takes. -/
def optional? {α : Type} (read : Json → Option α) : Json → Option (Option α)
  | null => some none
  | v => (read v).map some

/-- The values of a record with the given field names, absent ones as `none`. A record is an object
in which all names are texts and none of the given ones is repeated, or an array with at most as
many items as names. -/
def record? (names : List String) : Json → Option (List (Option Json))
  | object members =>
    let values := names.map fun name => (members.filter fun m => m.1 == some name).map (·.2)
    if (members.all fun m => m.1.isSome) && values.all fun vs => vs.length ≤ 1 then
      some (values.map List.head?)
    else none
  | array items =>
    if items.length ≤ names.length then
      some (items.map some ++ List.replicate (names.length - items.length) none)
    else none
  | _ => none

/-- A field that has to be present. -/
def required? {α : Type} (read : Json → Option α) : Option Json → Option α
  | none => none
  | some v => read v

/-- A field that is `value` when absent. -/
def default? {α : Type} (value : α) (read : Json → Option α) : Option Json → Option α
  | none => some value
  | some v => read v

end Json

end ModuleBus

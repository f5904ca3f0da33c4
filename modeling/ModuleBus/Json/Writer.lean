import ModuleBus.Json.Basic

set_option autoImplicit false

/-! # Writing JSON

`Json.text` writes a value on one line without blanks. Quotes, backslashes and control characters
are escaped in strings; everything else stands for itself. -/

namespace ModuleBus

namespace Numeral

/-- The decimal digits of a number. -/
def digitsOf (n : Nat) : List Nat := (Nat.toDigits 10 n).map fun c => c.toNat - '0'.toNat

/-- A whole number. -/
def ofInt (i : Int) : Numeral := ⟨i < 0, digitsOf i.natAbs, [], none⟩

/-- The number `mantissa * 10 ^ (-places)`. -/
def ofScaled (mantissa : Int) (places : Nat) : Numeral :=
  ⟨mantissa < 0, digitsOf mantissa.natAbs, [], some (true, digitsOf places)⟩

/-- Digits as they are written. -/
def digitsText (digits : List Nat) : String := String.ofList (digits.map Nat.digitChar)

/-- A number as it is written. -/
def text (n : Numeral) : String :=
  (if n.negative then "-" else "") ++ digitsText n.whole
    ++ (if n.fraction.isEmpty then "" else "." ++ digitsText n.fraction)
    ++ match n.exponent with
      | none => ""
      | some (negative, digits) => (if negative then "e-" else "e") ++ digitsText digits

end Numeral

namespace Json

/-- A character as it is written in a string. -/
def escape (c : Char) : List Char :=
  if c = '"' ∨ c = '\\' then ['\\', c]
  else if c.toNat < 0x20 then
    '\\' :: 'u' :: '0' :: '0' :: [Nat.digitChar (c.toNat / 16), Nat.digitChar (c.toNat % 16)]
  else [c]

/-- A string as it is written, between quotes. -/
def quote (s : String) : String := String.ofList ('"' :: s.toList.flatMap escape ++ ['"'])

/-- A string or name as it is written; one that names no text is written as `null`. -/
def stringText : Option String → String
  | none => "null"
  | some s => quote s

mutual

/-- A value as it is written. -/
def text : Json → String
  | null => "null"
  | bool b => if b then "true" else "false"
  | number n => n.text
  | string s => stringText s
  | array items => "[" ++ String.intercalate "," (itemTexts items) ++ "]"
  | object members => "\x7b" ++ String.intercalate "," (memberTexts members) ++ "\x7d"

/-- The items of an array as they are written. -/
def itemTexts : List Json → List String
  | [] => []
  | v :: rest => v.text :: itemTexts rest

/-- The members of an object as they are written. -/
def memberTexts : List (Option String × Json) → List String
  | [] => []
  | (name, v) :: rest => (stringText name ++ ":" ++ v.text) :: memberTexts rest

end

end Json

end ModuleBus

set_option autoImplicit false

/-! # The ends of a text

The characters with the Unicode property `White_Space`, cutting text at its ends, and filling it
with spaces up to the width of a column. -/

namespace ModuleBus

/-- The first and last code points of each range of blank characters. -/
def blankRanges : List (Nat × Nat) :=
  [(0x09, 0x0D), (0x20, 0x20), (0x85, 0x85), (0xA0, 0xA0), (0x1680, 0x1680), (0x2000, 0x200A),
    (0x2028, 0x2029), (0x202F, 0x202F), (0x205F, 0x205F), (0x3000, 0x3000)]

/-- A character with the property `White_Space`. -/
def isBlank (c : Char) : Bool := blankRanges.any fun r => r.1 ≤ c.toNat && c.toNat ≤ r.2

/-- The text without its leading characters of the class `drop`. -/
def trimStart (drop : Char → Bool) (cs : List Char) : List Char := cs.dropWhile drop

/-- The text without its trailing characters of the class `drop`. -/
def trimEnd (drop : Char → Bool) (cs : List Char) : List Char :=
  (cs.reverse.dropWhile drop).reverse

/-- The text without blanks at either end. -/
def trimBlanks (cs : List Char) : List Char := trimEnd isBlank (trimStart isBlank cs)

example : (blankRanges.map fun r => r.2 - r.1 + 1).sum = 25 := by decide

/-! ## Columns

Text that is wider than its column stays whole. -/

/-- The text at the left end of a column. -/
def alignLeft (width : Nat) (s : String) : String :=
  s ++ String.ofList (List.replicate (width - s.length) ' ')

/-- The text at the right end of a column. -/
def alignRight (width : Nat) (s : String) : String :=
  String.ofList (List.replicate (width - s.length) ' ') ++ s

end ModuleBus

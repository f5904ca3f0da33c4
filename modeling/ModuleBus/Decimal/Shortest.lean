set_option autoImplicit false

/-! # Shortest decimals

A binary floating-point number is `m * 2 ^ q`, and every real number in the interval around it
that rounding maps to it reads back as it. `Shortest.ofFloat` gives the decimal in that interval
with the fewest digits, of those the nearest to the number, and of two that are equally near the
one farther from zero. -/

namespace ModuleBus.Shortest

/-- A positive finite floating-point number: `m * 2 ^ q`. -/
structure Binary where
  m : Nat
  q : Int
  /-- The next smaller number is only half as far away as the next larger one. -/
  lowEdge : Bool
deriving Inhabited

/-- The number with the given bits, without its sign; `none` for zero, infinities and what is no
number. -/
def Binary.ofBits? (bits : UInt64) : Option Binary :=
  let n := bits.toNat
  let fraction := n % (1 <<< 52)
  let exponent : Nat := n / (1 <<< 52) % (1 <<< 11)
  if exponent = 2047 then none
  else if exponent = 0 then
    if fraction = 0 then none else some ⟨fraction, -1074, false⟩
  else some ⟨(1 <<< 52) + fraction, (exponent : Int) - 1075, fraction = 0 ∧ exponent > 1⟩

/-- A rational number with a positive denominator, as numerator and denominator. -/
structure Ratio where
  num : Nat
  den : Nat

/-- `m * 2 ^ q`. -/
def Ratio.scaled (m : Nat) (q : Int) : Ratio :=
  if q ≥ 0 then ⟨m <<< q.toNat, 1⟩ else ⟨m, 1 <<< (-q).toNat⟩

/-- Comparison of rational numbers. -/
def Ratio.le (a b : Ratio) : Bool := a.num * b.den ≤ b.num * a.den

/-- The rational `n * 10 ^ e`. -/
def Ratio.decimal (n : Nat) (e : Int) : Ratio :=
  if e ≥ 0 then ⟨n * Nat.pow 10 e.toNat, 1⟩ else ⟨n, Nat.pow 10 (-e).toNat⟩

/-- The distance of two rational numbers. -/
def Ratio.distance (a b : Ratio) : Ratio :=
  let x := a.num * b.den
  let y := b.num * a.den
  ⟨max x y - min x y, a.den * b.den⟩

/-- The lower and upper end of the interval that rounds to `b`. -/
def Binary.ends (b : Binary) : Ratio × Ratio :=
  (if b.lowEdge then Ratio.scaled (4 * b.m - 1) (b.q - 2) else Ratio.scaled (2 * b.m - 1) (b.q - 1),
   Ratio.scaled (2 * b.m + 1) (b.q - 1))

/-- The rational reads back as `b`; the ends do so where `m` is even. -/
def Binary.covers (b : Binary) (x : Ratio) : Bool :=
  let (low, high) := b.ends
  if b.m % 2 = 0 then low.le x && x.le high else !x.le low && !high.le x

/-- The power of ten just above the number: the least `e` with `m * 2 ^ q < 10 ^ e`, searched
among the powers that finite numbers need. -/
def Binary.magnitude (b : Binary) : Int :=
  let v := Ratio.scaled b.m b.q
  match (List.range 640).find? fun (i : Nat) => !(Ratio.decimal 1 ((i : Int) - 325)).le v with
  | some i => (i : Int) - 325
  | none => 315

/-- The decimal with `count` digits nearest to the number among its two neighbours on that grid,
if it reads back as the number: digits as a number, and the power of ten they count. Of two that
are equally near the larger is taken. -/
def Binary.grid? (b : Binary) (count : Nat) : Option (Nat × Int) :=
  let v := Ratio.scaled b.m b.q
  let e := b.magnitude - count
  let unit := Ratio.decimal 1 e
  let below := v.num * unit.den / (v.den * unit.num)
  let dBelow := (Ratio.decimal below e).distance v
  let dAbove := (Ratio.decimal (below + 1) e).distance v
  match b.covers (Ratio.decimal below e), b.covers (Ratio.decimal (below + 1) e) with
  | true, true => some (if dAbove.le dBelow then below + 1 else below, e)
  | true, false => some (below, e)
  | false, true => some (below + 1, e)
  | false, false => none

/-- The shortest decimal of the number: digits as a number, and the power of ten they count. -/
def Binary.shortest (b : Binary) : Nat × Int :=
  ((List.range 17).findSome? fun i => b.grid? (i + 1)).getD (0, 0)

/-- The digits `n` counted in units of `10 ^ e`, written without an exponent. -/
def positional (n : Nat) (e : Int) : String :=
  let ds := Nat.toDigits 10 n
  if e ≥ 0 then String.ofList (ds ++ List.replicate e.toNat '0')
  else
    let places := (-e).toNat
    let ds := List.replicate (places + 1 - ds.length) '0' ++ ds
    let whole := ds.take (ds.length - places)
    let part := (ds.drop (ds.length - places)).reverse.dropWhile (· == '0')
    String.ofList (if part.isEmpty then whole else whole ++ '.' :: part.reverse)

/-- The text of a floating-point number: its shortest decimal, without an exponent and without a
point where no digit follows it. -/
def text (x : Float) : String :=
  let bits := x.toBits
  let sign := if bits >>> 63 = 0 then "" else "-"
  match Binary.ofBits? bits with
  | some b => let (n, e) := b.shortest; sign ++ positional n e
  | none =>
    if bits <<< 1 = 0 then sign ++ "0"
    else if bits <<< 12 = 0 then sign ++ "inf"
    else "NaN"

/-- The nearest whole number to a nonnegative number, a half going to the even neighbour. -/
def roundHalfEven (x : Float) : Nat :=
  match Binary.ofBits? x.toBits with
  | none => 0
  | some b =>
    let v := Ratio.scaled b.m b.q
    let whole := v.num / v.den
    let rest := 2 * (v.num % v.den)
    if rest < v.den ∨ (rest = v.den ∧ whole % 2 = 0) then whole else whole + 1

end ModuleBus.Shortest

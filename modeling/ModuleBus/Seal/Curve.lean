import ModuleBus.Bytes

set_option autoImplicit false

/-! # Key agreement on a prime curve

The P-256 curve `y² = x³ - 3x + b` over the field of `p` elements. A participant multiplies the
base point by its secret and publishes the product as 65 bytes; multiplying the other side's
point by its own secret gives both the same point, whose first coordinate is the shared secret.
Points are read in the uncompressed form and in the two short forms that hold the first
coordinate only. -/

namespace ModuleBus.Curve

/-! ## The field -/

/-- Number of field elements, a prime that is 3 modulo 4. -/
def p : Nat := 0xffffffff00000001000000000000000000000000ffffffffffffffffffffffff

/-- The constant of the curve equation. -/
def b : Nat := 0x5ac635d8aa3a93e7b3ebbd55769886bc651d06b0cc53b0f63bce3c3e27d2604b

/-- Number of points on the curve. -/
def order : Nat := 0xffffffff00000000ffffffffffffffffbce6faada7179e84f3b9cac2fc632551

/-- Sum of field elements. -/
def add (x y : Nat) : Nat := (x + y) % p

/-- Difference of field elements. -/
def sub (x y : Nat) : Nat := (x + (p - y % p)) % p

/-- Product of field elements. -/
def mul (x y : Nat) : Nat := x * y % p

/-- Power of a field element, by squaring from the top bit of the exponent. -/
def pow (x e : Nat) : Nat :=
  (List.range 256).foldr
    (fun bit r => let square := mul r r; if e.testBit bit then mul square x else square) 1

/-- The inverse of a field element other than zero. -/
def inv (x : Nat) : Nat := pow x (p - 2)

/-- A square root of a field element, if it has one. -/
def sqrt? (x : Nat) : Option Nat :=
  let r := pow x ((p + 1) / 4)
  if mul r r = x % p then some r else none

/-! ## Points -/

/-- A point in projective form: `(x / z², y / z³)`, the neutral point where `z` is zero. -/
structure Point where
  x : Nat
  y : Nat
  z : Nat

/-- The neutral point. -/
def Point.neutral : Point := ⟨1, 1, 0⟩

/-- The base point. -/
def Point.base : Point :=
  ⟨0x6b17d1f2e12c4247f8bce6e563a440f277037d812deb33a0f4a13945d898c296,
   0x4fe342e2fe1a7f9b8ee7eb4a7c0f9e162bce33576b315ececbb6406837bf51f5, 1⟩

/-- A point added to itself. -/
def Point.double (q : Point) : Point :=
  let delta := mul q.z q.z
  let gamma := mul q.y q.y
  let beta := mul q.x gamma
  let alpha := mul 3 (mul (sub q.x delta) (add q.x delta))
  let x := sub (mul alpha alpha) (mul 8 beta)
  let z := sub (sub (mul (add q.y q.z) (add q.y q.z)) gamma) delta
  ⟨x, sub (mul alpha (sub (mul 4 beta) x)) (mul 8 (mul gamma gamma)), z⟩

/-- The sum of two points. -/
def Point.add (q r : Point) : Point :=
  if q.z = 0 then r
  else if r.z = 0 then q
  else
    let qz := mul q.z q.z
    let rz := mul r.z r.z
    let u := mul q.x rz
    let s := mul q.y (mul r.z rz)
    let h := sub (mul r.x qz) u
    let k := sub (mul r.y (mul q.z qz)) s
    if h = 0 then
      if k = 0 then q.double else .neutral
    else
      let hh := mul h h
      let hhh := mul h hh
      let v := mul u hh
      let x := sub (sub (mul k k) hhh) (mul 2 v)
      ⟨x, sub (mul k (sub v x)) (mul s hhh), mul h (mul q.z r.z)⟩

/-- A point added to itself `n` times, by doubling from the top bit of `n`. -/
def Point.scale (n : Nat) (q : Point) : Point :=
  (List.range 256).foldr
    (fun bit acc => if n.testBit bit then acc.double.add q else acc.double) .neutral

/-- The two coordinates of a point other than the neutral one. -/
def Point.coordinates (q : Point) : Nat × Nat :=
  let i := inv q.z
  let ii := mul i i
  (mul q.x ii, mul q.y (mul i ii))

/-! ## Written points -/

/-- The right-hand side of the curve equation. -/
def equation (x : Nat) : Nat := add (sub (mul (mul x x) x) (mul 3 x)) b

/-- The point with first coordinate `x` and a second coordinate of the given parity. -/
def lift? (x : Nat) (odd : Bool) : Option Point :=
  if x < p then
    (sqrt? (equation x)).map fun y => ⟨x, if (y % 2 == 1) == odd then y else sub 0 y, 1⟩
  else none

/-- The point that bytes write: `04` and both coordinates, or `02`, `03` or `05` and the first
coordinate. The neutral point and points off the curve are refused. -/
def Point.read? (bytes : Bytes) : Option Point :=
  match bytes with
  | [] => none
  | form :: body =>
    if form = 0x04 then
      let x := Bytes.toNatBE (body.take 32)
      let y := Bytes.toNatBE (body.drop 32)
      if body.length = 64 ∧ x < p ∧ y < p ∧ mul y y = equation x then some ⟨x, y, 1⟩ else none
    else if body.length = 32 ∧ (form = 0x02 ∨ form = 0x03 ∨ form = 0x05) then
      lift? (Bytes.toNatBE body) (form == 0x03)
    else none

/-- The uncompressed form of a point: 65 bytes. -/
def Point.write (q : Point) : Bytes :=
  let (x, y) := q.coordinates
  0x04 :: (Bytes.ofNatBE 32 x ++ Bytes.ofNatBE 32 y)

@[simp] theorem Point.length_write (q : Point) : q.write.length = 65 := by
  simp [Point.write]

/-- The first coordinate of `secret` times the point, as 32 bytes. -/
def sharedSecret (secret : Nat) (q : Point) : Bytes :=
  Bytes.ofNatBE 32 (Point.scale secret q).coordinates.1

end ModuleBus.Curve

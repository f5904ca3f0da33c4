set_option autoImplicit false

/-! # Byte strings and the integers written in them

Payloads, packets and memory contents are lists of bytes. Integers of a fixed width are written
least significant byte first (`ofNatLE`, `toNatLE`) or most significant byte first (`ofNatBE`,
`toNatBE`); writing keeps a number modulo `span width`, so reading back what was written gives
the number again whenever it fits (`toNatLE_ofNatLE`, `toNatBE_ofNatBE`). -/

namespace ModuleBus

/-- A byte string. -/
abbrev Bytes := List UInt8

namespace Bytes

/-! ## Integers of a fixed width -/

/-- How many numbers `width` bytes can write: a power of 256. -/
def span : (width : Nat) → Nat
  | 0 => 1
  | width + 1 => 256 * span width

theorem span_pos (width : Nat) : 0 < span width := by
  induction width with
  | zero => decide
  | succ width ih => exact Nat.mul_pos (by decide) ih

/-- The `width` low bytes of `n`, least significant first. -/
def ofNatLE : (width n : Nat) → Bytes
  | 0, _ => []
  | width + 1, n => UInt8.ofNat n :: ofNatLE width (n / 256)

/-- The number written least significant byte first. -/
def toNatLE : Bytes → Nat
  | [] => 0
  | b :: rest => b.toNat + 256 * toNatLE rest

/-- The `width` low bytes of `n`, most significant first. -/
def ofNatBE (width n : Nat) : Bytes := (ofNatLE width n).reverse

/-- The number written most significant byte first. -/
def toNatBE (bytes : Bytes) : Nat := toNatLE bytes.reverse

@[simp] theorem length_ofNatLE (width n : Nat) : (ofNatLE width n).length = width := by
  induction width generalizing n with
  | zero => rfl
  | succ width ih => simp [ofNatLE, ih]

@[simp] theorem length_ofNatBE (width n : Nat) : (ofNatBE width n).length = width := by
  simp [ofNatBE]

theorem toNatLE_ofNatLE (width n : Nat) : toNatLE (ofNatLE width n) = n % span width := by
  induction width generalizing n with
  | zero => simp [ofNatLE, toNatLE, span, Nat.mod_one]
  | succ width ih =>
    rw [ofNatLE, toNatLE, ih, span, Nat.mod_mul]
    simp

theorem toNatBE_ofNatBE (width n : Nat) : toNatBE (ofNatBE width n) = n % span width := by
  simp [toNatBE, ofNatBE, toNatLE_ofNatLE]

theorem toNatLE_lt (bytes : Bytes) : toNatLE bytes < span bytes.length := by
  induction bytes with
  | nil => simp [toNatLE, span]
  | cons b rest ih =>
    have hb : b.toNat < 256 := b.toNat_lt
    rw [toNatLE, List.length_cons, span]
    omega

/-- Every byte string of length `width` is the writing of the number it reads as. -/
theorem ofNatLE_toNatLE (bytes : Bytes) : ofNatLE bytes.length (toNatLE bytes) = bytes := by
  induction bytes with
  | nil => rfl
  | cons b rest ih =>
    have hb : b.toNat < 256 := b.toNat_lt
    have hdiv : (b.toNat + 256 * toNatLE rest) / 256 = toNatLE rest := by omega
    have hmod : UInt8.ofNat (b.toNat + 256 * toNatLE rest) = b := by
      apply UInt8.toNat_inj.mp
      simp only [UInt8.toNat_ofNat']
      omega
    rw [List.length_cons, ofNatLE, toNatLE, hdiv, hmod, ih]

/-- The `width` bytes from position `start` on, or nothing when there are fewer. -/
def field? (bytes : Bytes) (start width : Nat) : Option Bytes :=
  if start + width ≤ bytes.length then some ((bytes.drop start).take width) else none

/-- The little-endian number of `width` bytes at position `start`. -/
def natLE? (bytes : Bytes) (start width : Nat) : Option Nat :=
  (bytes.field? start width).map toNatLE

theorem natLE?_eq_none_iff (bytes : Bytes) (start width : Nat) :
    bytes.natLE? start width = none ↔ bytes.length < start + width := by
  unfold natLE? field?
  split <;> simp <;> omega

/-! ## Signed words

A signed word of `width` bytes is written as its residue modulo `span width`. -/

/-- The residue of `i` modulo `span width`, least significant byte first. -/
def ofIntLE (width : Nat) (i : Int) : Bytes := ofNatLE width (i.emod (span width)).toNat

/-- The number nearest zero with the residue that the bytes write: the sign is the top bit. -/
def toIntLE (bytes : Bytes) : Int := Int.bmod (toNatLE bytes) (span bytes.length)

/-- The little-endian signed word of `width` bytes at position `start`. -/
def intLE? (bytes : Bytes) (start width : Nat) : Option Int :=
  (bytes.field? start width).map toIntLE

@[simp] theorem length_ofIntLE (width : Nat) (i : Int) : (ofIntLE width i).length = width := by
  simp [ofIntLE]

theorem toIntLE_ofIntLE (width : Nat) (i : Int) :
    toIntLE (ofIntLE width i) = Int.bmod i (span width) := by
  have hpos : (0 : Int) < span width := Int.natCast_pos.mpr (span_pos width)
  have hnat : ((i.emod (span width)).toNat : Int) = i % span width :=
    Int.toNat_of_nonneg (Int.emod_nonneg _ (Int.ne_of_gt hpos))
  rw [toIntLE, length_ofIntLE, ofIntLE, toNatLE_ofNatLE, Int.natCast_emod, hnat,
    Int.emod_emod_of_dvd _ (Int.dvd_refl _), Int.emod_bmod]

/-! ## Writing into a buffer -/

/-- The buffer with `data` written at `offset`; what does not fit is left out, so the length of
the buffer never changes. -/
def overwrite (buffer : Bytes) (offset : Nat) (data : Bytes) : Bytes :=
  let written := data.take (buffer.length - offset)
  buffer.take offset ++ written ++ buffer.drop (offset + written.length)

@[simp] theorem length_overwrite (buffer : Bytes) (offset : Nat) (data : Bytes) :
    (buffer.overwrite offset data).length = buffer.length := by
  simp only [overwrite, List.length_append, List.length_take, List.length_drop]
  omega

/-! ## Hexadecimal text -/

/-- The digits of `n` in base 16, lower case, filled with zeros up to `width`. -/
def hexText (width n : Nat) : String :=
  let digits := Nat.toDigits 16 n
  String.ofList (List.replicate (width - digits.length) '0' ++ digits)

end Bytes

end ModuleBus

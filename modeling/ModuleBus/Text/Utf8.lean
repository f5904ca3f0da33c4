import ModuleBus.Bytes

set_option autoImplicit false

/-! # UTF-8

Names, topics and log names travel as UTF-8. `encode` writes characters, `decode?` reads bytes
that are well formed throughout, and `decodeLossy` reads any bytes: every longest stretch that
only begins a character, and every byte that cannot begin one, is replaced by one U+FFFD. -/

namespace ModuleBus.Utf8

/-- The bytes of some characters. -/
def encode (cs : List Char) : Bytes := cs.flatMap String.utf8EncodeChar

/-- What a leading byte announces: how many bytes follow it, and the bounds of the first of
them. -/
structure Lead where
  count : Nat
  low : UInt8
  high : UInt8

/-- What `b` announces as the leading byte of a character of two bytes or more. -/
def lead? (b : UInt8) : Option Lead :=
  if 0xC2 ≤ b ∧ b ≤ 0xDF then some ⟨1, 0x80, 0xBF⟩
  else if b = 0xE0 then some ⟨2, 0xA0, 0xBF⟩
  else if b = 0xED then some ⟨2, 0x80, 0x9F⟩
  else if 0xE1 ≤ b ∧ b ≤ 0xEF then some ⟨2, 0x80, 0xBF⟩
  else if b = 0xF0 then some ⟨3, 0x90, 0xBF⟩
  else if 0xF1 ≤ b ∧ b ≤ 0xF3 then some ⟨3, 0x80, 0xBF⟩
  else if b = 0xF4 then some ⟨3, 0x80, 0x8F⟩
  else none

/-- How many of the next `count` bytes continue a character whose next byte has the given
bounds. -/
def continuation : (count : Nat) → (low high : UInt8) → Bytes → Nat
  | 0, _, _, _ => 0
  | _, _, _, [] => 0
  | count + 1, low, high, b :: rest =>
    if low ≤ b ∧ b ≤ high then continuation count 0x80 0xBF rest + 1 else 0

/-- The character that `b` begins, if it is complete, and the number of bytes after `b` that
belong to it or to its beginning. -/
def step (b : UInt8) (rest : Bytes) : Option Char × Nat :=
  if b < 0x80 then (some (Char.ofNat b.toNat), 0)
  else match lead? b with
    | none => (none, 0)
    | some l =>
      let taken := continuation l.count l.low l.high rest
      if taken = l.count then
        let start := b.toNat % (1 <<< (6 - l.count))
        let code := (rest.take taken).foldl (fun n c => n * 64 + c.toNat % 64) start
        (some (Char.ofNat code), taken)
      else (none, taken)

/-- The character that stands for bytes that are none. -/
def replacement : Char := '\uFFFD'

/-- The characters of any bytes, with `replacement` for what is malformed. -/
def decodeLossy : Bytes → List Char
  | [] => []
  | b :: rest =>
    (step b rest).1.getD replacement :: decodeLossy (rest.drop (step b rest).2)
termination_by bytes => bytes.length
decreasing_by simp only [List.length_drop, List.length_cons]; omega

/-- The characters of bytes that are well formed throughout. -/
def decode? : Bytes → Option (List Char)
  | [] => some []
  | b :: rest =>
    match (step b rest).1 with
    | none => none
    | some c => (decode? (rest.drop (step b rest).2)).map (c :: ·)
termination_by bytes => bytes.length
decreasing_by simp only [List.length_drop, List.length_cons]; omega

/-- The bytes of a text. -/
def ofText (s : String) : Bytes := encode s.toList

/-- The text of any bytes. -/
def textLossy (bytes : Bytes) : String := String.ofList (decodeLossy bytes)

/-- The text of well-formed bytes. -/
def text? (bytes : Bytes) : Option String := (decode? bytes).map String.ofList

/-- Where both readers are defined, they agree. -/
theorem decodeLossy_of_decode? {bytes : Bytes} {cs : List Char} (h : decode? bytes = some cs) :
    decodeLossy bytes = cs := by
  fun_induction decode? bytes generalizing cs with
  | case1 => simp_all [decodeLossy]
  | case2 => simp at h
  | case3 b rest c hc ih =>
    obtain ⟨tail, htail, rfl⟩ := Option.map_eq_some_iff.1 h
    rw [decodeLossy, hc, ih htail]
    rfl

end ModuleBus.Utf8

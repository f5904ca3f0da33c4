import ModuleBus.Bytes

set_option autoImplicit false

/-! # The 256-bit digest

Session keys are the SHA-256 digest of a shared secret. The message is padded to blocks of 64
bytes (`pad`); each block is expanded to 64 words (`schedule`) that drive as many rounds over
eight chaining words. The initial words and the round constants are the leading fraction bits of
square and cube roots of small primes, computed here by exact integer roots. -/

namespace ModuleBus.Digest

/-! ## Constants -/

/-- The largest natural number below `2 ^ bits` whose `k`-th power is at most `n`, found bit by
bit from the top. -/
def root (k n bits : Nat) : Nat :=
  (List.range bits).foldr
    (fun bit r => if Nat.pow (r + (1 <<< bit)) k ≤ n then r + (1 <<< bit) else r) 0

/-- The primes below `bound`. -/
def primesBelow (bound : Nat) : List Nat :=
  (List.range bound).filter fun n =>
    2 ≤ n && (List.range n).all fun d => d < 2 || n % d != 0

/-- The first 32 fraction bits of the `k`-th root of `n`. -/
def rootFraction (k n : Nat) : UInt32 := UInt32.ofNat (root k (n <<< (32 * k)) 40)

/-- Constants of the 64 rounds. -/
def roundConstants : List UInt32 := (primesBelow 312).map (rootFraction 3)

/-! ## Compression -/

/-- The eight chaining words. -/
structure State where
  a : UInt32
  b : UInt32
  c : UInt32
  d : UInt32
  e : UInt32
  f : UInt32
  g : UInt32
  h : UInt32

/-- Chaining words before the first block. -/
def initial : State :=
  let word (p : Nat) : UInt32 := rootFraction 2 p
  ⟨word 2, word 3, word 5, word 7, word 11, word 13, word 17, word 19⟩

/-- A word turned right by `n` bits. -/
def turn (w : UInt32) (n : UInt32) : UInt32 := (w >>> n) ||| (w <<< (32 - n))

/-- The next word of the message schedule, from the sixteen before it (oldest first). -/
def nextWord (w : Array UInt32) : UInt32 :=
  let back (k : Nat) : UInt32 := w.getD (w.size - k) 0
  let s₀ := turn (back 15) 7 ^^^ turn (back 15) 18 ^^^ (back 15 >>> 3)
  let s₁ := turn (back 2) 17 ^^^ turn (back 2) 19 ^^^ (back 2 >>> 10)
  back 16 + s₀ + back 7 + s₁

/-- The bytes cut into words of four, most significant byte first. -/
def words : Bytes → List UInt32
  | a :: b :: c :: d :: rest => UInt32.ofNat (Bytes.toNatBE [a, b, c, d]) :: words rest
  | _ => []

/-- The 64 words that a block of 64 bytes expands to. -/
def schedule (block : Bytes) : List UInt32 :=
  ((List.range 48).foldl (fun w _ => w.push (nextWord w)) (words block).toArray).toList

/-- One round with the constant `k` and the schedule word `w`. -/
def round (s : State) (k w : UInt32) : State :=
  let s₁ := turn s.e 6 ^^^ turn s.e 11 ^^^ turn s.e 25
  let choice := (s.e &&& s.f) ^^^ (~~~s.e &&& s.g)
  let t₁ := s.h + s₁ + choice + k + w
  let s₀ := turn s.a 2 ^^^ turn s.a 13 ^^^ turn s.a 22
  let majority := (s.a &&& s.b) ^^^ (s.a &&& s.c) ^^^ (s.b &&& s.c)
  ⟨t₁ + s₀ + majority, s.a, s.b, s.c, s.d + t₁, s.e, s.f, s.g⟩

/-- The chaining words after a block. -/
def compress (s : State) (block : Bytes) : State :=
  let t := (List.zip roundConstants (schedule block)).foldl (fun t kw => round t kw.1 kw.2) s
  ⟨s.a + t.a, s.b + t.b, s.c + t.c, s.d + t.d, s.e + t.e, s.f + t.f, s.g + t.g, s.h + t.h⟩

/-! ## Whole messages -/

/-- The message with its padding: a one bit, zeros, and the length in bits. -/
def pad (message : Bytes) : Bytes :=
  let zeros := (64 - (message.length + 9) % 64) % 64
  message ++ 0x80 :: (List.replicate zeros 0 ++ Bytes.ofNatBE 8 (8 * message.length))

/-- The bytes cut into pieces of `size`, the last one possibly shorter. -/
def pieces (size : Nat) (bytes : Bytes) : List Bytes :=
  (List.range ((bytes.length + size - 1) / size)).map fun i => (bytes.drop (i * size)).take size

/-- The digest of a message: 32 bytes. -/
def sha256 (message : Bytes) : Bytes :=
  let s := (pieces 64 (pad message)).foldl compress initial
  [s.a, s.b, s.c, s.d, s.e, s.f, s.g, s.h].flatMap fun w => Bytes.ofNatBE 4 w.toNat

@[simp] theorem length_sha256 (message : Bytes) : (sha256 message).length = 32 := by
  simp [sha256]

end ModuleBus.Digest

import ModuleBus.Bytes

set_option autoImplicit false

/-! # The block cipher

The AES block cipher with a key of 32 bytes. A block is four columns of four bytes, kept as words
with the topmost byte first. The byte substitution is computed from its definition, inversion in
the field of 256 elements followed by an affine map; one table then holds, for every byte, the
column that substitution and column mixing make of it. -/

namespace ModuleBus.Cipher

/-! ## Byte arithmetic -/

/-- Doubling in the field of 256 elements with modulus `x⁸ + x⁴ + x³ + x + 1`. -/
def double (b : UInt8) : UInt8 := (b <<< 1) ^^^ (if b &&& 0x80 = 0 then 0x00 else 0x1b)

/-- Multiplication in the field of 256 elements. -/
def mul (a b : UInt8) : UInt8 :=
  ((List.range 8).foldl
    (fun (acc : UInt8 × UInt8) i =>
      (if (b >>> UInt8.ofNat i) &&& 1 = 0 then acc.1 else acc.1 ^^^ acc.2, double acc.2))
    (0, a)).1

/-- The inverse of a byte as its 254th power; zero goes to itself. -/
def inverse (b : UInt8) : UInt8 := (List.range 254).foldl (fun acc _ => mul acc b) 1

/-- The byte substitution. -/
def substitute (b : UInt8) : UInt8 :=
  let i := inverse b
  let turn (n : UInt8) : UInt8 := (i <<< n) ||| (i >>> (8 - n))
  i ^^^ turn 1 ^^^ turn 2 ^^^ turn 3 ^^^ turn 4 ^^^ 0x63

/-! ## Tables -/

/-- Every byte's substitution. -/
def substitution : Array UInt8 :=
  ((List.range 256).map fun n => substitute (UInt8.ofNat n)).toArray

/-- The word with the given bytes, the first one topmost. -/
def word (a b c d : UInt8) : UInt32 :=
  (a.toUInt32 <<< 24) ||| (b.toUInt32 <<< 16) ||| (c.toUInt32 <<< 8) ||| d.toUInt32

/-- For every byte in the top row, the mixed column of its substitution. -/
def mixed : Array UInt32 :=
  substitution.map fun s => word (double s) s s (double s ^^^ s)

/-- Byte `row` of a column. -/
def row (w : UInt32) (n : UInt32) : UInt8 := (w >>> (24 - 8 * n)).toUInt8

/-- The substitution of a byte, from the table. -/
def sub (b : UInt8) : UInt8 := substitution.getD b.toNat 0

/-- A word turned right by `n` bits. -/
def turn (w : UInt32) (n : UInt32) : UInt32 := (w >>> n) ||| (w <<< (32 - n))

/-! ## Keys -/

/-- A block or a round key: four columns. -/
structure Block where
  c₀ : UInt32
  c₁ : UInt32
  c₂ : UInt32
  c₃ : UInt32

/-- Substitution of all bytes of a word. -/
def subWord (w : UInt32) : UInt32 :=
  word (sub (row w 0)) (sub (row w 1)) (sub (row w 2)) (sub (row w 3))

/-- The next word of the key schedule after the words `w`; every eighth is turned, substituted and
given a round constant, every fourth between them is substituted. -/
def nextKeyWord (w : Array UInt32) : UInt32 :=
  let i := w.size
  let last := w.getD (i - 1) 0
  let constant : UInt8 := (List.range (i / 8 - 1)).foldl (fun c _ => double c) 1
  let t :=
    if i % 8 = 0 then subWord (turn last 24) ^^^ (constant.toUInt32 <<< 24)
    else if i % 8 = 4 then subWord last
    else last
  w.getD (i - 8) 0 ^^^ t

/-- Four words to a round key. -/
def roundKeys : List UInt32 → List Block
  | a :: b :: c :: d :: rest => ⟨a, b, c, d⟩ :: roundKeys rest
  | _ => []

/-- The bytes cut into words of four. -/
def words : Bytes → List UInt32
  | a :: b :: c :: d :: rest => word a b c d :: words rest
  | _ => []

/-- The fifteen round keys of a key of 32 bytes. -/
def expand (key : Bytes) : List Block :=
  roundKeys ((List.range 52).foldl (fun w _ => w.push (nextKeyWord w)) (words key).toArray).toList

/-! ## Rounds -/

/-- The block combined with a round key. -/
def Block.add (b k : Block) : Block :=
  ⟨b.c₀ ^^^ k.c₀, b.c₁ ^^^ k.c₁, b.c₂ ^^^ k.c₂, b.c₃ ^^^ k.c₃⟩

/-- One mixed column, from the four columns that row shifting takes its bytes from. -/
def mixColumn (a b c d : UInt32) : UInt32 :=
  mixed.getD (row a 0).toNat 0 ^^^ turn (mixed.getD (row b 1).toNat 0) 8
    ^^^ turn (mixed.getD (row c 2).toNat 0) 16 ^^^ turn (mixed.getD (row d 3).toNat 0) 24

/-- A round but for its key: substitution, row shifting and column mixing. -/
def Block.mix (b : Block) : Block :=
  ⟨mixColumn b.c₀ b.c₁ b.c₂ b.c₃, mixColumn b.c₁ b.c₂ b.c₃ b.c₀,
   mixColumn b.c₂ b.c₃ b.c₀ b.c₁, mixColumn b.c₃ b.c₀ b.c₁ b.c₂⟩

/-- The last round but for its key: substitution and row shifting. -/
def Block.finish (b : Block) : Block :=
  let column (a b c d : UInt32) : UInt32 :=
    word (sub (row a 0)) (sub (row b 1)) (sub (row c 2)) (sub (row d 3))
  ⟨column b.c₀ b.c₁ b.c₂ b.c₃, column b.c₁ b.c₂ b.c₃ b.c₀,
   column b.c₂ b.c₃ b.c₀ b.c₁, column b.c₃ b.c₀ b.c₁ b.c₂⟩

/-- The rounds with the keys that are left. -/
def rounds (b : Block) : List Block → Block
  | [] => b
  | [k] => b.finish.add k
  | k :: rest => rounds (b.mix.add k) rest

/-- The sixteen bytes of a block. -/
def Block.toBytes (b : Block) : Bytes :=
  [b.c₀, b.c₁, b.c₂, b.c₃].flatMap fun w => [row w 0, row w 1, row w 2, row w 3]

/-- The block of sixteen bytes; missing bytes read as zero. -/
def Block.ofBytes (bytes : Bytes) : Block :=
  let w := words bytes
  ⟨w.getD 0 0, w.getD 1 0, w.getD 2 0, w.getD 3 0⟩

/-- A block under the expanded key `keys`. -/
def encrypt (keys : List Block) (block : Bytes) : Bytes :=
  match keys with
  | [] => (Block.ofBytes block).toBytes
  | k :: rest => (rounds ((Block.ofBytes block).add k) rest).toBytes

@[simp] theorem length_encrypt (keys : List Block) (block : Bytes) :
    (encrypt keys block).length = 16 := by
  unfold encrypt
  split <;> rfl

end ModuleBus.Cipher

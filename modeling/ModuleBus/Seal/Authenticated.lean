import ModuleBus.Seal.Cipher
import ModuleBus.Seal.Digest

set_option autoImplicit false

/-! # Authenticated encryption

Galois counter mode over the block cipher, with a nonce of twelve bytes and no associated data.
The text is masked with a keystream, and a tag of sixteen bytes authenticates the masked text.
Opening checks the tag first; `unlock_lock` says that it gives back what was locked. -/

namespace ModuleBus.Authenticated

/-! ## Masking -/

/-- Byte-wise exclusive or, as long as the shorter argument. -/
def mask (a b : Bytes) : Bytes := List.zipWith (· ^^^ ·) a b

@[simp] theorem length_mask (a b : Bytes) : (mask a b).length = min a.length b.length := by
  simp [mask]

theorem mask_mask {a b : Bytes} (h : a.length ≤ b.length) : mask (mask a b) b = a := by
  induction a generalizing b with
  | nil => simp [mask]
  | cons x a ih =>
    cases b with
    | nil => simp at h
    | cons y b =>
      have hxy : x ^^^ y ^^^ y = x := by rw [UInt8.xor_assoc]; simp
      have := ih (b := b) (by simpa using h)
      simp only [mask, List.zipWith_cons_cons] at this ⊢
      rw [hxy, this]

/-- The counter block with number `i`. -/
def counterBlock (nonce : Bytes) (i : Nat) : Bytes := nonce ++ Bytes.ofNatBE 4 i

/-- The first `size` bytes of the keystream; counter one is kept for the tag. -/
def keystream (keys : List Cipher.Block) (nonce : Bytes) (size : Nat) : Bytes :=
  ((List.range ((size + 15) / 16)).flatMap fun i =>
    Cipher.encrypt keys (counterBlock nonce (i + 2))).take size

@[simp] theorem length_keystream (keys : List Cipher.Block) (nonce : Bytes) (size : Nat) :
    (keystream keys nonce size).length = size := by
  simp only [keystream, List.length_take, List.length_flatMap, Cipher.length_encrypt,
    List.map_const', List.sum_replicate_nat, List.length_range]
  omega

/-! ## The tag -/

/-- An element of the field of `2 ^ 128` elements; the topmost bit is the constant term. -/
structure Element where
  high : UInt64
  low : UInt64

/-- Addition of field elements. -/
def Element.add (a b : Element) : Element := ⟨a.high ^^^ b.high, a.low ^^^ b.low⟩

/-- Multiplication by the generator: one step down with the modulus folded in. -/
def Element.step (v : Element) : Element :=
  let carry : UInt64 := if v.low &&& 1 = 0 then 0 else 0xe100000000000000
  ⟨(v.high >>> 1) ^^^ carry, (v.low >>> 1) ||| (v.high <<< 63)⟩

/-- Adds to `z` the multiples of `v` that the next `count` bits of `bits` select. -/
def Element.mulWord (bits : UInt64) : (count : Nat) → (z v : Element) → Element × Element
  | 0, z, v => (z, v)
  | count + 1, z, v =>
    let z := if bits &&& 0x8000000000000000 = 0 then z else z.add v
    Element.mulWord (bits <<< 1) count z v.step

/-- Multiplication of field elements. -/
def Element.mul (a b : Element) : Element :=
  let (z, v) := Element.mulWord a.high 64 ⟨0, 0⟩ b
  (Element.mulWord a.low 64 z v).1

/-- The element of at most sixteen bytes, filled up with zeros. -/
def Element.ofBytes (bytes : Bytes) : Element :=
  let n := Bytes.toNatBE (bytes ++ List.replicate (16 - bytes.length) 0)
  ⟨UInt64.ofNat (n / UInt64.size), UInt64.ofNat n⟩

/-- The sixteen bytes of an element. -/
def Element.toBytes (e : Element) : Bytes :=
  Bytes.ofNatBE 8 e.high.toNat ++ Bytes.ofNatBE 8 e.low.toNat

/-- The tag of a masked text. -/
def tag (keys : List Cipher.Block) (nonce masked : Bytes) : Bytes :=
  let point := Element.ofBytes (Cipher.encrypt keys (List.replicate 16 0))
  let lengths : Element := ⟨0, UInt64.ofNat (8 * masked.length)⟩
  let blocks := (Digest.pieces 16 masked).map Element.ofBytes ++ [lengths]
  let hash : Element :=
    blocks.foldl (fun (acc : Element) block => (acc.add block).mul point) ⟨0, 0⟩
  mask hash.toBytes (Cipher.encrypt keys (counterBlock nonce 1))

@[simp] theorem length_tag (keys : List Cipher.Block) (nonce masked : Bytes) :
    (tag keys nonce masked).length = 16 := by
  simp [tag, Element.toBytes]

/-! ## Locking and unlocking -/

/-- The masked text followed by its tag. -/
def lock (key nonce plain : Bytes) : Bytes :=
  let keys := Cipher.expand key
  let masked := mask plain (keystream keys nonce plain.length)
  masked ++ tag keys nonce masked

/-- The text that was locked, when the tag is right. -/
def unlock (key nonce locked : Bytes) : Option Bytes :=
  let keys := Cipher.expand key
  let size := locked.length - 16
  let masked := locked.take size
  if locked.drop size = tag keys nonce masked then
    some (mask masked (keystream keys nonce size))
  else none

@[simp] theorem length_lock (key nonce plain : Bytes) :
    (lock key nonce plain).length = plain.length + 16 := by
  simp [lock]

theorem unlock_lock (key nonce plain : Bytes) :
    unlock key nonce (lock key nonce plain) = some plain := by
  have hlen : (mask plain (keystream (Cipher.expand key) nonce plain.length)).length
      = plain.length := by simp
  simp only [unlock, length_lock, Nat.add_sub_cancel]
  have htake : (lock key nonce plain).take plain.length
      = mask plain (keystream (Cipher.expand key) nonce plain.length) := List.take_left' hlen
  have hdrop : (lock key nonce plain).drop plain.length = tag (Cipher.expand key) nonce
      (mask plain (keystream (Cipher.expand key) nonce plain.length)) := List.drop_left' hlen
  simp only [htake, hdrop, if_true]
  rw [mask_mask (by simp)]

end ModuleBus.Authenticated

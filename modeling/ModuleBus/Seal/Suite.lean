import ModuleBus.Seal.Authenticated
import ModuleBus.Seal.Curve

set_option autoImplicit false

/-! # Session keys and sealing

Two participants that share a session key seal their messages: a nonce of twelve bytes, then the
locked text. A key is agreed by exchanging public points. What a participant needs of the
cryptography is collected in a `Suite`; `Suite.standard` is the one in use, and statements about
the protocol hold for every suite that opens what it seals (`Suite.Opens`) and in which both
sides of an exchange agree (`Suite.Agrees`). -/

namespace ModuleBus

/-- Symmetric key shared with one peer. -/
structure SessionKey where
  bytes : Bytes
deriving DecidableEq, Inhabited

/-- Why a sealed message or a public point is refused. -/
inductive SealError where
  /-- Shorter than a nonce and a tag. -/
  | tooShort (length : Nat)
  /-- Sealed under another key, or changed since. -/
  | authentication
  /-- The bytes are no point of the curve. -/
  | invalidPoint
deriving DecidableEq

/-- The text of a sealing error. -/
def SealError.message : SealError → String
  | tooShort length => s!"sealed payload of {length} bytes is too short"
  | authentication => "sealed payload failed authentication"
  | invalidPoint => "peer public point is invalid"

/-- Bytes of a nonce. -/
def nonceSize : Nat := 12

/-- Bytes of an authentication tag. -/
def tagSize : Nat := 16

/-- Bytes of an uncompressed public point. -/
def publicPointSize : Nat := 65

/-- The cryptography that a participant uses. -/
structure Suite where
  /-- Seals a text under a key and a nonce. -/
  lock : SessionKey → Bytes → Bytes → Bytes
  /-- Opens a sealed text. -/
  unlock : SessionKey → Bytes → Except SealError Bytes
  /-- The public point of a secret. -/
  publicPoint : Nat → Bytes
  /-- The session key of a secret and the other side's public point. -/
  agree : Nat → Bytes → Except SealError SessionKey

namespace Suite

/-- A suite opens what it seals. -/
def Opens (suite : Suite) : Prop :=
  ∀ key nonce plain, nonce.length = nonceSize →
    suite.unlock key (suite.lock key nonce plain) = .ok plain

/-- Two sides that complete an exchange with each other's point hold the same key. -/
def Agrees (suite : Suite) : Prop :=
  ∀ a b, suite.agree a (suite.publicPoint b) = suite.agree b (suite.publicPoint a)

end Suite

namespace SessionKey

/-- The key of a shared secret: its digest. -/
def ofSharedSecret (secret : Bytes) : SessionKey := ⟨Digest.sha256 secret⟩

/-- The nonce followed by the locked text. -/
def lock (key : SessionKey) (nonce plain : Bytes) : Bytes :=
  nonce ++ Authenticated.lock key.bytes nonce plain

/-- The text of a sealed message. -/
def unlock (key : SessionKey) (sealed : Bytes) : Except SealError Bytes :=
  if sealed.length < nonceSize + tagSize then .error (.tooShort sealed.length)
  else match Authenticated.unlock key.bytes (sealed.take nonceSize) (sealed.drop nonceSize) with
    | some plain => .ok plain
    | none => .error .authentication

/-- The key that a secret gives with the other side's point. -/
def agree (secret : Nat) (point : Bytes) : Except SealError SessionKey :=
  match Curve.Point.read? point with
  | some q => .ok (ofSharedSecret (Curve.sharedSecret secret q))
  | none => .error .invalidPoint

theorem unlock_lock (key : SessionKey) {nonce : Bytes} (plain : Bytes)
    (h : nonce.length = nonceSize) : key.unlock (key.lock nonce plain) = .ok plain := by
  have htake : (nonce ++ Authenticated.lock key.bytes nonce plain).take nonceSize = nonce :=
    List.take_left' h
  have hdrop : (nonce ++ Authenticated.lock key.bytes nonce plain).drop nonceSize
      = Authenticated.lock key.bytes nonce plain := List.drop_left' h
  have hlen : ¬ (key.lock nonce plain).length < nonceSize + tagSize := by
    simp [lock, h, tagSize]
  rw [unlock, if_neg hlen]
  simp only [lock, htake, hdrop, Authenticated.unlock_lock]

end SessionKey

/-- The suite in use: AES in Galois counter mode under keys agreed on the P-256 curve. -/
def Suite.standard : Suite where
  lock := SessionKey.lock
  unlock := SessionKey.unlock
  publicPoint secret := (Curve.Point.scale secret .base).write
  agree := SessionKey.agree

theorem Suite.opens_standard : Suite.standard.Opens :=
  fun key _ plain h => SessionKey.unlock_lock key plain h

/-! ## Random draws -/

/-- The random source of one participant: a seed of its own and the number of draws so far. -/
structure Entropy where
  seed : Nat
  drawn : Nat
deriving DecidableEq, Inhabited

namespace Entropy

/-- The 32 bytes of the next draw. -/
def bytes (e : Entropy) : Bytes :=
  Digest.sha256 (Bytes.ofNatBE 8 e.seed ++ Bytes.ofNatBE 8 e.drawn)

/-- The source after a draw. -/
def next (e : Entropy) : Entropy := { e with drawn := e.drawn + 1 }

/-- The next draw as a nonce. -/
def nonce (e : Entropy) : Bytes := e.bytes.take nonceSize

/-- The next draw as a secret: a multiple of the base point other than the neutral one. -/
def secret (e : Entropy) : Nat := Bytes.toNatBE e.bytes % (Curve.order - 1) + 1

@[simp] theorem length_nonce (e : Entropy) : e.nonce.length = nonceSize := by
  simp [nonce, bytes, nonceSize]

end Entropy

end ModuleBus

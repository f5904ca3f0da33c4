import ModuleBus.Address

set_option autoImplicit false

/-! # Packet headers

A packet starts with eight header bytes. Two layouts are in use, told apart by the first byte:

* the current layout holds `0x10` with the flags in its low bits, the source, then sequence
  number, payload length and fragment offset, most significant byte first;
* the legacy layout holds `0x01`, payload length, sequence number, fragment offset with the
  more-fragments flag in its top bit, then the source.

`Header.parse` reads what `Header.toBytes` writes; the legacy layout has no sealed flag and only
fifteen bits of offset. -/

namespace ModuleBus

/-- The largest packet that the bus carries. -/
def maxPacket : Nat := 255

/-- Bytes of a header, in both layouts. -/
def headerSize : Nat := 8

/-- Payload bytes in one packet. -/
def maxChunk : Nat := maxPacket - headerSize

/-- Layout of a packet header. -/
inductive Layout where
  | legacy
  | current
deriving DecidableEq, Inhabited

/-- Why a packet or a payload is refused. -/
inductive CodecError where
  /-- Fewer bytes than a header. -/
  | tooShort (length : Nat)
  /-- The first byte belongs to neither layout. -/
  | unsupportedVersion (byte : UInt8)
  /-- The header's length and offset fields cannot describe the payload. -/
  | payloadTooLarge (length : Nat)
  /-- The legacy layout has no sealed flag. -/
  | encryptionUnsupported
  /-- The packet is not of the message in progress. -/
  | foreignFragment (source : Address) (sequence : UInt16)
deriving DecidableEq

/-- The text of a codec error. -/
def CodecError.message : CodecError → String
  | tooShort length => s!"packet of {length} bytes is shorter than a header"
  | unsupportedVersion byte =>
    "unsupported header version byte 0x" ++ Bytes.hexText 2 byte.toNat
  | payloadTooLarge length => s!"payload of {length} bytes exceeds the header range"
  | encryptionUnsupported => "legacy headers cannot carry encrypted payloads"
  | foreignFragment source sequence =>
    s!"fragment seq {sequence} from " ++ source.text ++ " does not match the message in progress"

/-- Header of a packet. -/
structure Header where
  layout : Layout
  /-- More packets of the same message follow. -/
  more : Bool
  /-- The payload is sealed under a session key. -/
  sealed : Bool
  source : Address
  sequence : UInt16
  /-- Bytes of the whole payload. -/
  length : UInt16
  /-- Position of this packet's chunk in the payload. -/
  offset : UInt16
deriving DecidableEq, Inhabited

namespace Header

/-- A two-byte field, most significant byte first. -/
def word (w : UInt16) : Bytes := Bytes.ofNatBE 2 w.toNat

/-- The value of a two-byte field. -/
def ofWord (high low : UInt8) : UInt16 := UInt16.ofNat (256 * high.toNat + low.toNat)

/-- The more-fragments flag of the legacy layout, in its offset field. -/
def legacyMore : UInt16 := 0x8000

/-- The first byte of the current layout. -/
def flags (more sealed : Bool) : UInt8 :=
  0x10 ||| (if more then 0x01 else 0x00) ||| (if sealed then 0x02 else 0x00)

/-- The eight bytes of a header. -/
def toBytes (h : Header) : Bytes :=
  match h.layout with
  | .current =>
    flags h.more h.sealed :: h.source.value :: (word h.sequence ++ word h.length ++ word h.offset)
  | .legacy =>
    let offset := (h.offset &&& ~~~legacyMore) ||| (if h.more then legacyMore else 0)
    0x01 :: (word h.length ++ word h.sequence ++ word offset ++ [h.source.value])

/-- The header at the start of a packet. -/
def parse : Bytes → Except CodecError Header
  | b₀ :: b₁ :: b₂ :: b₃ :: b₄ :: b₅ :: b₆ :: b₇ :: _ =>
    if b₀ >>> 4 = 1 then
      .ok {
        layout := .current
        more := b₀ &&& 0x01 != 0
        sealed := b₀ &&& 0x02 != 0
        source := ⟨b₁⟩
        sequence := ofWord b₂ b₃
        length := ofWord b₄ b₅
        offset := ofWord b₆ b₇ }
    else if b₀ = 0x01 then
      .ok {
        layout := .legacy
        more := ofWord b₅ b₆ &&& legacyMore != 0
        sealed := false
        source := ⟨b₇⟩
        sequence := ofWord b₃ b₄
        length := ofWord b₁ b₂
        offset := ofWord b₅ b₆ &&& ~~~legacyMore }
    else .error (.unsupportedVersion b₀)
  | bytes => .error (.tooShort bytes.length)

@[simp] theorem length_word (w : UInt16) : (word w).length = 2 := by simp [word]

@[simp] theorem length_toBytes (h : Header) : h.toBytes.length = headerSize := by
  unfold toBytes
  split <;> simp [headerSize]

/-- A field is two bytes that read back as its value. -/
theorem word_eq (w : UInt16) : ∃ high low, word w = [high, low] ∧ ofWord high low = w := by
  refine ⟨UInt8.ofNat (w.toNat / 256), UInt8.ofNat w.toNat, by simp [word, Bytes.ofNatBE,
    Bytes.ofNatLE], ?_⟩
  have hw : w.toNat < 65536 := w.toNat_lt
  apply UInt16.toNat_inj.mp
  simp only [ofWord, UInt16.toNat_ofNat', UInt8.toNat_ofNat']
  omega

end Header

end ModuleBus

import ModuleBus.Packet.Header

set_option autoImplicit false

/-! # From payloads to packets

A payload is cut into chunks that fit a packet. Each chunk travels behind a header that names
the sender, the sequence number of the message and the chunk's position; all but the last carry
the more-fragments flag, and an empty payload still makes one packet. -/

namespace ModuleBus

/-- The packets of one message, in the order in which they are written. -/
structure Outgoing where
  destination : Address
  sequence : UInt16
  packets : List Bytes

/-- What a sender needs for cutting payloads into packets. -/
structure FrameEncoder where
  source : Address
  layout : Layout
  /-- Sequence number of the next message. -/
  next : UInt16
deriving DecidableEq, Inhabited

namespace FrameEncoder

/-- The encoder of a sender that has sent nothing. -/
def start (source : Address) (layout : Layout) : FrameEncoder := ⟨source, layout, 0⟩

/-- Number of packets for a payload of `length` bytes. -/
def packetCount (length : Nat) : Nat := max 1 ((length + maxChunk - 1) / maxChunk)

/-- The packet with index `i` of the message `payload`. -/
def packet (e : FrameEncoder) (payload : Bytes) (sealed : Bool) (i : Nat) : Bytes :=
  let header : Header := {
    layout := e.layout
    more := i + 1 < packetCount payload.length
    sealed := sealed
    source := e.source
    sequence := e.next
    length := UInt16.ofNat payload.length
    offset := UInt16.ofNat (i * maxChunk) }
  header.toBytes ++ (payload.drop (i * maxChunk)).take maxChunk

/-- Why a payload cannot be encoded, if it cannot: the length field has sixteen bits, and the
legacy layout has no sealed flag and fifteen bits of offset. -/
def refusal (layout : Layout) (length : Nat) (sealed : Bool) : Option CodecError :=
  if length ≥ UInt16.size then some (.payloadTooLarge length)
  else match layout with
    | .current => none
    | .legacy =>
      if sealed then some .encryptionUnsupported
      else if length > 0x7FFF + maxChunk then some (.payloadTooLarge length)
      else none

/-- Cuts `payload` into packets. Every attempt uses up a sequence number, refused ones too. -/
def encode (e : FrameEncoder) (destination : Address) (payload : Bytes) (sealed : Bool) :
    Except CodecError Outgoing × FrameEncoder :=
  let result := match refusal e.layout payload.length sealed with
    | some error => .error error
    | none => .ok {
        destination := destination
        sequence := e.next
        packets := (List.range (packetCount payload.length)).map (e.packet payload sealed) }
  (result, { e with next := e.next + 1 })

@[simp] theorem encode_snd (e : FrameEncoder) (destination : Address) (payload : Bytes)
    (sealed : Bool) : (e.encode destination payload sealed).2 = { e with next := e.next + 1 } :=
  rfl

/-- What is not refused is cut into its packets. -/
theorem encode_eq_ok_iff {e : FrameEncoder} {destination : Address} {payload : Bytes}
    {sealed : Bool} {outgoing : Outgoing} :
    (e.encode destination payload sealed).1 = .ok outgoing ↔
      refusal e.layout payload.length sealed = none ∧ outgoing = ⟨destination, e.next,
        (List.range (packetCount payload.length)).map (e.packet payload sealed)⟩ := by
  cases h : refusal e.layout payload.length sealed with
  | some error => simp [encode, h]
  | none => simp [encode, h, eq_comm]

/-- In both layouts, what is not refused has a length that its field can tell. -/
theorem length_lt_of_refusal {layout : Layout} {length : Nat} {sealed : Bool}
    (h : refusal layout length sealed = none) : length < UInt16.size := by
  refine Nat.lt_of_not_le fun hlong => ?_
  unfold refusal at h
  rw [if_pos hlong] at h
  cases h

end FrameEncoder

end ModuleBus

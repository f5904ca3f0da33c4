import ModuleBus.Packet.Header

set_option autoImplicit false

/-! # From packets to payloads

A receiver collects one message at a time in a buffer of fixed size. The first packet that
arrives while nothing is in progress opens a message; a packet of any other message is refused
until the message is complete or abandoned, and a refused packet changes nothing
(`push_error`). The buffer is never cleared between messages. -/

namespace ModuleBus

/-- The message being collected, as its first packet announced it. -/
structure Partial where
  source : Address
  sequence : UInt16
  sealed : Bool
deriving DecidableEq, Inhabited

/-- A message whose last packet has arrived. -/
structure Reassembled where
  source : Address
  sequence : UInt16
  sealed : Bool
  /-- Bytes of the buffer that hold the message. -/
  length : Nat
  /-- Length of the whole message: what arrived or what was announced, whichever is more. -/
  total : Nat
  /-- The message did not fit the buffer. -/
  truncated : Bool
deriving DecidableEq, Inhabited

/-- The receiving end of the packet codec. -/
structure Reassembler where
  inProgress : Option Partial
  buffer : Bytes
deriving Inhabited

namespace Reassembler

/-- A receiver with nothing in progress. -/
def start (buffer : Bytes) : Reassembler := ⟨none, buffer⟩

/-- No message is being collected. -/
def isIdle (r : Reassembler) : Bool := r.inProgress.isNone

/-- Gives up the message in progress. -/
def reset (r : Reassembler) : Reassembler := { r with inProgress := none }

/-- The message that a packet with header `h` continues or opens; `none` when another message is
in progress. -/
def current? (r : Reassembler) (h : Header) : Option Partial :=
  match r.inProgress with
  | none => some ⟨h.source, h.sequence, h.sealed⟩
  | some p => if p.source = h.source ∧ p.sequence = h.sequence then some p else none

/-- Takes in one packet. The chunk goes to its offset in the buffer, as far as the buffer
reaches, and a packet without the more-fragments flag completes the message. -/
def push (r : Reassembler) (packet : Bytes) :
    Except CodecError (Option Reassembled) × Reassembler :=
  match Header.parse packet with
  | .error e => (.error e, r)
  | .ok h =>
    match r.current? h with
    | none => (.error (.foreignFragment h.source h.sequence), r)
    | some p =>
      let data := packet.drop headerSize
      let buffer := r.buffer.overwrite h.offset.toNat data
      if h.more then (.ok none, ⟨some p, buffer⟩)
      else
        let size := h.offset.toNat + data.length
        (.ok (some {
          source := p.source
          sequence := p.sequence
          sealed := p.sealed
          length := min size buffer.length
          total := max size h.length.toNat
          truncated := size > buffer.length }), ⟨none, buffer⟩)

/-- The bytes of a completed message. -/
def content (r : Reassembler) (done : Reassembled) : Bytes := r.buffer.take done.length

/-- A refused packet leaves the receiver as it was. -/
theorem push_error {r : Reassembler} {packet : Bytes} {e : CodecError}
    (h : (r.push packet).1 = .error e) : (r.push packet).2 = r := by
  revert h
  unfold push
  split
  · exact fun _ => rfl
  · split
    · exact fun _ => rfl
    · dsimp only
      split <;> exact fun h => by cases h

/-- The buffer keeps its size. -/
theorem length_buffer_push (r : Reassembler) (packet : Bytes) :
    (r.push packet).2.buffer.length = r.buffer.length := by
  unfold push
  split
  · rfl
  · split
    · rfl
    · dsimp only
      split <;> simp

end Reassembler

end ModuleBus

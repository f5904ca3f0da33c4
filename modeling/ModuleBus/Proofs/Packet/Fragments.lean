import ModuleBus.Packet.Encoder
import ModuleBus.Packet.Reassembler
import ModuleBus.Proofs.Packet.Header

set_option autoImplicit false

/-! # Fragments of a payload

A packet is a fragment of a payload if its header says where its chunk belongs and whether it is the
last, in either layout. An idle receiver that takes in the fragments one after another has, after
each of them, the payload so far in front of what its buffer held before (`push_fragment`). The
buffer may be too small for the payload: then the rest is missing, and the outcome says so. -/

namespace ModuleBus

/-! ## Writing piece by piece -/

namespace Bytes

theorem overwrite_nil (buffer : Bytes) (offset : Nat) : buffer.overwrite offset [] = buffer := by
  simp [overwrite]

/-- Writing one piece behind another is writing both at once. -/
theorem overwrite_overwrite (buffer x y : Bytes) (offset : Nat) :
    (buffer.overwrite offset x).overwrite (offset + x.length) y
      = buffer.overwrite offset (x ++ y) := by
  apply List.ext_getElem?
  intro i
  simp only [overwrite, List.getElem?_append, List.getElem?_take, List.getElem?_drop,
    List.length_append, List.length_take, List.length_drop]
  grind

/-- What is written at the front is there as far as the buffer reaches, and the buffer is as it was
behind it. -/
theorem overwrite_zero (buffer data : Bytes) :
    buffer.overwrite 0 data
      = data.take buffer.length ++ buffer.drop (min data.length buffer.length) := by
  rw [overwrite, List.take_zero, List.nil_append, Nat.sub_zero, Nat.zero_add, List.length_take,
    Nat.min_comm]

/-- All of it is there if there is room. -/
theorem take_overwrite_zero {buffer data : Bytes} (hroom : data.length ≤ buffer.length) :
    (buffer.overwrite 0 data).take data.length = data := by
  rw [overwrite_zero, List.take_of_length_le hroom]
  exact List.take_left

end Bytes

/-! ## One fragment -/

/-- The outcome of a message of so many bytes that was collected to its end in a buffer with so much
room. -/
def Partial.ended (p : Partial) (size room : Nat) : Reassembled :=
  ⟨p.source, p.sequence, p.sealed, min size room, size, room < size⟩

/-- The header announces the fragment with index `k` of a payload of so many bytes. -/
structure Header.Announces (h : Header) (p : Partial) (size k : Nat) : Prop where
  source : h.source = p.source
  sequence : h.sequence = p.sequence
  sealed : h.sealed = p.sealed
  length : h.length.toNat = size
  offset : h.offset.toNat = k * maxChunk
  more : h.more = decide (k + 1 < FrameEncoder.packetCount size)

/-- The packet is the fragment with index `k` of the payload of the message `p`. -/
structure IsFragment (p : Partial) (payload : Bytes) (k : Nat) (packet : Bytes) : Prop where
  header : ∃ h, Header.parse packet = .ok h ∧ h.Announces p payload.length k
  data : packet.drop headerSize = (payload.drop (k * maxChunk)).take maxChunk

/-- A fragment fits a packet. -/
theorem IsFragment.length_le {p : Partial} {payload : Bytes} {k : Nat} {packet : Bytes}
    (h : IsFragment p payload k packet) : packet.length ≤ maxPacket := by
  have hdata : packet.length - headerSize ≤ maxChunk := by
    rw [← List.length_drop, h.data]
    exact List.length_take_le _ _
  have hsizes : headerSize + maxChunk = maxPacket := rfl
  omega

/-- The packets are the fragments of a message, all of them and in order. -/
structure AreFragments (p : Partial) (payload : Bytes) (packets : List Bytes) : Prop where
  length_packets : packets.length = FrameEncoder.packetCount payload.length
  isFragment {k : Nat} {packet : Bytes} : packets[k]? = some packet → IsFragment p payload k packet

namespace Reassembler

/-- A packet that can be read, and is not of another message than the one in progress, goes to its
place. -/
theorem push_of_parse {r : Reassembler} {packet : Bytes} {h : Header} {p : Partial}
    (hparse : Header.parse packet = .ok h) (hcurrent : r.current? h = some p) :
    r.push packet =
      let data := packet.drop headerSize
      let buffer := r.buffer.overwrite h.offset.toNat data
      if h.more then (.ok none, ⟨some p, buffer⟩)
      else (.ok (some ⟨p.source, p.sequence, p.sealed,
        min (h.offset.toNat + data.length) buffer.length,
        max (h.offset.toNat + data.length) h.length.toNat,
        h.offset.toNat + data.length > buffer.length⟩), ⟨none, buffer⟩) := by
  unfold push
  simp only [hparse, hcurrent]

/-- A packet that cannot be read is refused. -/
theorem push_unreadable {r : Reassembler} {packet : Bytes} {error : CodecError}
    (hparse : Header.parse packet = .error error) : r.push packet = (.error error, r) := by
  unfold push
  rw [hparse]

/-- A packet of another message than the one in progress is refused. -/
theorem push_stranger {r : Reassembler} {packet : Bytes} {h : Header} {p : Partial}
    (hparse : Header.parse packet = .ok h) (hbusy : r.inProgress = some p)
    (hother : ¬(p.source = h.source ∧ p.sequence = h.sequence)) :
    r.push packet = (.error (.foreignFragment h.source h.sequence), r) := by
  have hcurrent : r.current? h = none := by
    rw [current?, hbusy]
    exact if_neg hother
  unfold push
  simp only [hparse, hcurrent]

/-- A receiver that has taken in the first `k` fragments of a payload, and had `opened` in its
buffer before. -/
def collecting (opened : Bytes) (p : Partial) (payload : Bytes) (k : Nat) : Reassembler where
  inProgress := if k = 0 then none else some p
  buffer := opened.overwrite 0 (payload.take (k * maxChunk))

/-- A receiver without anything in progress is as at the start. -/
theorem eq_start {r : Reassembler} (hidle : r.isIdle = true) : r = start r.buffer := by
  obtain ⟨inProgress, buffer⟩ := r
  obtain rfl : inProgress = none := Option.isNone_iff_eq_none.mp hidle
  rfl

theorem collecting_zero (opened : Bytes) (p : Partial) (payload : Bytes) :
    collecting opened p payload 0 = start opened := by
  simp [collecting, start, Bytes.overwrite_nil]

variable {opened : Bytes} {p : Partial} {payload packet : Bytes} {k : Nat}

theorem length_buffer_collecting :
    (collecting opened p payload k).buffer.length = opened.length :=
  Bytes.length_overwrite _ _ _

/-- A header of the message is taken for the message in progress, or opens it. -/
theorem current?_collecting {h : Header} (hsource : h.source = p.source)
    (hsequence : h.sequence = p.sequence) (hsealed : h.sealed = p.sealed) :
    (collecting opened p payload k).current? h = some p := by
  rw [current?, collecting]
  by_cases hk : k = 0
  · rw [if_pos hk]
    simp only [hsource, hsequence, hsealed]
  · rw [if_neg hk]
    exact if_pos ⟨hsource.symm, hsequence.symm⟩

/-- The next chunk is written behind the others. -/
theorem overwrite_collecting (hk : k * maxChunk ≤ payload.length) :
    (collecting opened p payload k).buffer.overwrite (k * maxChunk)
        ((payload.drop (k * maxChunk)).take maxChunk)
      = opened.overwrite 0 (payload.take ((k + 1) * maxChunk)) := by
  have hlength : (payload.take (k * maxChunk)).length = k * maxChunk := by
    rw [List.length_take, Nat.min_eq_left hk]
  have hwritten := Bytes.overwrite_overwrite opened (payload.take (k * maxChunk))
    ((payload.drop (k * maxChunk)).take maxChunk) 0
  rw [hlength, Nat.zero_add, ← List.take_add, ← Nat.succ_mul] at hwritten
  exact hwritten

/-- **One fragment after another.** A fragment that is not the last is collected, and the last one
completes the message: the payload is in the buffer as far as that reaches, and the outcome says
whether all of it is. -/
theorem push_fragment (opened : Bytes) (hfragment : IsFragment p payload k packet)
    (hk : k < FrameEncoder.packetCount payload.length) :
    (collecting opened p payload k).push packet =
      if k + 1 < FrameEncoder.packetCount payload.length then
        (.ok none, collecting opened p payload (k + 1))
      else (.ok (some (p.ended payload.length opened.length)),
        ⟨none, opened.overwrite 0 payload⟩) := by
  obtain ⟨h, hparse, hannounces⟩ := hfragment.header
  have hstart : k * maxChunk ≤ payload.length := by
    simp only [FrameEncoder.packetCount, maxChunk, maxPacket, headerSize] at hk ⊢
    omega
  rw [push_of_parse hparse
    (current?_collecting hannounces.source hannounces.sequence hannounces.sealed)]
  simp only [hfragment.data, hannounces.offset, hannounces.length, hannounces.more,
    decide_eq_true_eq, overwrite_collecting hstart, Bytes.length_overwrite]
  by_cases hmore : k + 1 < FrameEncoder.packetCount payload.length
  · rw [if_pos hmore, if_pos hmore]
    rfl
  · have hend : payload.length ≤ (k + 1) * maxChunk := by
      simp only [FrameEncoder.packetCount, maxChunk, maxPacket, headerSize] at hmore ⊢
      omega
    have hlast : k * maxChunk + ((payload.drop (k * maxChunk)).take maxChunk).length
        = payload.length := by
      rw [Nat.succ_mul] at hend
      rw [List.length_take, List.length_drop, Nat.min_eq_right (by omega)]
      omega
    rw [if_neg hmore, if_neg hmore, hlast, Nat.max_self, List.take_of_length_le hend]
    rfl

end Reassembler

end ModuleBus

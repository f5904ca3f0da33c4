import ModuleBus.Proofs.Packet.Fragments

set_option autoImplicit false

/-! # Messages on their way

What an encoder makes of the payloads that it is given, and what one packet of a message does to a
receiver: it goes to its place in the buffer if the receiver collects this message or none, and is
refused if the receiver collects the message of another sender. All headers here are in the current
layout. -/

namespace ModuleBus

/-- Writing where the buffer has room leaves what is before, and puts the data behind it. -/
theorem Bytes.take_overwrite {buffer data : Bytes} {offset : Nat}
    (h : offset + data.length ≤ buffer.length) :
    (buffer.overwrite offset data).take (offset + data.length) = buffer.take offset ++ data := by
  have hwritten : data.take (buffer.length - offset) = data := List.take_of_length_le (by omega)
  have hbefore : (buffer.take offset).length = offset := by simp; omega
  have htogether : (buffer.take offset ++ data).length = offset + data.length := by
    rw [List.length_append, hbefore]
  rw [overwrite, hwritten, ← htogether]
  exact List.take_left

/-- A payload that is to be sent. -/
structure Letter where
  destination : Address
  payload : Bytes
  sealed : Bool

/-- A payload that was sent, and the packets that it was cut into. -/
structure Sent where
  payload : Bytes
  sealed : Bool
  outgoing : Outgoing

namespace FrameEncoder

/-- The messages that an encoder makes of some payloads, one after another. A payload that it
refuses makes none. -/
def sendAll : FrameEncoder → List Letter → List Sent
  | _, [] => []
  | e, l :: rest =>
    match e.encode l.destination l.payload l.sealed with
    | (.ok outgoing, e) => ⟨l.payload, l.sealed, outgoing⟩ :: e.sendAll rest
    | (.error _, e) => e.sendAll rest

end FrameEncoder

namespace Sent

/-- Number of packets of a message. -/
def count (m : Sent) : Nat := FrameEncoder.packetCount m.payload.length

/-- The part of the payload that travels in the packet with index `k`. -/
def chunk (m : Sent) (k : Nat) : Bytes := (m.payload.drop (k * maxChunk)).take maxChunk

/-- The header of the packet with index `k`, if the sender's address is `a`. -/
def header (m : Sent) (a : Address) (k : Nat) : Header where
  layout := .current
  more := k + 1 < m.count
  sealed := m.sealed
  source := a
  sequence := m.outgoing.sequence
  length := UInt16.ofNat m.payload.length
  offset := UInt16.ofNat (k * maxChunk)

/-- The packet with index `k`. -/
def packet (m : Sent) (a : Address) (k : Nat) : Bytes := (m.header a k).toBytes ++ m.chunk k

/-- The outcome of the message, collected to its end. -/
def reassembled (m : Sent) (a : Address) : Reassembled :=
  ⟨a, m.outgoing.sequence, m.sealed, m.payload.length, m.payload.length, false⟩

/-- The message was cut into packets by a sender with address `a`. -/
structure IsFrom (m : Sent) (a : Address) : Prop where
  packets : m.outgoing.packets = (List.range m.count).map (m.packet a)
  length_lt : m.payload.length < UInt16.size

variable {m : Sent} {a : Address} {k : Nat}

/-- Every packet begins within the payload, or at the end of an empty one. -/
theorem mul_le_length (hk : k < m.count) : k * maxChunk ≤ m.payload.length := by
  simp only [count, FrameEncoder.packetCount, maxChunk, maxPacket, headerSize] at hk ⊢
  omega

/-- A packet that is not the last is full. -/
theorem length_chunk (hk : k + 1 < m.count) : (m.chunk k).length = maxChunk := by
  simp only [count, FrameEncoder.packetCount, maxChunk, maxPacket, headerSize] at hk
  simp only [chunk, List.length_take, List.length_drop, maxChunk, maxPacket, headerSize]
  omega

/-- The last packet ends where the payload does. -/
theorem length_last (hk : k + 1 = m.count) :
    k * maxChunk + (m.chunk k).length = m.payload.length := by
  simp only [count, FrameEncoder.packetCount, maxChunk, maxPacket, headerSize] at hk
  simp only [chunk, List.length_take, List.length_drop, maxChunk, maxPacket, headerSize]
  omega

/-- A packet does not reach beyond the payload. -/
theorem offset_add_length_le (hk : k < m.count) :
    k * maxChunk + (m.chunk k).length ≤ m.payload.length := by
  have hstart := mul_le_length hk
  simp only [chunk, List.length_take, List.length_drop]
  omega

/-- What an encoder in the current layout accepts, it cuts into packets. -/
theorem isFrom_of_encode {e : FrameEncoder} {destination : Address} {payload : Bytes}
    {sealed : Bool} {outgoing : Outgoing} (hlayout : e.layout = .current)
    (h : (e.encode destination payload sealed).1 = .ok outgoing) :
    (⟨payload, sealed, outgoing⟩ : Sent).IsFrom e.source := by
  obtain ⟨hrefusal, rfl⟩ := FrameEncoder.encode_eq_ok_iff.mp h
  refine ⟨List.map_congr_left fun k _ => ?_, FrameEncoder.length_lt_of_refusal hrefusal⟩
  simp only [FrameEncoder.packet, packet, header, chunk, count, hlayout]
  rfl

theorem isFrom_of_mem_sendAll {e : FrameEncoder} {letters : List Letter}
    (hlayout : e.layout = .current) (h : m ∈ e.sendAll letters) : m.IsFrom e.source := by
  induction letters generalizing e with
  | nil => cases h
  | cons l rest ih =>
    rw [FrameEncoder.sendAll] at h
    split at h
    · next outgoing e' hencode =>
      have hnext : e' = { e with next := e.next + 1 } := (congrArg Prod.snd hencode).symm
      rcases List.mem_cons.mp h with rfl | h
      · exact isFrom_of_encode hlayout (congrArg Prod.fst hencode)
      · rw [hnext] at h
        exact ih (e := { e with next := e.next + 1 }) hlayout h
    · next e' hencode =>
      have hnext : e' = { e with next := e.next + 1 } := (congrArg Prod.snd hencode).symm
      rw [hnext] at h
      exact ih (e := { e with next := e.next + 1 }) hlayout h

/-- The message as its packets announce it. -/
def opening (m : Sent) (a : Address) : Partial := ⟨a, m.outgoing.sequence, m.sealed⟩

/-- The packets of a message are the fragments of its payload. -/
theorem isFragment_packet (hm : m.IsFrom a) (hk : k < m.count) :
    IsFragment (m.opening a) m.payload k (m.packet a k) where
  header := by
    refine ⟨m.header a k, Header.parse_toBytes_append rfl _, rfl, rfl, rfl, ?_, ?_, rfl⟩
    · exact UInt16.toNat_ofNat_of_lt' hm.length_lt
    · exact UInt16.toNat_ofNat_of_lt' (Nat.lt_of_le_of_lt (mul_le_length hk) hm.length_lt)
  data := by
    rw [packet, ← Header.length_toBytes (m.header a k)]
    exact List.drop_left

theorem areFragments (hm : m.IsFrom a) :
    AreFragments (m.opening a) m.payload m.outgoing.packets where
  length_packets := by rw [hm.packets, List.length_map, List.length_range, count]
  isFragment := by
    intro k packet hpacket
    rw [hm.packets] at hpacket
    obtain ⟨hk, rfl⟩ := List.getElem?_eq_some_iff.mp hpacket
    rw [List.getElem_map, List.getElem_range]
    exact isFragment_packet hm (by simpa using hk)

end Sent

namespace Reassembler

variable {m : Sent} {a : Address} {k : Nat} {r : Reassembler}

/-- A packet of a message that the receiver collects, or may begin to collect, goes to its place in
the buffer; the last one completes the message. -/
theorem push_packet (hm : m.IsFrom a) (hk : k < m.count)
    (hmine : r.inProgress = none ∨ r.inProgress = some ⟨a, m.outgoing.sequence, m.sealed⟩)
    (hroom : m.payload.length ≤ r.buffer.length) :
    r.push (m.packet a k) =
      let buffer := r.buffer.overwrite (k * maxChunk) (m.chunk k)
      if k + 1 < m.count then (.ok none, ⟨some ⟨a, m.outgoing.sequence, m.sealed⟩, buffer⟩)
      else (.ok (some (m.reassembled a)), ⟨none, buffer⟩) := by
  obtain ⟨h, hparse, hannounces⟩ := (Sent.isFragment_packet hm hk).header
  have hcurrent : r.current? h = some (m.opening a) := by
    rcases hmine with hidle | hbusy
    · rw [current?, hidle, hannounces.source, hannounces.sequence, hannounces.sealed]
    · rw [current?, hbusy]
      exact if_pos ⟨hannounces.source.symm, hannounces.sequence.symm⟩
  rw [push_of_parse hparse hcurrent]
  simp only [(Sent.isFragment_packet hm hk).data, hannounces.offset, hannounces.length,
    hannounces.more, decide_eq_true_eq, Bytes.length_overwrite]
  by_cases hmore : k + 1 < m.count
  · rw [if_pos hmore]
    exact if_pos hmore
  · have hlast : k * maxChunk + (m.chunk k).length = m.payload.length :=
      Sent.length_last (by omega)
    have hfits : ¬m.payload.length > r.buffer.length := by omega
    rw [if_neg hmore]
    refine (if_neg hmore).trans ?_
    rw [← Sent.chunk, hlast, Nat.min_eq_left hroom, Nat.max_self]
    simp [hfits, Sent.reassembled, Sent.opening]

/-- While the receiver collects the message of another sender, a packet is refused. -/
theorem push_foreign {p : Partial} (hbusy : r.inProgress = some p) (hother : p.source ≠ a) :
    ∃ error, r.push (m.packet a k) = (.error error, r) :=
  ⟨_, push_stranger (Header.parse_toBytes_append rfl _) hbusy fun h => hother h.1⟩

end Reassembler

end ModuleBus

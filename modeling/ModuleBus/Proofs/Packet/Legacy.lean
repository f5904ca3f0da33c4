import ModuleBus.Proofs.Packet.Fragments
import ModuleBus.Proofs.Packet.Interleaving

set_option autoImplicit false

/-! # Legacy messages

The legacy layout has fifteen bits for the offset of a chunk. All chunks but the last of the longest
payloads that an encoder accepts begin within them: the bound that it checks leaves room for a whole
chunk behind the largest offset, but offsets are multiples of the size of a chunk, and the first
beyond fifteen bits lies below that bound. The packets of such a payload complete a message as well,
which is too short and has its end in the wrong place. -/

namespace ModuleBus

/-- The largest payload whose chunks all begin at an offset of fifteen bits. -/
def FrameEncoder.legacyReach : Nat := (0x7FFF / maxChunk + 1) * maxChunk

/-- What arrives of a payload in the legacy layout: all of it, or its last chunk over the beginning,
where the offset without its top bit points. -/
def FrameEncoder.legacyContent (payload : Bytes) : Bytes :=
  if payload.length ≤ legacyReach then payload
  else payload.take (legacyReach % 0x8000) ++ payload.drop legacyReach

/-- What arrives instead is shorter by the top bit of the offset. -/
theorem FrameEncoder.length_legacyContent {payload : Bytes}
    (hbeyond : legacyReach < payload.length) :
    (legacyContent payload).length = payload.length - 0x8000 := by
  have hreach : legacyReach = 32851 := rfl
  rw [legacyContent, if_neg (Nat.not_le.mpr hbeyond), List.length_append, List.length_take,
    List.length_drop]
  omega

/-- Of a payload that is too long for fifteen bits of offset, something else arrives. -/
theorem FrameEncoder.legacyContent_eq_iff {payload : Bytes} :
    legacyContent payload = payload ↔ payload.length ≤ legacyReach := by
  by_cases hreach : payload.length ≤ legacyReach
  · rw [legacyContent, if_pos hreach]
    exact iff_of_true rfl hreach
  · refine iff_of_false (fun heq => ?_) hreach
    have hlength := length_legacyContent (Nat.lt_of_not_le hreach)
    have hpos : 0 < payload.length := Nat.pos_of_ne_zero fun h => hreach (h ▸ Nat.zero_le _)
    rw [heq] at hlength
    omega

namespace FrameEncoder

variable {e : FrameEncoder} {payload : Bytes} {sealed : Bool} {k : Nat}

/-- What a legacy encoder accepts, it cuts into packets. -/
theorem packets_of_encode {destination : Address} {outgoing : Outgoing}
    (hlayout : e.layout = .legacy) (hok : (e.encode destination payload sealed).1 = .ok outgoing) :
    outgoing.packets = (List.range (packetCount payload.length)).map (e.packet payload sealed)
      ∧ payload.length ≤ 0x7FFF + maxChunk := by
  obtain ⟨hrefusal, rfl⟩ := encode_eq_ok_iff.mp hok
  refine ⟨rfl, Nat.le_of_not_gt fun hlong => ?_⟩
  rw [hlayout, refusal] at hrefusal
  split at hrefusal
  · cases hrefusal
  · -- Too long a payload is refused with a seal and without.
    cases sealed <;> simp at hrefusal

/-- The header of a legacy packet as it is read back. -/
theorem parse_packet_legacy (sealed : Bool) (k : Nat) (hlayout : e.layout = .legacy)
    (hsize : payload.length < UInt16.size) :
    ∃ h, Header.parse (e.packet payload sealed k) = .ok h ∧ h.source = e.source
      ∧ h.sequence = e.next ∧ h.sealed = false ∧ h.length.toNat = payload.length
      ∧ h.offset.toNat = k * maxChunk % 0x8000
      ∧ h.more = decide (k + 1 < packetCount payload.length) := by
  refine ⟨_, Header.parse_toBytes_legacy hlayout _, rfl, rfl, rfl,
    UInt16.toNat_ofNat_of_lt' hsize, ?_, rfl⟩
  -- The offset is cut to sixteen bits before the flag takes one of them.
  rw [Header.toNat_and_legacyMore, UInt16.toNat_ofNat']
  exact Nat.mod_mod_of_dvd _ (by decide)

theorem drop_packet :
    (e.packet payload sealed k).drop headerSize = (payload.drop (k * maxChunk)).take maxChunk := by
  rw [packet, ← Header.length_toBytes]
  exact List.drop_left

/-- A chunk that begins within the fifteen bits travels as a fragment of the payload. -/
theorem isFragment_packet_legacy (sealed : Bool) (hlayout : e.layout = .legacy)
    (hsize : payload.length < UInt16.size) (hk : k * maxChunk < 0x8000) :
    IsFragment ⟨e.source, e.next, false⟩ payload k (e.packet payload sealed k) := by
  obtain ⟨h, hparse, hsource, hsequence, hsealed, hlength, hoffset, hmore⟩ :=
    parse_packet_legacy sealed k hlayout hsize
  rw [Nat.mod_eq_of_lt hk] at hoffset
  exact ⟨⟨h, hparse, hsource, hsequence, hsealed, hlength, hoffset, hmore⟩, drop_packet⟩

end FrameEncoder

namespace Reassembler

/-- An idle receiver collects the first fragments of a payload, up to its last one. -/
theorem pushAll_fragments {opened : Bytes} {p : Partial} {payload : Bytes} {packet : Nat → Bytes}
    {k : Nat} (hfragments : ∀ i < k, IsFragment p payload i (packet i))
    (hk : k < FrameEncoder.packetCount payload.length) :
    (start opened).pushAll ((List.range k).map packet) = collecting opened p payload k := by
  induction k with
  | zero => exact (collecting_zero opened p payload).symm
  | succ k ih =>
    have hbefore := ih (fun i hi => hfragments i (Nat.lt_succ_of_lt hi)) (Nat.lt_of_succ_lt hk)
    rw [pushAll] at hbefore
    rw [pushAll, List.range_succ, List.map_append, List.foldl_append, hbefore]
    have hpush := (push_fragment opened (hfragments k (Nat.lt_succ_self k))
      (Nat.lt_of_succ_lt hk)).trans (if_pos hk)
    exact congrArg Prod.snd hpush

variable {e : FrameEncoder} {payload opened : Bytes} {sealed : Bool} {k : Nat}

/-- A last chunk that begins beyond the fifteen bits is written over the beginning of the
payload. -/
theorem push_beyond (hlayout : e.layout = .legacy) (hsize : payload.length ≤ 0x7FFF + maxChunk)
    (hlast : FrameEncoder.packetCount payload.length = k + 1)
    (hroom : payload.length ≤ opened.length) (hbeyond : FrameEncoder.legacyReach < payload.length) :
    ∃ buffer : Bytes,
      (collecting opened ⟨e.source, e.next, false⟩ payload k).push (e.packet payload sealed k)
        = (.ok (some ⟨e.source, e.next, false, payload.length - 0x8000, payload.length, false⟩),
          ⟨none, buffer⟩)
      ∧ buffer.take (payload.length - 0x8000) = payload.take (FrameEncoder.legacyReach % 0x8000)
        ++ payload.drop FrameEncoder.legacyReach := by
  have hreach : FrameEncoder.legacyReach = 32851 := rfl
  have hchunk : maxChunk = 247 := rfl
  have hword : UInt16.size = 65536 := rfl
  have hk : k * maxChunk = FrameEncoder.legacyReach := by
    simp only [FrameEncoder.packetCount, hchunk] at hlast hsize ⊢
    omega
  have hdata : (payload.drop FrameEncoder.legacyReach).take maxChunk
      = payload.drop FrameEncoder.legacyReach :=
    List.take_of_length_le (by rw [List.length_drop]; omega)
  have hsum : FrameEncoder.legacyReach % 0x8000 + (payload.drop FrameEncoder.legacyReach).length
      = payload.length - 0x8000 := by
    rw [List.length_drop]
    omega
  have hlong : payload.length < UInt16.size := by omega
  obtain ⟨h, hparse, hsource, hsequence, hsealed, hlength, hoffset, hmore⟩ :=
    FrameEncoder.parse_packet_legacy sealed k hlayout hlong
  refine ⟨(opened.overwrite 0 (payload.take FrameEncoder.legacyReach)).overwrite
    (FrameEncoder.legacyReach % 0x8000) (payload.drop FrameEncoder.legacyReach), ?_, ?_⟩
  · have hfits : ¬opened.length < payload.length - 0x8000 := by omega
    have hmore' : h.more = false := by
      rw [hmore, hlast]
      exact decide_eq_false (Nat.lt_irrefl _)
    rw [push_of_parse hparse (current?_collecting hsource hsequence hsealed)]
    simp only [FrameEncoder.drop_packet, hoffset, hlength, hmore', hk, hdata, hsum,
      Bytes.length_overwrite, length_buffer_collecting, gt_iff_lt, hfits]
    rw [Nat.min_eq_left (by omega), Nat.max_eq_right (by omega), collecting, hk]
    simp
  · have hfits : FrameEncoder.legacyReach % 0x8000 + (payload.drop FrameEncoder.legacyReach).length
        ≤ (opened.overwrite 0 (payload.take FrameEncoder.legacyReach)).length := by
      rw [hsum, Bytes.length_overwrite]
      omega
    rw [← hsum, Bytes.take_overwrite hfits, Bytes.overwrite_zero, List.take_append_of_le_length
      (by rw [List.length_take, List.length_take]; omega), List.take_take, List.take_take,
      Nat.min_eq_left (by omega), Nat.min_eq_left (by omega)]

/-- The last packet completes the message, with what is to arrive of it. -/
theorem push_last_legacy (sealed : Bool) (hlayout : e.layout = .legacy)
    (hsize : payload.length ≤ 0x7FFF + maxChunk)
    (hlast : FrameEncoder.packetCount payload.length = k + 1)
    (hroom : payload.length ≤ opened.length) :
    ∃ buffer : Bytes,
      (collecting opened ⟨e.source, e.next, false⟩ payload k).push (e.packet payload sealed k)
        = (.ok (some ⟨e.source, e.next, false, (FrameEncoder.legacyContent payload).length,
            payload.length, false⟩), ⟨none, buffer⟩)
      ∧ buffer.take (FrameEncoder.legacyContent payload).length
        = FrameEncoder.legacyContent payload := by
  by_cases hreach : payload.length ≤ FrameEncoder.legacyReach
  · have hk : k * maxChunk < 0x8000 := by
      simp only [FrameEncoder.legacyReach, FrameEncoder.packetCount, maxChunk, maxPacket,
        headerSize] at hlast hreach ⊢
      omega
    have hlong : payload.length < UInt16.size := Nat.lt_of_le_of_lt hreach (by decide)
    have hfits : ¬opened.length < payload.length := Nat.not_lt.mpr hroom
    have hpush := (push_fragment opened
      (FrameEncoder.isFragment_packet_legacy sealed hlayout hlong hk)
      (by omega)).trans (if_neg (by omega))
    rw [FrameEncoder.legacyContent, if_pos hreach]
    refine ⟨opened.overwrite 0 payload, hpush.trans ?_, Bytes.take_overwrite_zero hroom⟩
    simp [Partial.ended, Nat.min_eq_left hroom, hfits]
  · have hbeyond : FrameEncoder.legacyReach < payload.length := Nat.lt_of_not_le hreach
    rw [FrameEncoder.length_legacyContent hbeyond, FrameEncoder.legacyContent, if_neg hreach]
    exact push_beyond hlayout hsize hlast hroom hbeyond

/-- **What arrives of a legacy message.** A legacy encoder accepts a payload, and the packets that
it makes are pushed in order into an idle receiver with a buffer that has room for the payload.
Every packet but the last is collected, and the last completes the message: with the encoder's
address and sequence number, without a seal, with the total length of the payload and not truncated.
The message has the length and the content of the payload if and only if that has at most
`legacyReach` bytes; else its length is shorter by the top bit of the offset, and the last chunk
stands over the beginning of the payload. -/
theorem legacy_message_arrives_iff {destination : Address} {outgoing : Outgoing} {r : Reassembler}
    (hlayout : e.layout = .legacy) (hok : (e.encode destination payload sealed).1 = .ok outgoing)
    (hidle : r.isIdle = true) (hroom : payload.length ≤ r.buffer.length) :
    ∃ before last done r', outgoing.packets = before ++ [last]
      ∧ (∀ i packet, before[i]? = some packet →
          ((r.pushAll (before.take i)).push packet).1 = .ok none)
      ∧ (r.pushAll before).push last = (.ok (some done), r') ∧ r'.isIdle = true
      ∧ done = ⟨e.source, e.next, false, (FrameEncoder.legacyContent payload).length,
          payload.length, false⟩
      ∧ r'.content done = FrameEncoder.legacyContent payload
      ∧ ((done.length = payload.length ∧ r'.content done = payload) ↔
          payload.length ≤ FrameEncoder.legacyReach) := by
  obtain ⟨hpackets, hsize⟩ := FrameEncoder.packets_of_encode hlayout hok
  obtain ⟨k, hlast⟩ : ∃ k, FrameEncoder.packetCount payload.length = k + 1 :=
    Nat.exists_eq_add_one.mpr (Nat.le_max_left 1 _)
  obtain ⟨buffer, hpush, hbuffer⟩ :=
    push_last_legacy sealed hlayout hsize hlast hroom
  have hfragments (i : Nat) (hi : i < k) :
      IsFragment ⟨e.source, e.next, false⟩ payload i (e.packet payload sealed i) := by
    simp only [FrameEncoder.packetCount, maxChunk, maxPacket, headerSize] at hlast hsize
    refine FrameEncoder.isFragment_packet_legacy sealed hlayout ?_ ?_
    · simp only [UInt16.size]
      omega
    · simp only [maxChunk, maxPacket, headerSize]
      omega
  have hbefore (i : Nat) (hi : i ≤ k) :
      r.pushAll ((List.range i).map (e.packet payload sealed))
        = collecting r.buffer ⟨e.source, e.next, false⟩ payload i := by
    conv_lhs => rw [eq_start hidle]
    exact pushAll_fragments (fun j hj => hfragments j (Nat.lt_of_lt_of_le hj hi)) (by omega)
  refine ⟨(List.range k).map (e.packet payload sealed), e.packet payload sealed k, _,
    ⟨none, buffer⟩, ?_, fun i packet hi => ?_, ?_, rfl, rfl, hbuffer, ?_⟩
  · rw [hpackets, hlast, List.range_succ, List.map_append]
    rfl
  · obtain ⟨hik, rfl⟩ : i < k ∧ e.packet payload sealed i = packet := by
      simpa [List.getElem?_eq_some_iff] using hi
    rw [← List.map_take, List.take_range, Nat.min_eq_left (Nat.le_of_lt hik),
      hbefore i (Nat.le_of_lt hik)]
    exact congrArg Prod.fst ((push_fragment r.buffer (hfragments i hik) (by omega)).trans
      (if_pos (by omega)))
  · rw [hbefore k (Nat.le_refl k)]
    exact hpush
  · rw [← FrameEncoder.legacyContent_eq_iff, content, hbuffer]
    exact ⟨fun h => h.2, fun h => ⟨congrArg List.length h, h⟩⟩

/-- One byte more than fits: the message is complete with the last byte at its place. -/
theorem long_legacy_message_is_cut :
    ∃ payload : Bytes, payload.length = 32852 ∧ ∃ outgoing before last done r',
      (FrameEncoder.encode ⟨⟨0x22⟩, .legacy, 0⟩ ⟨0x20⟩ payload false).1 = .ok outgoing
      ∧ outgoing.packets = before ++ [last]
      ∧ ((start payload).pushAll before).push last = (.ok (some done), r')
      ∧ done.length = 84 ∧ done.total = 32852 ∧ done.truncated = false
      ∧ r'.content done ≠ payload := by
  obtain ⟨payload, hlength⟩ : ∃ payload : Bytes, payload.length = 32852 :=
    ⟨List.replicate 32852 7, List.length_replicate⟩
  obtain ⟨outgoing, hok⟩ : ∃ outgoing,
      (FrameEncoder.encode ⟨⟨0x22⟩, .legacy, 0⟩ ⟨0x20⟩ payload false).1 = .ok outgoing := by
    have haccepted : FrameEncoder.refusal .legacy payload.length false = none := by
      rw [hlength]
      decide
    simp only [FrameEncoder.encode, haccepted]
    exact ⟨_, rfl⟩
  obtain ⟨before, last, done, r', hpackets, -, hpush, -, rfl, hcontent, -⟩ :=
    legacy_message_arrives_iff (r := start payload) rfl hok rfl (Nat.le_refl _)
  have hbeyond : FrameEncoder.legacyReach < payload.length := by
    rw [hlength]
    decide
  refine ⟨payload, hlength, outgoing, before, last, _, r', hok, hpackets, hpush, ?_, hlength, rfl,
    ?_⟩
  · exact (FrameEncoder.length_legacyContent hbeyond).trans (by rw [hlength])
  · rw [hcontent, Ne, FrameEncoder.legacyContent_eq_iff]
    exact Nat.not_le.mpr hbeyond

end Reassembler

end ModuleBus

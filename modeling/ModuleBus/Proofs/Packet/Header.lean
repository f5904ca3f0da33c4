import ModuleBus.Packet.Header

set_option autoImplicit false

/-! # Headers read back

A header in the current layout is read back from its bytes, whatever follows them in the packet.
The legacy layout keeps less: no sealed flag, and fifteen bits of the offset. -/

namespace ModuleBus.Header

/-- The high half of the first byte tells the layout, the low one the flags. -/
theorem flags_eq (more sealed : Bool) :
    flags more sealed >>> 4 = 1 ∧ (flags more sealed &&& 0x01 != 0) = more
      ∧ (flags more sealed &&& 0x02 != 0) = sealed := by
  cases more <;> cases sealed <;> decide

/-- A header in the current layout is read back. -/
theorem parse_toBytes_append {h : Header} (hlayout : h.layout = .current) (data : Bytes) :
    parse (h.toBytes ++ data) = .ok h := by
  obtain ⟨sequenceHigh, sequenceLow, hsequence, hsequence'⟩ := word_eq h.sequence
  obtain ⟨lengthHigh, lengthLow, hlength, hlength'⟩ := word_eq h.length
  obtain ⟨offsetHigh, offsetLow, hoffset, hoffset'⟩ := word_eq h.offset
  obtain ⟨hversion, hmore, hsealed⟩ := flags_eq h.more h.sealed
  rw [toBytes, hlayout]
  simp only [hsequence, hlength, hoffset, List.cons_append, List.nil_append]
  rw [parse, if_pos hversion, hmore, hsealed, hsequence', hlength', hoffset', ← hlayout]

theorem or_legacyMore_and (offset : UInt16) :
    ((offset &&& ~~~legacyMore) ||| legacyMore) &&& legacyMore = legacyMore := by
  apply UInt16.toBitVec_inj.mp
  simp only [UInt16.toBitVec_and, UInt16.toBitVec_or, UInt16.toBitVec_not]
  ext i hi
  simp only [BitVec.getElem_and, BitVec.getElem_or]
  cases legacyMore.toBitVec[i] <;> simp

/-- The top bit of the legacy offset is the flag, whatever the offset is. -/
theorem more_legacyOffset (offset : UInt16) (more : Bool) :
    (((offset &&& ~~~legacyMore) ||| (if more then legacyMore else 0)) &&& legacyMore != 0)
      = more := by
  cases more with
  | false => simp [UInt16.and_assoc]
  | true =>
    rw [if_pos rfl, or_legacyMore_and]
    decide

/-- The legacy layout leaves fifteen bits of the offset. -/
theorem legacyOffset_and (offset : UInt16) (more : Bool) :
    ((offset &&& ~~~legacyMore) ||| (if more then legacyMore else 0)) &&& ~~~legacyMore
      = offset &&& ~~~legacyMore := by
  apply UInt16.toBitVec_inj.mp
  cases more with
  | false => simp [UInt16.and_assoc]
  | true =>
    simp only [if_true, UInt16.toBitVec_and, UInt16.toBitVec_or, UInt16.toBitVec_not]
    ext i hi
    simp only [BitVec.getElem_and, BitVec.getElem_or, BitVec.getElem_not]
    cases legacyMore.toBitVec[i] <;> simp

/-- The legacy layout keeps an offset modulo its fifteen bits. -/
theorem toNat_and_legacyMore (w : UInt16) : (w &&& ~~~legacyMore).toNat = w.toNat % 0x8000 := by
  have hmask : (~~~legacyMore : UInt16).toNat = 2 ^ 15 - 1 := rfl
  rw [UInt16.toNat_and, hmask, Nat.and_two_pow_sub_one_eq_mod]

/-- A header in the legacy layout is read back without the sealed flag and the top bit of the
offset. -/
theorem parse_toBytes_legacy {h : Header} (hlayout : h.layout = .legacy) (data : Bytes) :
    parse (h.toBytes ++ data)
      = .ok { h with sealed := false, offset := h.offset &&& ~~~legacyMore } := by
  obtain ⟨sequenceHigh, sequenceLow, hsequence, hsequence'⟩ := word_eq h.sequence
  obtain ⟨lengthHigh, lengthLow, hlength, hlength'⟩ := word_eq h.length
  obtain ⟨offsetHigh, offsetLow, hoffset, hoffset'⟩ :=
    word_eq ((h.offset &&& ~~~legacyMore) ||| (if h.more then legacyMore else 0))
  rw [toBytes, hlayout]
  simp only [hsequence, hlength, hoffset, List.cons_append, List.nil_append]
  rw [parse, if_neg (by decide), if_pos rfl, hsequence', hlength', hoffset', legacyOffset_and,
    more_legacyOffset]

/-- Whether more packets follow is read back in both layouts. -/
theorem exists_parse_toBytes (h : Header) (data : Bytes) :
    ∃ h', parse (h.toBytes ++ data) = .ok h' ∧ h'.more = h.more := by
  cases hlayout : h.layout with
  | current => exact ⟨h, parse_toBytes_append hlayout data, rfl⟩
  | legacy => exact ⟨_, parse_toBytes_legacy hlayout data, rfl⟩

end ModuleBus.Header

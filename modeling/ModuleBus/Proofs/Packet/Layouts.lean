import ModuleBus.Proofs.Packet.Header

set_option autoImplicit false

/-! # The two layouts of a header

The first byte of a packet tells which layout its header has: the current one if its high half is 1,
the legacy one if it is 0x01, whose high half is 0. So one reader reads both, and no bytes are
headers in both.

The writer loses what the legacy layout has no room for, the seal and the top bit of the offset; the
reader loses the two bits of the first byte that the current layout leaves unused. Apart from that,
each is the inverse of the other: what fits is read back (`parse_toBytes_append_iff`), and what was
read is what would be written (`toBytes_of_parse`). -/

namespace ModuleBus.Header

variable {h h' : Header} {bytes : Bytes}

/-- The layout has room for all of the header. The legacy layout has none for a seal and for the top
bit of the offset. -/
def Fits (h : Header) : Prop := h.layout = .legacy → h.sealed = false ∧ h.offset < 0x8000

/-- Bits 2 and 3 of the first byte, which the current layout leaves unused. -/
def unusedFlags : UInt8 := 0x0C

/-- The bytes of a header without the bits that the current layout leaves unused. -/
def withoutUnused : Bytes → Bytes
  | [] => []
  | b :: rest => (if b.toNat / 16 = 1 then b &&& ~~~unusedFlags else b) :: rest

/-! ## Fields -/

/-- Two bytes are the field of the value that they are read as. -/
theorem word_ofWord (high low : UInt8) : word (ofWord high low) = [high, low] := by
  have hvalue : (ofWord high low).toNat = Bytes.toNatLE [low, high] := by
    have hhigh : high.toNat < 256 := high.toNat_lt
    have hlow : low.toNat < 256 := low.toNat_lt
    rw [ofWord, UInt16.toNat_ofNat_of_lt' (by rw [UInt16.size]; omega)]
    simp only [Bytes.toNatLE]
    omega
  rw [word, Bytes.ofNatBE, hvalue]
  exact congrArg List.reverse (Bytes.ofNatLE_toNatLE [low, high])

theorem shiftRight_eq_one_iff {b : UInt8} : b >>> 4 = 1 ↔ b.toNat / 16 = 1 := by
  rw [← UInt8.toNat_inj, UInt8.toNat_shiftRight, Nat.shiftRight_eq_div_pow]
  exact Iff.rfl

/-- The sixteen first bytes of the current layout differ in the flags and in what is unused. -/
theorem flags_of_byte {b : UInt8} (hb : b.toNat / 16 = 1) :
    flags (b &&& 0x01 != 0) (b &&& 0x02 != 0) = b &&& ~~~unusedFlags := by
  obtain ⟨k, rfl⟩ : ∃ k : Fin 16, b = UInt8.ofNat (16 + k.val) := by
    refine ⟨⟨b.toNat - 16, by omega⟩, UInt8.toNat_inj.mp ?_⟩
    have hsub : 16 + (b.toNat - 16) = b.toNat := by omega
    rw [hsub, UInt8.ofNat_toNat]
  revert k
  decide

/-- The flag of a legacy offset is its top bit or nothing. -/
theorem and_legacyMore (w : UInt16) :
    w &&& legacyMore = if w &&& legacyMore != 0 then legacyMore else 0 := by
  have htop : legacyMore.toBitVec = BitVec.twoPow 16 15 := rfl
  have hcases : w &&& legacyMore = 0 ∨ w &&& legacyMore = legacyMore := by
    rw [← UInt16.toBitVec_inj, ← UInt16.toBitVec_inj, UInt16.toBitVec_and, htop,
      BitVec.and_twoPow]
    split
    · exact .inr rfl
    · exact .inl rfl
  rcases hcases with hzero | hflag
  · rw [hzero]
    rfl
  · rw [hflag]
    rfl

/-- A legacy offset is put together again from its flag and its fifteen bits. -/
theorem legacyOffset_of_word (w : UInt16) :
    ((w &&& ~~~legacyMore) &&& ~~~legacyMore)
      ||| (if w &&& legacyMore != 0 then legacyMore else 0) = w := by
  rw [← and_legacyMore]
  apply UInt16.toBitVec_inj.mp
  simp only [UInt16.toBitVec_and, UInt16.toBitVec_or, UInt16.toBitVec_not]
  ext i hi
  simp only [BitVec.getElem_and, BitVec.getElem_or, BitVec.getElem_not]
  cases legacyMore.toBitVec[i] <;> simp

theorem and_not_legacyMore_eq_self_iff {w : UInt16} : w &&& ~~~legacyMore = w ↔ w < 0x8000 := by
  rw [← UInt16.toNat_inj, toNat_and_legacyMore, UInt16.lt_iff_toNat_lt]
  exact Nat.mod_eq_iff_lt (by decide)

/-! ## Writing, then reading -/

theorem fits_of_current (hlayout : h.layout = .current) : h.Fits := fun hlegacy =>
  Layout.noConfusion (hlayout.symm.trans hlegacy)

/-- A header is read back from its bytes, whatever follows them, exactly if it fits. -/
theorem parse_toBytes_append_iff (h : Header) (data : Bytes) :
    parse (h.toBytes ++ data) = .ok h ↔ h.Fits := by
  cases hlayout : h.layout with
  | current => exact iff_of_true (parse_toBytes_append hlayout data) (fits_of_current hlayout)
  | legacy =>
    rw [parse_toBytes_legacy hlayout, Except.ok.injEq, Fits, ← and_not_legacyMore_eq_self_iff]
    constructor
    · intro heq _
      exact ⟨(congrArg Header.sealed heq).symm, congrArg Header.offset heq⟩
    · intro hfits
      obtain ⟨hsealed, hoffset⟩ := hfits hlayout
      rw [hoffset, ← hsealed]

/-- No bytes begin with two headers, of one layout or of both. -/
theorem eq_of_toBytes_append_eq (hfits : h.Fits) (hfits' : h'.Fits) {data data' : Bytes}
    (hbytes : h.toBytes ++ data = h'.toBytes ++ data') : h = h' ∧ data = data' := by
  have hread := (parse_toBytes_append_iff h data).mpr hfits
  rw [hbytes, (parse_toBytes_append_iff h' data').mpr hfits'] at hread
  cases hread
  exact ⟨rfl, List.append_cancel_left hbytes⟩

/-! ## Reading, then writing -/

/-- The first byte decides whether enough bytes are a header. -/
theorem exists_parse_iff (bytes : Bytes) : (∃ h, parse bytes = .ok h) ↔
    headerSize ≤ bytes.length ∧ ∃ b ∈ bytes.head?, b.toNat / 16 = 1 ∨ b = 0x01 := by
  unfold parse
  split
  · next b₀ b₁ b₂ b₃ b₄ b₅ b₆ b₇ rest =>
    have hlong : headerSize ≤ (b₀ :: b₁ :: b₂ :: b₃ :: b₄ :: b₅ :: b₆ :: b₇ :: rest).length :=
      Nat.le_add_left 8 rest.length
    simp only [hlong, List.head?_cons, Option.mem_some_iff, exists_eq_left', true_and]
    rw [← shiftRight_eq_one_iff]
    split
    · next hcurrent => exact iff_of_true ⟨_, rfl⟩ (.inl hcurrent)
    · next hcurrent =>
      split
      · next hlegacy => exact iff_of_true ⟨_, rfl⟩ (.inr hlegacy)
      · next hlegacy => exact iff_of_false nofun fun hnamed => hnamed.elim hcurrent hlegacy
  · next hshort =>
    -- Eight bytes would have been taken apart above.
    refine iff_of_false nofun fun hbytes => ?_
    match bytes, hbytes.1 with
    | b₀ :: b₁ :: b₂ :: b₃ :: b₄ :: b₅ :: b₆ :: b₇ :: rest, _ =>
      exact hshort b₀ b₁ b₂ b₃ b₄ b₅ b₆ b₇ rest rfl

/-- What was read fits into its layout, and is written as it was but for the unused bits. -/
theorem toBytes_of_parse (hparse : parse bytes = .ok h) :
    h.Fits ∧ h.toBytes = withoutUnused (bytes.take headerSize) := by
  unfold parse at hparse
  split at hparse
  · next b₀ b₁ b₂ b₃ b₄ b₅ b₆ b₇ rest =>
    have htake : (b₀ :: b₁ :: b₂ :: b₃ :: b₄ :: b₅ :: b₆ :: b₇ :: rest).take headerSize
        = [b₀, b₁, b₂, b₃, b₄, b₅, b₆, b₇] := rfl
    rw [htake, withoutUnused]
    split at hparse
    · next hcurrent =>
      cases hparse
      rw [shiftRight_eq_one_iff] at hcurrent
      refine ⟨nofun, ?_⟩
      rw [if_pos hcurrent]
      simp only [toBytes, word_ofWord, flags_of_byte hcurrent]
      rfl
    · split at hparse
      · next hlegacy =>
        cases hparse
        subst hlegacy
        refine ⟨fun _ => ⟨rfl, ?_⟩, ?_⟩
        · rw [← and_not_legacyMore_eq_self_iff, UInt16.and_assoc, UInt16.and_self]
        · -- The first byte has no flags, so it is written as it was.
          rw [if_neg (by decide)]
          simp only [toBytes, legacyOffset_of_word, word_ofWord]
          rfl
      · cases hparse
  · cases hparse

/-- The unused bits do not tell the layout. -/
theorem named_of_withoutUnused {b : UInt8} (hb : b ∈ (withoutUnused bytes).head?)
    (hnamed : b.toNat / 16 = 1 ∨ b = 0x01) : ∃ b ∈ bytes.head?, b.toNat / 16 = 1 ∨ b = 0x01 := by
  cases bytes with
  | nil => cases hb
  | cons first rest =>
    refine ⟨first, rfl, ?_⟩
    by_cases hcurrent : first.toNat / 16 = 1
    · exact .inl hcurrent
    · rw [withoutUnused, if_neg hcurrent, List.head?_cons, Option.mem_some_iff] at hb
      exact hb ▸ hnamed

/-- A packet is read as the header that fits and is written as the packet begins. -/
theorem parse_eq_ok_iff : parse bytes = .ok h ↔
    h.Fits ∧ headerSize ≤ bytes.length ∧ h.toBytes = withoutUnused (bytes.take headerSize) := by
  constructor
  · intro hparse
    obtain ⟨hfits, hbytes⟩ := toBytes_of_parse hparse
    exact ⟨hfits, ((exists_parse_iff bytes).mp ⟨h, hparse⟩).1, hbytes⟩
  · rintro ⟨hfits, hlong, hbytes⟩
    -- The bytes of the header are read, and so is what differs from them in unused bits only.
    have hself : parse h.toBytes = .ok h := by
      rw [← List.append_nil h.toBytes]
      exact (parse_toBytes_append_iff h []).mpr hfits
    obtain ⟨-, b, hb, hnamed⟩ := (exists_parse_iff h.toBytes).mp ⟨h, hself⟩
    rw [hbytes] at hb
    have hfirst := named_of_withoutUnused hb hnamed
    rw [List.head?_take, if_neg (by decide)] at hfirst
    obtain ⟨h', hparse⟩ := (exists_parse_iff bytes).mpr ⟨hlong, hfirst⟩
    obtain ⟨hfits', hbytes'⟩ := toBytes_of_parse hparse
    have hsame : h'.toBytes ++ [] = h.toBytes ++ [] := by rw [hbytes, hbytes']
    rw [hparse, (eq_of_toBytes_append_eq hfits' hfits hsame).1]

/-- **Both layouts are faithful, and never confused.** A header is read back from its bytes,
whatever follows them, if and only if it fits into its layout; no bytes begin with two headers that
fit. Bytes are read if and only if there are enough of them and the first one names a layout; what
they are read as fits, and is written as they begin, without the bits that the current layout leaves
unused. -/
theorem layouts_are_faithful :
    (∀ (h : Header) (data : Bytes), parse (h.toBytes ++ data) = .ok h ↔ h.Fits)
    ∧ (∀ bytes : Bytes, (∃ h, parse bytes = .ok h) ↔
      headerSize ≤ bytes.length ∧ ∃ b ∈ bytes.head?, b.toNat / 16 = 1 ∨ b = 0x01)
    ∧ (∀ (bytes : Bytes) (h : Header), parse bytes = .ok h ↔
      h.Fits ∧ headerSize ≤ bytes.length ∧ h.toBytes = withoutUnused (bytes.take headerSize))
    ∧ ∀ h h' : Header, h.Fits → h'.Fits → ∀ data data' : Bytes,
      h.toBytes ++ data = h'.toBytes ++ data' → h = h' ∧ data = data' := by
  refine ⟨parse_toBytes_append_iff, exists_parse_iff, fun _ _ => parse_eq_ok_iff, ?_⟩
  intro h h' hfits hfits' data data' hbytes
  exact eq_of_toBytes_append_eq hfits hfits' hbytes

/-- A packet whose unused bits are set is read as the only header that is written as it begins
without them. -/
theorem packet_with_unused_bits_is_read :
    parse [0x1F, 0x20, 0x00, 0x07, 0x01, 0x2C, 0x00, 0xF7, 0xAA]
      = .ok ⟨.current, true, true, ⟨0x20⟩, 7, 300, 247⟩ := by
  obtain ⟨-, hreads, hwrites, hunique⟩ := layouts_are_faithful
  obtain ⟨h, hparse⟩ := (hreads [0x1F, 0x20, 0x00, 0x07, 0x01, 0x2C, 0x00, 0xF7, 0xAA]).mpr
    ⟨by decide, 0x1F, rfl, .inl (by decide)⟩
  obtain ⟨hfits, -, hbytes⟩ := (hwrites _ h).mp hparse
  have hsame : h.toBytes ++ []
      = toBytes ⟨.current, true, true, ⟨0x20⟩, 7, 300, 247⟩ ++ [] := by
    rw [hbytes]
    rfl
  rw [hparse, (hunique h _ hfits (fits_of_current rfl) [] [] hsame).1]

end ModuleBus.Header

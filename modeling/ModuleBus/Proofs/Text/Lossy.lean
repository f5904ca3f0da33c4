import ModuleBus.Proofs.Text.Utf8

set_option autoImplicit false

/-! # Reading any bytes as UTF-8

Whole characters are read back whatever follows them (`decodeLossy_encode_append`), and a character
that is cut short is read as one U+FFFD (`decodeLossy_take_encodeChar`). So a text that is cut after
some bytes keeps its first characters, and is the same text only if nothing was cut, or nothing that
shows (`textLossy_take_eq_iff`). What is read is not longer than the bytes, counted in characters,
but up to three times as long if it is written again, as U+FFFD takes three bytes. -/

namespace ModuleBus.Utf8

/-! ## Texts that are cut -/

/-- Whole characters are read back, whatever follows them. -/
theorem decodeLossy_encode_append (cs : List Char) (rest : Bytes) :
    decodeLossy (encode cs ++ rest) = cs ++ decodeLossy rest := by
  induction cs with
  | nil => rfl
  | cons c cs ih =>
    obtain ⟨b, tail, hchar, hstep⟩ := step_encodeChar c (encode cs ++ rest)
    rw [encode_cons, hchar, List.append_assoc, List.cons_append, decodeLossy, hstep, List.drop_left,
      ih]
    rfl

/-- Bytes that do not go on with a character that was begun before them. -/
def BeginsAnew (bytes : Bytes) : Prop := ∀ b ∈ bytes.head?, b.toNat < 0x80 ∨ 0xBF < b.toNat

theorem beginsAnew_encode (cs : List Char) : BeginsAnew (encode cs) := by
  cases cs with
  | nil =>
    rintro _ ⟨⟩
  | cons c cs =>
    obtain ⟨b, tail, hchar, hstep⟩ := step_encodeChar c []
    rw [encode_cons, hchar]
    rintro _ ⟨⟩
    unfold step at hstep
    split at hstep
    · next hb => exact .inl (UInt8.lt_iff_toNat_lt.mp hb)
    · split at hstep
      · cases hstep
      · next l hlead => exact .inr (Nat.lt_of_lt_of_le (by decide) (bounds_of_lead? hlead).1)

/-- Bytes that continue a character do so as far as they go, if what is behind them begins anew. -/
theorem continuation_take_append {count n : Nat} {low high : UInt8} {bytes rest : Bytes}
    (hwindow : 0x80 ≤ low.toNat ∧ high.toNat ≤ 0xBF)
    (h : continuation count low high bytes = count) (hn : n < count) (hrest : BeginsAnew rest) :
    continuation count low high (bytes.take n ++ rest) = n := by
  induction count generalizing n low high bytes with
  | zero => omega
  | succ count ih =>
    cases n with
    | zero =>
      cases rest with
      | nil => rfl
      | cons b rest =>
        have hb := hrest b rfl
        rw [List.take_zero, List.nil_append, continuation, if_neg]
        rw [UInt8.le_iff_toNat_le, UInt8.le_iff_toNat_le]
        omega
    | succ n =>
      obtain ⟨t, bytes, rfl, hbounds, htail⟩ := continuation_succ_eq_iff.mp h
      rw [← UInt8.le_iff_toNat_le, ← UInt8.le_iff_toNat_le] at hbounds
      rw [List.take_succ_cons, List.cons_append, continuation, if_pos hbounds,
        ih (by decide) htail (Nat.lt_of_succ_lt_succ hn)]

/-- The beginning of a character is no character, and all of it belongs together. -/
theorem step_take_append {b : UInt8} {tail rest : Bytes} {c : Char}
    (h : step b tail = (some c, tail.length)) {n : Nat} (hn : n < tail.length)
    (hrest : BeginsAnew rest) : step b (tail.take n ++ rest) = (none, n) := by
  obtain ⟨l, hl⟩ : ∃ l, lead? b = some l := by
    unfold step at h
    split at h
    · have hlength : 0 = tail.length := congrArg Prod.snd h
      omega
    · split at h
      · cases h
      · next l hl => exact ⟨l, hl⟩
  rw [step_of_lead hl] at h
  split at h
  · next hcont =>
    have hcount : l.count = tail.length := congrArg Prod.snd h
    have htake := continuation_take_append (n := n) (window_of_lead? hl) hcont (by omega) hrest
    rw [step_of_lead hl, htake, if_neg (by omega)]
  · cases h

/-- A character that is cut short is read as one that stands for it, and what begins anew behind it
is read as if it stood alone. -/
theorem decodeLossy_take_encodeChar_append (c : Char) {n : Nat} (hpos : 0 < n)
    (hn : n < (String.utf8EncodeChar c).length) {rest : Bytes} (hrest : BeginsAnew rest) :
    decodeLossy ((String.utf8EncodeChar c).take n ++ rest) = replacement :: decodeLossy rest := by
  obtain ⟨b, tail, hchar, hstep⟩ := step_encodeChar c []
  rw [List.append_nil] at hstep
  rw [hchar] at hn ⊢
  obtain ⟨k, rfl⟩ : ∃ k, n = k + 1 := ⟨n - 1, by omega⟩
  rw [List.length_cons, Nat.add_lt_add_iff_right] at hn
  have hlength : (tail.take k).length = k := List.length_take_of_le (Nat.le_of_lt hn)
  rw [List.take_succ_cons, List.cons_append, decodeLossy, step_take_append hstep hn hrest,
    List.drop_left' hlength]
  rfl

/-- A character that is cut short is read as one that stands for it. -/
theorem decodeLossy_take_encodeChar (c : Char) {n : Nat} (hpos : 0 < n)
    (hn : n < (String.utf8EncodeChar c).length) :
    decodeLossy ((String.utf8EncodeChar c).take n) = [replacement] := by
  have h := decodeLossy_take_encodeChar_append c hpos hn (beginsAnew_encode [])
  rw [encode, List.flatMap_nil, List.append_nil, decodeLossy] at h
  exact h

/-- Some characters take no more than some bytes, or one of them is the first that does not fit. -/
theorem fits_or_exists (cs : List Char) (n : Nat) : (encode cs).length ≤ n ∨
    ∃ before c after, cs = before ++ c :: after ∧ (encode before).length ≤ n
      ∧ n - (encode before).length < (String.utf8EncodeChar c).length := by
  induction cs generalizing n with
  | nil => exact .inl (Nat.zero_le n)
  | cons c cs ih =>
    by_cases hc : n < (String.utf8EncodeChar c).length
    · exact .inr ⟨[], c, cs, rfl, Nat.zero_le n, hc⟩
    · have hfits := Nat.not_lt.mp hc
      rw [encode_cons, List.length_append]
      rcases ih (n - (String.utf8EncodeChar c).length) with hall | ⟨before, d, after, rfl, hle, hlt⟩
      · exact .inl (by omega)
      · refine .inr ⟨c :: before, d, after, rfl, ?_, ?_⟩ <;>
          rw [encode_cons, List.length_append] <;> omega

/-- A text that is cut short does not change how the text behind it is read. -/
theorem decodeLossy_take_append (cs ds : List Char) (n : Nat) :
    decodeLossy ((encode cs).take n ++ encode ds) = decodeLossy ((encode cs).take n) ++ ds := by
  have hds : decodeLossy (encode ds) = ds := decodeLossy_of_decode? (decode?_encode ds)
  rcases fits_or_exists cs n with hall | ⟨before, c, after, rfl, hle, hlt⟩
  · rw [List.take_of_length_le hall, decodeLossy_encode_append, hds,
      decodeLossy_of_decode? (decode?_encode cs)]
  · rw [encode_append, encode_cons, List.take_append, List.take_of_length_le hle, List.append_assoc,
      decodeLossy_encode_append, decodeLossy_encode_append,
      List.take_append_of_le_length (Nat.le_of_lt hlt), List.append_assoc]
    congr 1
    rcases Nat.eq_zero_or_pos (n - (encode before).length) with hzero | hpos
    · rw [hzero, List.take_zero, List.nil_append, hds, decodeLossy, List.nil_append]
    · rw [decodeLossy_take_encodeChar_append c hpos hlt (beginsAnew_encode ds), hds,
        decodeLossy_take_encodeChar c hpos hlt, List.singleton_append]

/-- A text is the same after it was cut if nothing was cut, or only its last character, which is the
one that stands for what was cut. -/
theorem textLossy_take_eq_iff (s : String) (n : Nat) : textLossy ((ofText s).take n) = s ↔
    (ofText s).length ≤ n
      ∨ ∃ before, s.toList = before ++ [replacement] ∧ (encode before).length < n := by
  have hread : textLossy ((ofText s).take n) = s ↔
      decodeLossy ((encode s.toList).take n) = s.toList := by
    rw [textLossy, ofText, ← String.toList_inj, String.toList_ofList]
  rw [hread, ofText]
  generalize s.toList = cs
  constructor
  · intro h
    rcases fits_or_exists cs n with hall | ⟨before, c, after, rfl, hle, hlt⟩
    · exact .inl hall
    · refine .inr ⟨before, ?_⟩
      rw [encode_append, encode_cons, List.take_append, List.take_of_length_le hle,
        decodeLossy_encode_append, List.append_cancel_left_eq,
        List.take_append_of_le_length (Nat.le_of_lt hlt)] at h
      rcases Nat.eq_zero_or_pos (n - (encode before).length) with hzero | hpos
      · rw [hzero, List.take_zero, decodeLossy] at h
        cases h
      · rw [decodeLossy_take_encodeChar c hpos hlt] at h
        rw [h]
        exact ⟨rfl, by omega⟩
  · rintro (hall | ⟨before, rfl, hlt⟩)
    · rw [List.take_of_length_le hall, decodeLossy_of_decode? (decode?_encode cs)]
    · rw [encode_append, List.take_append, List.take_of_length_le (Nat.le_of_lt hlt),
        decodeLossy_encode_append]
      have hsingle : encode [replacement] = String.utf8EncodeChar replacement := List.append_nil _
      congr 1
      by_cases hall : (encode [replacement]).length ≤ n - (encode before).length
      · rw [List.take_of_length_le hall, decodeLossy_of_decode? (decode?_encode _)]
      · rw [hsingle] at hall ⊢
        exact decodeLossy_take_encodeChar replacement (by omega) (by omega)

/-! ## How long a text gets -/

theorem length_decodeLossy_le (bytes : Bytes) : (decodeLossy bytes).length ≤ bytes.length := by
  fun_induction decodeLossy bytes with
  | case1 => exact Nat.le_refl 0
  | case2 b rest ih =>
    rw [List.length_cons, List.length_cons]
    rw [List.length_drop] at ih
    omega

/-- What is read takes up to three times as many bytes when it is written again. -/
theorem length_encode_decodeLossy_le (bytes : Bytes) :
    (encode (decodeLossy bytes)).length ≤ 3 * bytes.length := by
  fun_induction decodeLossy bytes with
  | case1 => exact Nat.le_refl 0
  | case2 b rest ih =>
    rw [encode_cons, List.length_append, List.length_cons]
    rw [List.length_drop] at ih
    cases hstep : (step b rest).1 with
    | none =>
      have hthree : (String.utf8EncodeChar replacement).length = 3 := by decide
      rw [Option.getD_none, hthree]
      omega
    | some c =>
      obtain ⟨tail, rest', hrest, hlength, hchar⟩ :=
        encodeChar_of_step (Prod.ext hstep rfl : step b rest = (some c, (step b rest).2))
      have hlong := congrArg List.length hrest
      rw [List.length_append] at hlong
      rw [Option.getD_some, hchar, List.length_cons]
      omega

/-- Bytes that are well formed make a text of that length. -/
theorem length_ofText_textLossy {bytes : Bytes} (h : (text? bytes).isSome = true) :
    (ofText (textLossy bytes)).length = bytes.length := by
  obtain ⟨s, hs⟩ := Option.isSome_iff_exists.mp h
  obtain rfl := text?_eq_some_iff.mp hs
  rw [textLossy_ofText]

end ModuleBus.Utf8

import Mathlib.Tactic.SplitIfs
import ModuleBus.Text.Utf8

set_option autoImplicit false

/-! # UTF-8 is read back

The reader of well-formed bytes accepts exactly what the writer produces. One character is read
from a leading byte, which fixes how many bytes follow and keeps the first of them so far apart
from overlong forms, surrogates and what is beyond the last character that every code that is read
is written in the same length again. -/

namespace ModuleBus.Utf8

/-! ## Leading and following bytes -/

theorem continuation_succ_eq_iff {count : Nat} {low high : UInt8} {bytes : Bytes} :
    continuation (count + 1) low high bytes = count + 1 ↔
      ∃ t rest, bytes = t :: rest ∧ (low.toNat ≤ t.toNat ∧ t.toNat ≤ high.toNat)
        ∧ continuation count 0x80 0xBF rest = count := by
  cases bytes with
  | nil => simp [continuation]
  | cons t rest =>
    simp only [continuation, UInt8.le_iff_toNat_le]
    split
    · next h =>
      rw [Nat.add_right_cancel_iff]
      refine ⟨fun hrest => ⟨t, rest, rfl, h, hrest⟩, fun ⟨_, _, hbytes, _, hrest⟩ => ?_⟩
      cases hbytes
      exact hrest
    · next h =>
      constructor
      · intro hzero
        cases hzero
      · rintro ⟨_, _, hbytes, hbounds, _⟩
        cases hbytes
        exact absurd hbounds h

theorem continuation_zero (low high : UInt8) (bytes : Bytes) :
    continuation 0 low high bytes = 0 := by
  rw [continuation]

theorem lead?_two {b : UInt8} (h : 0xC2 ≤ b.toNat) (h' : b.toNat ≤ 0xDF) :
    lead? b = some ⟨1, 0x80, 0xBF⟩ := by
  simp only [lead?, UInt8.le_iff_toNat_le]
  exact if_pos ⟨h, h'⟩

theorem lead?_three {b : UInt8} (h : 0xE0 ≤ b.toNat) (h' : b.toNat ≤ 0xEF) :
    lead? b = some
      ⟨2, if b.toNat = 0xE0 then 0xA0 else 0x80, if b.toNat = 0xED then 0x9F else 0xBF⟩ := by
  simp only [lead?, UInt8.le_iff_toNat_le, ← UInt8.toNat_inj, UInt8.reduceToNat]
  split_ifs <;> first | rfl | omega

theorem lead?_four {b : UInt8} (h : 0xF0 ≤ b.toNat) (h' : b.toNat ≤ 0xF4) :
    lead? b = some
      ⟨3, if b.toNat = 0xF0 then 0x90 else 0x80, if b.toNat = 0xF4 then 0x8F else 0xBF⟩ := by
  simp only [lead?, UInt8.le_iff_toNat_le, ← UInt8.toNat_inj, UInt8.reduceToNat]
  split_ifs <;> first | rfl | omega

theorem bounds_of_lead? {b : UInt8} {l : Lead} (h : lead? b = some l) :
    0xC2 ≤ b.toNat ∧ b.toNat ≤ 0xF4 := by
  simp only [lead?, UInt8.le_iff_toNat_le, ← UInt8.toNat_inj, UInt8.reduceToNat] at h
  split_ifs at h <;> omega

/-- The byte after a leading byte lies in the range of all bytes that continue a character. -/
theorem window_of_lead? {b : UInt8} {l : Lead} (h : lead? b = some l) :
    0x80 ≤ l.low.toNat ∧ l.high.toNat ≤ 0xBF := by
  unfold lead? at h
  split_ifs at h <;> cases h <;> decide

/-! ## One character -/

/-- The code that a leading byte and the bytes that follow it make. -/
def code (count : Nat) (b : UInt8) (tail : Bytes) : Nat :=
  tail.foldl (fun n t => n * 64 + t.toNat % 64) (b.toNat % (1 <<< (6 - count)))

theorem step_of_lead {b : UInt8} {l : Lead} (hlead : lead? b = some l) (rest : Bytes) :
    step b rest = if continuation l.count l.low l.high rest = l.count then
      (some (Char.ofNat (code l.count b (rest.take l.count))), l.count)
      else (none, continuation l.count l.low l.high rest) := by
  have hbounds := bounds_of_lead? hlead
  unfold step
  rw [if_neg (by rw [UInt8.lt_iff_toNat_lt]; exact Nat.not_lt.mpr (by simp; omega)), hlead]
  dsimp only
  split
  · next h => rw [h]; rfl
  · rfl

theorem toNat_ofNat_of_lt {n : Nat} (h : n < 256) : (UInt8.ofNat n).toNat = n := by
  rw [UInt8.toNat_ofNat', Nat.mod_eq_of_lt h]

theorem step_of_code {b : UInt8} {l : Lead} (hlead : lead? b = some l) {tail : Bytes}
    (hlength : tail.length = l.count) {rest : Bytes}
    (hcont : continuation l.count l.low l.high (tail ++ rest) = l.count) {c : Char}
    (hcode : code l.count b tail = c.toNat) : step b (tail ++ rest) = (some c, tail.length) := by
  rw [step_of_lead hlead, if_pos hcont, List.take_left' hlength, hcode, Char.ofNat_toNat, hlength]

/-- A character is read from its bytes. -/
theorem step_encodeChar (c : Char) (rest : Bytes) : ∃ b tail,
    String.utf8EncodeChar c = b :: tail ∧ step b (tail ++ rest) = (some c, tail.length) := by
  have hvalid : c.toNat < 0xD800 ∨ 0xDFFF < c.toNat ∧ c.toNat < 0x110000 := c.valid
  have hcode : c.val.toNat = c.toNat := rfl
  unfold String.utf8EncodeChar
  dsimp only
  rw [hcode]
  generalize hn : c.toNat = n at hvalid
  split
  · next h =>
    refine ⟨_, [], rfl, ?_⟩
    have hb : (UInt8.ofNat n).toNat = n := toNat_ofNat_of_lt (by omega)
    rw [step, if_pos (by rw [UInt8.lt_iff_toNat_lt, hb]; exact Nat.lt_succ_of_le h), hb, ← hn,
      Char.ofNat_toNat]
    rfl
  · split
    · have hb := toNat_ofNat_of_lt (n := n / 64 % 32 + 192) (by omega)
      have ht := toNat_ofNat_of_lt (n := n % 64 + 128) (by omega)
      refine ⟨_, _, rfl, step_of_code (lead?_two ?_ ?_) rfl ?_ ?_⟩
      · omega
      · omega
      · exact continuation_succ_eq_iff.mpr
          ⟨_, _, rfl, by rw [ht]; simp; omega, continuation_zero _ _ _⟩
      · simp only [code, hb, ht, List.foldl_cons, List.foldl_nil, Nat.reduceSub,
          Nat.reduceShiftLeft, hn]
        omega
    · split
      · have hb := toNat_ofNat_of_lt (n := n / 4096 % 16 + 224) (by omega)
        have ht := toNat_ofNat_of_lt (n := n / 64 % 64 + 128) (by omega)
        have ht' := toNat_ofNat_of_lt (n := n % 64 + 128) (by omega)
        refine ⟨_, _, rfl, step_of_code (lead?_three ?_ ?_) rfl ?_ ?_⟩
        · omega
        · omega
        · refine continuation_succ_eq_iff.mpr ⟨_, _, rfl, ?_, ?_⟩
          · rw [ht]
            split_ifs <;> simp <;> omega
          · exact continuation_succ_eq_iff.mpr
              ⟨_, _, rfl, by rw [ht']; simp; omega, continuation_zero _ _ _⟩
        · simp only [code, hb, ht, ht', List.foldl_cons, List.foldl_nil, Nat.reduceSub,
            Nat.reduceShiftLeft, hn]
          omega
      · have hb := toNat_ofNat_of_lt (n := n / 262144 % 8 + 240) (by omega)
        have ht := toNat_ofNat_of_lt (n := n / 4096 % 64 + 128) (by omega)
        have ht' := toNat_ofNat_of_lt (n := n / 64 % 64 + 128) (by omega)
        have ht'' := toNat_ofNat_of_lt (n := n % 64 + 128) (by omega)
        refine ⟨_, _, rfl, step_of_code (lead?_four ?_ ?_) rfl ?_ ?_⟩
        · omega
        · omega
        · refine continuation_succ_eq_iff.mpr ⟨_, _, rfl, ?_, ?_⟩
          · rw [ht]
            split_ifs <;> simp <;> omega
          · refine continuation_succ_eq_iff.mpr ⟨_, _, rfl, by rw [ht']; simp; omega, ?_⟩
            exact continuation_succ_eq_iff.mpr
              ⟨_, _, rfl, by rw [ht'']; simp; omega, continuation_zero _ _ _⟩
        · simp only [code, hb, ht, ht', ht'', List.foldl_cons, List.foldl_nil, Nat.reduceSub,
            Nat.reduceShiftLeft, hn]
          omega

theorem toNat_ofNat_of_isValidChar {n : Nat} (h : n.isValidChar) :
    (Char.ofNat n).val.toNat = n := by
  rw [Char.ofNat, dif_pos h]
  rfl

theorem ofNat_eq_of_eq {n : Nat} {b : UInt8} (h : n = b.toNat) : UInt8.ofNat n = b := by
  rw [h, UInt8.ofNat_toNat]

/-- A character with a code is written so that its bytes make the code again. -/
theorem encodeChar_of_lead {b : UInt8} {l : Lead} (hlead : lead? b = some l) {rest : Bytes}
    (hcont : continuation l.count l.low l.high rest = l.count) :
    ∃ tail rest', rest = tail ++ rest' ∧ tail.length = l.count
      ∧ String.utf8EncodeChar (Char.ofNat (code l.count b tail)) = b :: tail := by
  have hbounds := bounds_of_lead? hlead
  rcases Nat.lt_or_ge b.toNat 0xE0 with htwo | hmore
  · cases (lead?_two hbounds.1 (Nat.le_of_lt_succ htwo)).symm.trans hlead
    obtain ⟨t, rest, rfl, ht, _⟩ := continuation_succ_eq_iff.mp hcont
    refine ⟨[t], rest, rfl, rfl, ?_⟩
    simp only [UInt8.reduceToNat] at ht
    have hcode : code 1 b [t] = b.toNat % 32 * 64 + t.toNat % 64 := rfl
    have hn := toNat_ofNat_of_isValidChar (n := code 1 b [t]) (.inl (by omega))
    rw [String.utf8EncodeChar]
    dsimp only
    rw [hn, if_neg (by omega), if_pos (by omega), ofNat_eq_of_eq (b := b) (by omega),
      ofNat_eq_of_eq (b := t) (by omega)]
  · rcases Nat.lt_or_ge b.toNat 0xF0 with hthree | hfour
    · cases (lead?_three hmore (Nat.le_of_lt_succ hthree)).symm.trans hlead
      obtain ⟨t, _, rfl, ht, hcont⟩ := continuation_succ_eq_iff.mp hcont
      obtain ⟨t', rest, rfl, ht', _⟩ := continuation_succ_eq_iff.mp hcont
      refine ⟨[t, t'], rest, rfl, rfl, ?_⟩
      simp only [UInt8.reduceToNat, apply_ite UInt8.toNat] at ht ht'
      have hcode : code 2 b [t, t'] = (b.toNat % 16 * 64 + t.toNat % 64) * 64 + t'.toNat % 64 := rfl
      -- The bounds of the second byte keep overlong forms and surrogates out.
      have htail : 0x80 ≤ t.toNat ∧ t.toNat ≤ 0xBF := by split_ifs at ht <;> omega
      have hrange : 0x800 ≤ code 2 b [t, t']
          ∧ (code 2 b [t, t'] < 0xD800 ∨ 0xDFFF < code 2 b [t, t']) := by
        split_ifs at ht <;> omega
      have hn := toNat_ofNat_of_isValidChar (n := code 2 b [t, t'])
        (hrange.2.imp_right fun h => ⟨h, by omega⟩)
      rw [String.utf8EncodeChar]
      dsimp only
      rw [hn, if_neg (by omega), if_neg (by omega), if_pos (by omega),
        ofNat_eq_of_eq (b := b) (by omega), ofNat_eq_of_eq (b := t) (by omega),
        ofNat_eq_of_eq (b := t') (by omega)]
    · cases (lead?_four hfour hbounds.2).symm.trans hlead
      obtain ⟨t, _, rfl, ht, hcont⟩ := continuation_succ_eq_iff.mp hcont
      obtain ⟨t', _, rfl, ht', hcont⟩ := continuation_succ_eq_iff.mp hcont
      obtain ⟨t'', rest, rfl, ht'', _⟩ := continuation_succ_eq_iff.mp hcont
      refine ⟨[t, t', t''], rest, rfl, rfl, ?_⟩
      simp only [UInt8.reduceToNat, apply_ite UInt8.toNat] at ht ht' ht''
      have hcode : code 3 b [t, t', t''] = ((b.toNat % 8 * 64 + t.toNat % 64) * 64
        + t'.toNat % 64) * 64 + t''.toNat % 64 := rfl
      -- They keep overlong forms out, and what is beyond the last character.
      have htail : 0x80 ≤ t.toNat ∧ t.toNat ≤ 0xBF := by split_ifs at ht <;> omega
      have hrange : 0x10000 ≤ code 3 b [t, t', t''] ∧ code 3 b [t, t', t''] < 0x110000 := by
        split_ifs at ht <;> omega
      have hn := toNat_ofNat_of_isValidChar (n := code 3 b [t, t', t''])
        (.inr ⟨by omega, hrange.2⟩)
      rw [String.utf8EncodeChar]
      dsimp only
      rw [hn, if_neg (by omega), if_neg (by omega), if_neg (by omega),
        ofNat_eq_of_eq (b := b) (by omega), ofNat_eq_of_eq (b := t) (by omega),
        ofNat_eq_of_eq (b := t') (by omega), ofNat_eq_of_eq (b := t'') (by omega)]

/-- What is read as a character are the bytes of it. -/
theorem encodeChar_of_step {b : UInt8} {rest : Bytes} {c : Char} {count : Nat}
    (h : step b rest = (some c, count)) :
    ∃ tail rest', rest = tail ++ rest' ∧ tail.length = count
      ∧ String.utf8EncodeChar c = b :: tail := by
  by_cases hb : b.toNat < 0x80
  · rw [step, if_pos (by rw [UInt8.lt_iff_toNat_lt]; exact hb)] at h
    cases h
    refine ⟨[], rest, rfl, rfl, ?_⟩
    have hn := toNat_ofNat_of_isValidChar (n := b.toNat) (.inl (by omega))
    unfold String.utf8EncodeChar
    dsimp only
    rw [hn, if_pos (by omega), UInt8.ofNat_toNat]
  · cases hlead : lead? b with
    | none =>
      rw [step, if_neg (by rw [UInt8.lt_iff_toNat_lt]; exact hb), hlead] at h
      cases h
    | some l =>
      rw [step_of_lead hlead] at h
      split at h
      · next hcont =>
        cases h
        obtain ⟨tail, rest', rfl, hlength, hchar⟩ := encodeChar_of_lead hlead hcont
        exact ⟨tail, rest', rfl, hlength, by rw [List.take_left' hlength]; exact hchar⟩
      · cases h

theorem encode_append (cs ds : List Char) : encode (cs ++ ds) = encode cs ++ encode ds :=
  List.flatMap_append

theorem encode_cons (c : Char) (cs : List Char) :
    encode (c :: cs) = String.utf8EncodeChar c ++ encode cs :=
  rfl

theorem decode?_encode (cs : List Char) : decode? (encode cs) = some cs := by
  induction cs with
  | nil => simp [encode, decode?]
  | cons c cs ih =>
    obtain ⟨b, tail, hchar, hstep⟩ := step_encodeChar c (encode cs)
    have hencode : encode (c :: cs) = b :: (tail ++ encode cs) := by
      rw [encode, List.flatMap_cons, hchar]
      rfl
    rw [hencode, decode?, hstep]
    dsimp only
    rw [List.drop_left, ih]
    rfl

theorem encode_of_decode? {bytes : Bytes} {cs : List Char} (h : decode? bytes = some cs) :
    encode cs = bytes := by
  fun_induction decode? bytes generalizing cs with
  | case1 =>
    cases h
    rfl
  | case2 => cases h
  | case3 b rest c hc ih =>
    obtain ⟨tail, htail, rfl⟩ := Option.map_eq_some_iff.mp h
    obtain ⟨bytes, rest', rfl, hlength, hchar⟩ :=
      encodeChar_of_step (Prod.ext hc rfl : step b rest = (some c, (step b rest).2))
    rw [← hlength, List.drop_left] at htail ih
    rw [encode, List.flatMap_cons, hchar]
    exact congrArg (b :: bytes ++ ·) (ih htail)

/-! ## Characters of one byte -/

/-- A byte below 128 is written for the character with its code only. -/
theorem toNat_eq_of_mem_encodeChar {b : UInt8} {c : Char} (hb : b.toNat < 0x80)
    (h : b ∈ String.utf8EncodeChar c) : c.toNat = b.toNat := by
  have hcode : c.val.toNat = c.toNat := rfl
  -- Every byte of a longer character is at least 128.
  have hhigh {n : Nat} (hn : 0x80 ≤ n ∧ n < 256) : b ≠ UInt8.ofNat n := by
    rintro rfl
    rw [toNat_ofNat_of_lt hn.2] at hb
    omega
  unfold String.utf8EncodeChar at h
  dsimp only at h
  rw [hcode] at h
  split at h
  · rw [List.mem_singleton.mp h, toNat_ofNat_of_lt (by omega)]
  · exfalso
    split at h
    · simp only [List.mem_cons, List.not_mem_nil, or_false] at h
      rcases h with h | h <;> exact hhigh (by omega) h
    · split at h
      · simp only [List.mem_cons, List.not_mem_nil, or_false] at h
        rcases h with h | h | h <;> exact hhigh (by omega) h
      · simp only [List.mem_cons, List.not_mem_nil, or_false] at h
        rcases h with h | h | h | h <;> exact hhigh (by omega) h

section Ascii

variable {b : UInt8} {c : Char} (hb : b.toNat < 0x80) (hc : c.toNat = b.toNat)

include hb hc

theorem encodeChar_of_toNat_eq : String.utf8EncodeChar c = [b] := by
  have hcode : c.val.toNat = b.toNat := hc
  unfold String.utf8EncodeChar
  dsimp only
  rw [hcode, if_pos (by omega), UInt8.ofNat_toNat]

theorem eq_of_mem_encodeChar {d : Char} (h : b ∈ String.utf8EncodeChar d) : d = c :=
  Char.toNat_inj.mp ((toNat_eq_of_mem_encodeChar hb h).trans hc.symm)

theorem head?_encode_eq_some_iff (cs : List Char) :
    (encode cs).head? = some b ↔ cs.head? = some c := by
  cases cs with
  | nil => simp [encode]
  | cons d cs =>
    rw [List.head?_cons, Option.some_inj]
    constructor
    · intro h
      obtain ⟨b', tail, hchar, -⟩ := step_encodeChar d []
      rw [encode_cons, hchar, List.cons_append, List.head?_cons] at h
      cases h
      exact eq_of_mem_encodeChar hb hc (hchar ▸ List.mem_cons_self)
    · rintro rfl
      rw [encode_cons, encodeChar_of_toNat_eq hb hc]
      rfl

theorem getLast?_encode_eq_some_iff (cs : List Char) :
    (encode cs).getLast? = some b ↔ cs.getLast? = some c := by
  rcases cs.eq_nil_or_concat with rfl | ⟨cs, d, rfl⟩
  · simp [encode]
  · have hd : encode [d] = String.utf8EncodeChar d := List.append_nil _
    obtain ⟨b', tail, hchar, -⟩ := step_encodeChar d []
    rw [List.concat_eq_append, encode_append, hd, List.getLast?_append, hchar, List.getLast?_cons,
      Option.some_or, ← List.getLast?_cons, ← hchar, List.getLast?_concat, Option.some_inj]
    constructor
    · intro h
      exact eq_of_mem_encodeChar hb hc (List.mem_of_getLast? h)
    · rintro rfl
      rw [encodeChar_of_toNat_eq hb hc]
      rfl

end Ascii

/-! ## Texts -/

/-- Bytes are well formed exactly if they are those of a text. -/
theorem text?_eq_some_iff {bytes : Bytes} {s : String} :
    text? bytes = some s ↔ bytes = ofText s := by
  unfold text? ofText
  constructor
  · intro h
    obtain ⟨cs, hcs, rfl⟩ := Option.map_eq_some_iff.mp h
    rw [String.toList_ofList, encode_of_decode? hcs]
  · rintro rfl
    rw [decode?_encode, Option.map_some, String.ofList_toList]

@[simp] theorem text?_ofText (s : String) : text? (ofText s) = some s := text?_eq_some_iff.mpr rfl

@[simp] theorem textLossy_ofText (s : String) : textLossy (ofText s) = s := by
  rw [textLossy, ofText, decodeLossy_of_decode? (decode?_encode s.toList), String.ofList_toList]

/-- The zero byte is written for the zero character only. -/
theorem zero_mem_ofText {s : String} : 0 ∈ ofText s ↔ '\x00' ∈ s.toList := by
  unfold ofText encode
  rw [List.mem_flatMap]
  constructor
  · rintro ⟨c, hc, hzero⟩
    have hc' : c = '\x00' := eq_of_mem_encodeChar (by decide) (by decide) hzero
    rwa [hc'] at hc
  · intro h
    exact ⟨_, h, by decide⟩

end ModuleBus.Utf8

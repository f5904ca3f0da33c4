import Mathlib.Data.List.Basic
import ModuleBus.Proofs.Text.Utf8
import ModuleBus.Storage.Record

set_option autoImplicit false

/-! # Log names and records are read back

A log name holds no zero, so that the first zero of a payload ends it, and it is well-formed UTF-8,
so that only one text makes the same bytes: a payload says one name, or none. A record is read back
because its name fits into the field and a zero follows it there. -/

namespace ModuleBus

/-! ## Log names in payloads -/

theorem checkLogName_eq_ok_iff {name : String} :
    checkLogName name = .ok () ↔ name.toList ≠ [] ∧ '\x00' ∉ name.toList
      ∧ (Utf8.ofText name).length ≤ maxLogName := by
  unfold checkLogName
  split
  · next h =>
    simp only [Bool.or_eq_true, List.isEmpty_iff, List.any_eq_true, beq_iff_eq] at h
    refine ⟨fun herror => (nomatch herror), fun ⟨hempty, hzero, _⟩ => ?_⟩
    rcases h with h | ⟨c, hc, rfl⟩
    · exact absurd h hempty
    · exact absurd hc hzero
  · next h =>
    simp only [Bool.or_eq_true, List.isEmpty_iff, List.any_eq_true, beq_iff_eq, not_or, not_exists,
      not_and] at h
    split
    · next hlong =>
      exact ⟨fun herror => (nomatch herror), fun ⟨_, _, hlength⟩ =>
        absurd hlength (Nat.not_le.mpr hlong)⟩
    · next hlong =>
      exact ⟨fun _ => ⟨h.1, fun hzero => h.2 _ hzero rfl, Nat.not_lt.mp hlong⟩, fun _ => rfl⟩

/-- The bytes of a log name hold no zero. -/
theorem zero_notMem_of_checkLogName {name : String} (h : checkLogName name = .ok ()) :
    0 ∉ Utf8.ofText name := fun hzero =>
  (checkLogName_eq_ok_iff.mp h).2.1 (Utf8.zero_mem_ofText.mp hzero)

theorem takeWhile_append_zero {name : Bytes} (h : 0 ∉ name) (rest : Bytes) :
    (name ++ 0 :: rest).takeWhile (· != 0) = name := by
  rw [List.takeWhile_append_of_pos]
  · simp
  · intro b hb
    simp only [bne_iff_ne]
    rintro rfl
    exact h hb

/-- What stops before the end of a payload stops at its first zero. -/
theorem eq_append_zero {payload rest : Bytes} {b : UInt8}
    (h : payload.drop (payload.takeWhile (· != 0)).length = b :: rest) :
    payload = payload.takeWhile (· != 0) ++ 0 :: rest := by
  induction payload with
  | nil => cases h
  | cons first payload ih =>
    by_cases hfirst : first = 0
    · subst hfirst
      cases h
      rfl
    · have htake : (first :: payload).takeWhile (· != 0) = first :: payload.takeWhile (· != 0) :=
        List.takeWhile_cons_of_pos (by simpa using hfirst)
      rw [htake] at h ⊢
      exact congrArg (first :: ·) (ih h)

/-- A payload says a log name exactly if it starts with the bytes of the name and a zero. -/
theorem splitLogName_eq_ok_iff {payload : Bytes} {name : String} {rest : Bytes} :
    splitLogName payload = .ok (name, rest) ↔
      checkLogName name = .ok () ∧ payload = Utf8.ofText name ++ 0 :: rest := by
  constructor
  · intro h
    unfold splitLogName at h
    dsimp only at h
    split at h
    · cases h
    · next hdrop =>
      split at h
      · cases h
      · next text htext =>
        cases hcheck : checkLogName text with
        | error _ =>
          rw [hcheck] at h
          cases h
        | ok _ =>
          rw [hcheck] at h
          cases h
          refine ⟨hcheck, ?_⟩
          rw [← Utf8.text?_eq_some_iff.mp htext]
          exact eq_append_zero hdrop
  · rintro ⟨hcheck, rfl⟩
    unfold splitLogName
    dsimp only
    rw [takeWhile_append_zero (zero_notMem_of_checkLogName hcheck), List.drop_left]
    dsimp only
    rw [Utf8.text?_ofText]
    dsimp only
    rw [hcheck]
    rfl

theorem splitLogName_append {name : String} (h : checkLogName name = .ok ()) (rest : Bytes) :
    splitLogName (Utf8.ofText name ++ 0 :: rest) = .ok (name, rest) :=
  splitLogName_eq_ok_iff.mpr ⟨h, rfl⟩

theorem namedPayload_eq {name : String} (h : checkLogName name = .ok ()) (rest : Bytes) :
    namedPayload name rest = .ok (Utf8.ofText name ++ 0 :: rest) := by
  rw [namedPayload, h]
  rfl

/-! ## Records -/

theorem Bytes.toNatLE_word (w : UInt32) : toNatLE (ofNatLE 4 w.toNat) = w.toNat := by
  have hspan : w.toNat < span 4 := w.toNat_lt
  rw [toNatLE_ofNatLE, Nat.mod_eq_of_lt hspan]

/-- A word is found where it was written. -/
theorem Bytes.natLE?_word (before : Bytes) (w : UInt32) (after : Bytes) :
    natLE? (before ++ (ofNatLE 4 w.toNat ++ after)) before.length 4 = some w.toNat := by
  have hfits : before.length + 4 ≤ (before ++ (ofNatLE 4 w.toNat ++ after)).length := by
    simp only [List.length_append, length_ofNatLE]
    omega
  rw [natLE?, field?, if_pos hfits, List.drop_left, List.take_left' (length_ofNatLE 4 _),
    Option.map_some, toNatLE_word]

namespace StorageRecord

/-- In a record with a log name the name ends at the first zero of its field. -/
theorem exists_toBytes_eq {r : StorageRecord} (h : checkLogName r.logName = .ok ()) :
    ∃ field, r.toBytes
        = field ++ (Bytes.ofNatLE 4 r.offset.toNat ++ (Bytes.ofNatLE 4 r.length.toNat ++ []))
      ∧ field.length = nameField ∧ field.takeWhile (· != 0) = Utf8.ofText r.logName := by
  have hlength := (checkLogName_eq_ok_iff.mp h).2.2
  have hzeros : nameField - (Utf8.ofText r.logName).length
      = (maxLogName - (Utf8.ofText r.logName).length) + 1 := by
    rw [nameField]
    omega
  refine ⟨Utf8.ofText r.logName ++ List.replicate (nameField - (Utf8.ofText r.logName).length) 0,
    ?_, ?_, ?_⟩
  · rw [toBytes, List.take_of_length_le hlength]
    simp
  · rw [List.length_append, List.length_replicate, hzeros, nameField]
    omega
  · rw [hzeros]
    exact takeWhile_append_zero (zero_notMem_of_checkLogName h) _

/-- A record with a log name is read back. -/
theorem parse?_toBytes {r : StorageRecord} (h : checkLogName r.logName = .ok ()) :
    parse? r.toBytes = some r := by
  have hlength := (checkLogName_eq_ok_iff.mp h).2.2
  obtain ⟨field, hbytes, hfield, hname⟩ := exists_toBytes_eq h
  unfold parse?
  rw [if_neg (by rw [length_toBytes]; exact Nat.lt_irrefl _), hbytes]
  dsimp only
  -- Name, offset and length in turn are taken from the front.
  rw [List.take_left' hfield, hname, List.take_of_length_le hlength, Utf8.textLossy_ofText,
    ← List.drop_drop, List.drop_left' hfield, List.take_left' (Bytes.length_ofNatLE 4 _),
    List.drop_left' (Bytes.length_ofNatLE 4 _), List.take_left' (Bytes.length_ofNatLE 4 _),
    Bytes.toNatLE_word, Bytes.toNatLE_word, UInt32.ofNat_toNat, UInt32.ofNat_toNat]

end StorageRecord

end ModuleBus

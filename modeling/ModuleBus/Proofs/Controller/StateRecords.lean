import ModuleBus.Proofs.Text.Lossy
import ModuleBus.SlotState

set_option autoImplicit false

/-! # Records of slot states

The bytes that a client may get are records one after another, and each record says itself how long
it is (`StateRecord`). So there is at most one way to take bytes apart into records
(`StateRecord.join_injective`); the reader finds it, or there is none (`decodeList_eq_ok_iff`), and
what follows some records is read as if it stood alone (`decodeList_join_append`).

The reader is also followed position by position (`StateReader`), as the lengths that lead it come
from the other side: every turn passes at least three bytes, and none looks beyond the last one. -/

namespace ModuleBus

/-- A record as it is on the wire: an address, a byte that is zero if there is no key, and a name
whose length one byte can tell. -/
structure StateRecord where
  address : UInt8
  key : UInt8
  name : Bytes
  length_name_lt : name.length < UInt8.size

namespace StateRecord

/-- The bytes of a record: the length of the name stands before it. -/
def toBytes (r : StateRecord) : Bytes :=
  r.address :: r.key :: UInt8.ofNat r.name.length :: r.name

/-- What a record is read as. -/
def state (r : StateRecord) : SlotState := ⟨⟨r.address⟩, r.key != 0, Utf8.textLossy r.name⟩

/-- The bytes of records one after another. -/
def join (records : List StateRecord) : Bytes := records.flatMap toBytes

variable {r r' : StateRecord} {rest rest' : Bytes}

theorem join_cons (r : StateRecord) (records : List StateRecord) :
    join (r :: records) = r.toBytes ++ join records := List.flatMap_cons

@[simp] theorem length_toBytes (r : StateRecord) : r.toBytes.length = 3 + r.name.length :=
  Nat.add_comm r.name.length 3

theorem toNat_length_name (r : StateRecord) :
    (UInt8.ofNat r.name.length).toNat = r.name.length :=
  UInt8.toNat_ofNat_of_lt' r.length_name_lt

/-- Three bytes begin a record if as many bytes follow them as the third one says. -/
theorem exists_toBytes_append (address key length : UInt8) (hlong : length.toNat ≤ rest.length) :
    ∃ r : StateRecord, r.toBytes ++ rest.drop length.toNat = address :: key :: length :: rest
      ∧ r.state = ⟨⟨address⟩, key != 0, Utf8.textLossy (rest.take length.toNat)⟩
      ∧ r.name.length = length.toNat := by
  have hlength : (rest.take length.toNat).length = length.toNat := List.length_take_of_le hlong
  refine ⟨⟨address, key, rest.take length.toNat, by rw [hlength]; exact length.toNat_lt⟩, ?_, rfl,
    hlength⟩
  dsimp only [toBytes]
  rw [hlength, UInt8.ofNat_toNat, List.cons_append, List.cons_append, List.cons_append,
    List.take_append_drop]

/-- No bytes begin with two records. -/
theorem eq_of_toBytes_append_eq (h : r.toBytes ++ rest = r'.toBytes ++ rest') :
    r = r' ∧ rest = rest' := by
  obtain ⟨address, key, name, hname⟩ := r
  obtain ⟨address', key', name', hname'⟩ := r'
  simp only [toBytes, List.cons_append, List.cons.injEq] at h
  obtain ⟨rfl, rfl, hlength, hrest⟩ := h
  have hsame := congrArg UInt8.toNat hlength
  rw [UInt8.toNat_ofNat_of_lt' hname, UInt8.toNat_ofNat_of_lt' hname'] at hsame
  obtain ⟨rfl, rfl⟩ := List.append_inj hrest hsame
  exact ⟨rfl, rfl⟩

/-- Bytes are taken apart into records in one way at most. -/
theorem join_injective : Function.Injective join := by
  intro records
  induction records with
  | nil =>
    intro records' h
    cases records' with
    | nil => rfl
    | cons r' records' => cases h
  | cons r records ih =>
    intro records' h
    cases records' with
    | nil => cases h
    | cons r' records' =>
      rw [join_cons, join_cons] at h
      obtain ⟨rfl, hrest⟩ := eq_of_toBytes_append_eq h
      rw [ih hrest]

end StateRecord

namespace SlotState

variable {bytes : Bytes} {states : List SlotState}

/-! ## Reading records -/

theorem decodeList_nil : decodeList [] = .ok [] := by rw [decodeList]

/-- One or two bytes are too few for a record. -/
theorem decodeList_of_length_lt (hpos : 0 < bytes.length) (hshort : bytes.length < 3) :
    decodeList bytes = .error .size := by
  rcases bytes with _ | ⟨address, _ | ⟨key, _ | ⟨length, rest⟩⟩⟩
  · cases hpos
  · rw [decodeList.eq_def]
  · rw [decodeList.eq_def]
  · rw [List.length_cons, List.length_cons, List.length_cons] at hshort
    omega

/-- The name is cut short. -/
theorem decodeList_of_lt {address key length : UInt8} {rest : Bytes}
    (hcut : rest.length < length.toNat) :
    decodeList (address :: key :: length :: rest) = .error .size := by
  rw [decodeList, if_pos hcut]

theorem decodeList_toBytes_append (r : StateRecord) (rest : Bytes) :
    decodeList (r.toBytes ++ rest) = (decodeList rest).map (r.state :: ·) := by
  rw [StateRecord.toBytes]
  dsimp only [List.cons_append]
  rw [decodeList, r.toNat_length_name, if_neg (by rw [List.length_append]; omega), List.drop_left,
    List.take_left]
  cases decodeList rest <;> rfl

/-- What follows some records is read as if it stood alone. -/
theorem decodeList_join_append (records : List StateRecord) (rest : Bytes) :
    decodeList (StateRecord.join records ++ rest)
      = (decodeList rest).map (records.map StateRecord.state ++ ·) := by
  induction records with
  | nil => exact (congrFun Except.map_id (decodeList rest)).symm
  | cons r records ih =>
    -- The first record is read, and the records behind it belong to the rest.
    rw [StateRecord.join_cons, List.append_assoc, decodeList_toBytes_append, ih]
    cases decodeList rest <;> rfl

theorem exists_records_of_decodeList (h : decodeList bytes = .ok states) :
    ∃ records, StateRecord.join records = bytes ∧ records.map StateRecord.state = states := by
  fun_induction decodeList bytes generalizing states with
  | case1 =>
    cases h
    exact ⟨[], rfl, rfl⟩
  | case4 address key length rest hlong states' htail ih =>
    cases h
    obtain ⟨records, hjoin, rfl⟩ := ih htail
    obtain ⟨r, hr, hstate, -⟩ :=
      StateRecord.exists_toBytes_append address key length (Nat.le_of_not_lt hlong)
    refine ⟨r :: records, ?_, ?_⟩
    · rw [StateRecord.join_cons, hjoin, hr]
    · rw [List.map_cons, hstate]
  | case2 | case3 | case5 => cases h

/-- Bytes are read exactly if they are records, and then as these. -/
theorem decodeList_eq_ok_iff : decodeList bytes = .ok states ↔
    ∃ records, StateRecord.join records = bytes ∧ records.map StateRecord.state = states := by
  refine ⟨exists_records_of_decodeList, ?_⟩
  rintro ⟨records, rfl, rfl⟩
  have h := decodeList_join_append records []
  rw [List.append_nil, decodeList_nil] at h
  rw [h]
  exact congrArg Except.ok (List.append_nil _)

theorem error_of_decodeList {e : ErrorCode} (h : decodeList bytes = .error e) : e = .size := by
  fun_induction decodeList bytes generalizing e with
  | case1 | case4 => cases h
  | case2 => cases h; rfl
  | case3 address key length rest hlong e' htail ih => exact ih (by rw [htail, ← h])
  | case5 => cases h; rfl

/-- Bytes are refused exactly if they are no records. -/
theorem decodeList_eq_error_iff :
    decodeList bytes = .error .size ↔ ∀ records, StateRecord.join records ≠ bytes := by
  constructor
  · rintro h records rfl
    have hok := decodeList_eq_ok_iff.mpr ⟨records, rfl, rfl⟩
    rw [h] at hok
    cases hok
  · intro hnone
    cases h : decodeList bytes with
    | error e => rw [error_of_decodeList h]
    | ok states =>
      obtain ⟨records, hjoin, -⟩ := exists_records_of_decodeList h
      exact absurd hjoin (hnone records)

theorem decodeList_append (h : decodeList bytes = .ok states) (rest : Bytes) :
    decodeList (bytes ++ rest) = (decodeList rest).map (states ++ ·) := by
  obtain ⟨records, rfl, rfl⟩ := exists_records_of_decodeList h
  exact decodeList_join_append records rest

/-! ## Writing records -/

/-- The record that is written for a slot. -/
def record (s : SlotState) : StateRecord where
  address := s.address.value
  key := if s.hasKey then 1 else 0
  name := (Utf8.ofText s.name).take maxWireName
  length_name_lt := Nat.lt_of_le_of_lt (List.length_take_le _ _) (by decide)

theorem encodeList_eq (states : List SlotState) :
    encodeList states = StateRecord.join (states.map record) :=
  (List.flatMap_map record StateRecord.toBytes states).symm

/-- What is written is read as the records that were written. -/
theorem decodeList_encodeList (states : List SlotState) :
    decodeList (encodeList states) = .ok (states.map (·.record.state)) :=
  decodeList_eq_ok_iff.mpr ⟨_, (encodeList_eq states).symm, List.map_map⟩

/-- The record of a slot is read as the slot with its name cut. -/
theorem state_record (s : SlotState) : s.record.state
    = { s with name := Utf8.textLossy ((Utf8.ofText s.name).take maxWireName) } := by
  have hkey : (s.record.key != 0) = s.hasKey := by
    rw [record]
    cases s.hasKey <;> rfl
  rw [StateRecord.state, hkey]
  rfl

theorem decodeList_encodeList_of_short {states : List SlotState}
    (hshort : ∀ s ∈ states, (Utf8.ofText s.name).length ≤ maxWireName) :
    decodeList (encodeList states) = .ok states := by
  have hsame (s : SlotState) (hs : s ∈ states) : s.record.state = s := by
    rw [state_record, List.take_of_length_le (hshort s hs), Utf8.textLossy_ofText]
  rw [decodeList_encodeList, List.map_congr_left hsame, List.map_id']

end SlotState

/-! ## The reader, position by position -/

/-- The reader between two records: where it stands, what it has read, and the positions that it
looked at, in their order. -/
structure StateReader where
  position : Nat
  states : List SlotState
  looked : List Nat

namespace StateReader

/-- The reader before the first record. -/
def start : StateReader := ⟨0, [], []⟩

/-- How one turn of the reader ends. -/
inductive Turn where
  /-- It read a record and goes on behind it. -/
  | on (next : StateReader)
  /-- It has a result. -/
  | finished (result : Except ErrorCode (List SlotState)) (looked : List Nat)
  /-- It looked at a position where there is no byte. -/
  | outOfRange

/-- One turn: the three bytes that begin a record, then the name behind them. -/
def turn (bytes : Bytes) (s : StateReader) : Turn :=
  if bytes.length ≤ s.position then .finished (.ok s.states) s.looked
  else if bytes.length < s.position + 3 then .finished (.error .size) s.looked
  else
    match bytes[s.position]?, bytes[s.position + 1]?, bytes[s.position + 2]? with
    | some address, some key, some length =>
      let looked := s.looked ++ [s.position, s.position + 1, s.position + 2]
      if bytes.length < s.position + 3 + length.toNat then .finished (.error .size) looked
      else
        match bytes.field? (s.position + 3) length.toNat with
        | some name => .on {
            position := s.position + 3 + length.toNat
            states := s.states ++ [⟨⟨address⟩, key != 0, Utf8.textLossy name⟩]
            looked := looked ++ List.range' (s.position + 3) length.toNat }
        | none => .outOfRange
    | _, _, _ => .outOfRange

/-- Some turns, or fewer if one of them does not go on. -/
def run (bytes : Bytes) : (turns : Nat) → StateReader → Turn
  | 0, s => .on s
  | turns + 1, s =>
    match turn bytes s with
    | .on next => run bytes turns next
    | ended => ended

/-- The reader looked at the bytes before its position, at each of them once, and has read what they
are read as: the rest is read as if it stood alone. -/
structure IsSound (bytes : Bytes) (s : StateReader) : Prop where
  position_le : s.position ≤ bytes.length
  looked_eq : s.looked = List.range s.position
  decodeList_eq : SlotState.decodeList bytes
    = (SlotState.decodeList (bytes.drop s.position)).map (s.states ++ ·)

/-- A turn ends with what the bytes are read as. Some of them were looked at, from the first one on
and each once, and none is left out if they are records. -/
def Turn.Answers (t : Turn) (bytes : Bytes) : Prop :=
  ∃ n ≤ bytes.length, t = .finished (SlotState.decodeList bytes) (List.range n)
    ∧ ((∃ states, SlotState.decodeList bytes = .ok states) → n = bytes.length)

variable {bytes : Bytes} {s : StateReader}

theorem isSound_start (bytes : Bytes) : start.IsSound bytes where
  position_le := Nat.zero_le _
  looked_eq := rfl
  decodeList_eq := (congrFun Except.map_id (SlotState.decodeList bytes)).symm

theorem exists_eq_cons {left : Bytes} (hlong : 3 ≤ left.length) :
    ∃ address key length rest, left = address :: key :: length :: rest := by
  match left, hlong with
  | address :: key :: length :: rest, _ => exact ⟨address, key, length, rest, rfl⟩

theorem range_add_three (n : Nat) : List.range (n + 3) = List.range n ++ [n, n + 1, n + 2] := by
  simp only [List.range_succ, List.append_assoc, List.cons_append, List.nil_append]

/-- Where three bytes are left, all that the reader looks at is there. -/
theorem turn_of_drop {address key length : UInt8} {rest : Bytes}
    (hdrop : bytes.drop s.position = address :: key :: length :: rest) : turn bytes s =
      if rest.length < length.toNat then
        .finished (.error .size) (s.looked ++ [s.position, s.position + 1, s.position + 2])
      else .on {
        position := s.position + 3 + length.toNat
        states := s.states ++ [⟨⟨address⟩, key != 0, Utf8.textLossy (rest.take length.toNat)⟩]
        looked := s.looked ++ [s.position, s.position + 1, s.position + 2]
          ++ List.range' (s.position + 3) length.toNat } := by
  have hrest : bytes.drop (s.position + 3) = rest := by
    rw [← List.drop_drop, hdrop]
    rfl
  have hsize : bytes.length = s.position + 3 + rest.length := by
    have hlength := congrArg List.length hdrop
    simp only [List.length_drop, List.length_cons] at hlength
    omega
  have hat (i : Nat) : bytes[s.position + i]? = (address :: key :: length :: rest)[i]? := by
    rw [← hdrop, List.getElem?_drop]
  have haddress : bytes[s.position]? = some address := hat 0
  have hkey : bytes[s.position + 1]? = some key := hat 1
  have hlength : bytes[s.position + 2]? = some length := hat 2
  rw [turn, if_neg (by omega), if_neg (by omega), haddress, hkey, hlength]
  dsimp only
  by_cases hcut : rest.length < length.toNat
  · rw [if_pos hcut, if_pos (by omega)]
  · rw [if_neg hcut, if_neg (by omega), Bytes.field?, if_pos (by omega), hrest]

/-- What is refused behind the position is refused altogether. -/
theorem IsSound.answers_of_error (h : s.IsSound bytes) {n : Nat} (hn : n ≤ bytes.length)
    (herror : SlotState.decodeList (bytes.drop s.position) = .error .size) :
    (Turn.finished (.error .size) (List.range n)).Answers bytes := by
  have hall : SlotState.decodeList bytes = .error .size := by rw [h.decodeList_eq, herror]; rfl
  refine ⟨n, hn, by rw [hall], ?_⟩
  rintro ⟨states, hok⟩
  rw [hall] at hok
  cases hok

/-- The reader has read one more record. -/
theorem IsSound.pass (h : s.IsSound bytes) {r : StateRecord} {rest : Bytes}
    (hdrop : bytes.drop s.position = r.toBytes ++ rest) :
    IsSound bytes ⟨s.position + 3 + r.name.length, s.states ++ [r.state],
      List.range (s.position + 3 + r.name.length)⟩ := by
  have hbehind : bytes.drop (s.position + 3 + r.name.length) = rest := by
    rw [Nat.add_assoc, ← List.drop_drop, hdrop]
    exact List.drop_left' r.length_toBytes
  refine ⟨?_, rfl, ?_⟩
  · have hlength := congrArg List.length hdrop
    rw [List.length_drop, List.length_append, r.length_toBytes] at hlength
    dsimp only
    omega
  · dsimp only
    rw [h.decodeList_eq, hdrop, SlotState.decodeList_toBytes_append, hbehind]
    cases SlotState.decodeList rest with
    | error e => rfl
    | ok states => exact congrArg Except.ok (List.append_cons ..)

/-- A turn ends the reading, or passes a record. -/
theorem IsSound.turn (h : s.IsSound bytes) : (turn bytes s).Answers bytes
    ∨ ∃ next, turn bytes s = .on next ∧ next.IsSound bytes ∧ s.position + 3 ≤ next.position := by
  by_cases hend : bytes.length ≤ s.position
  · -- Nothing is left.
    have hall := Nat.le_antisymm h.position_le hend
    have hread : SlotState.decodeList bytes = .ok s.states := by
      rw [h.decodeList_eq, List.drop_eq_nil_of_le hend, SlotState.decodeList_nil]
      exact congrArg Except.ok (List.append_nil _)
    rw [StateReader.turn, if_pos hend, h.looked_eq, hall]
    exact .inl ⟨bytes.length, Nat.le_refl _, by rw [hread], fun _ => rfl⟩
  by_cases hshort : bytes.length < s.position + 3
  · -- What is left is too little for a record to begin.
    rw [StateReader.turn, if_neg hend, if_pos hshort, h.looked_eq]
    exact .inl (h.answers_of_error h.position_le (SlotState.decodeList_of_length_lt
      (by rw [List.length_drop]; omega) (by rw [List.length_drop]; omega)))
  have hthree : 3 ≤ (bytes.drop s.position).length := by rw [List.length_drop]; omega
  obtain ⟨address, key, length, rest, hdrop⟩ := exists_eq_cons hthree
  rw [turn_of_drop hdrop, h.looked_eq, ← range_add_three]
  by_cases hcut : rest.length < length.toNat
  · rw [if_pos hcut]
    exact .inl (h.answers_of_error (by omega) (hdrop ▸ SlotState.decodeList_of_lt hcut))
  · rw [if_neg hcut]
    obtain ⟨r, hr, hstate, hname⟩ :=
      StateRecord.exists_toBytes_append address key length (Nat.le_of_not_lt hcut)
    have hpass := h.pass (hdrop.trans hr.symm)
    rw [hstate, hname, List.range_add, ← List.range'_eq_map_range] at hpass
    exact .inr ⟨_, rfl, hpass, Nat.le_add_right _ _⟩

/-- A reader that may take one turn for each three bytes that are left, and one more, ends. -/
theorem IsSound.run (h : s.IsSound bytes) {turns : Nat}
    (hturns : bytes.length < s.position + 3 * turns) : (run bytes turns s).Answers bytes := by
  -- Each turn that goes on passes three bytes and leaves what the bound needs of the others.
  induction turns generalizing s with
  | zero => exact absurd h.position_le (by omega)
  | succ turns ih =>
    rw [StateReader.run]
    rcases h.turn with hanswers | ⟨next, hon, hnext, hposition⟩
    · obtain ⟨n, hn, hfinished, hall⟩ := hanswers
      rw [hfinished]
      exact ⟨n, hn, rfl, hall⟩
    · rw [hon]
      exact ih hnext (by omega)

end StateReader

namespace SlotState

/-- **Slot states are read from records, and from nothing else.** For all bytes, the reader ends
after a turn for each three of them and one more at the latest; it looks at no position beyond the
last byte and at none twice, and at all of them if it reads slot states. It does so exactly if the
bytes are records one after another, which they are in one way at most, and reads these in their
order. So what follows some records is read, or refused, as if it stood alone, and slot states whose
names are not cut are read back. -/
theorem reads_exactly_records :
    (∀ bytes : Bytes, (StateReader.run bytes (bytes.length / 3 + 1) .start).Answers bytes)
    ∧ (∀ (bytes : Bytes) (states : List SlotState), decodeList bytes = .ok states ↔
      ∃ records, StateRecord.join records = bytes ∧ records.map StateRecord.state = states)
    ∧ (∀ bytes : Bytes,
      decodeList bytes = .error .size ↔ ∀ records, StateRecord.join records ≠ bytes)
    ∧ Function.Injective StateRecord.join
    ∧ (∀ (bytes rest : Bytes) (states : List SlotState), decodeList bytes = .ok states →
      decodeList (bytes ++ rest) = (decodeList rest).map (states ++ ·))
    ∧ ∀ states : List SlotState, (∀ s ∈ states, (Utf8.ofText s.name).length ≤ maxWireName) →
      decodeList (encodeList states) = .ok states := by
  refine ⟨fun bytes => ?_, fun _ _ => decodeList_eq_ok_iff, fun _ => decodeList_eq_error_iff,
    StateRecord.join_injective, fun _ rest _ h => decodeList_append h rest,
    fun _ => decodeList_encodeList_of_short⟩
  refine (StateReader.isSound_start bytes).run ?_
  rw [StateReader.start]
  dsimp only
  omega

/-- Whole records before one that is cut short do not make up for it. -/
theorem cut_record_is_refused :
    decodeList (encodeList [⟨⟨0x10⟩, true, "ambient"⟩, ⟨⟨0x21⟩, false, ""⟩])
      = .ok [⟨⟨0x10⟩, true, "ambient"⟩, ⟨⟨0x21⟩, false, ""⟩]
    ∧ decodeList (encodeList [⟨⟨0x10⟩, true, "ambient"⟩, ⟨⟨0x21⟩, false, ""⟩]
      ++ [0x12, 0, 5, 0x61]) = .error .size := by
  obtain ⟨-, -, -, -, happend, hround⟩ := reads_exactly_records
  have hread := hround [⟨⟨0x10⟩, true, "ambient"⟩, ⟨⟨0x21⟩, false, ""⟩] (by decide)
  refine ⟨hread, ?_⟩
  rw [happend _ _ _ hread, decodeList_of_lt (by decide)]
  rfl

end SlotState
end ModuleBus

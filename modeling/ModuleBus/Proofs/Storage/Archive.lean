import Mathlib.Algebra.Order.BigOperators.Group.Finset
import Mathlib.Data.Finmap
import Mathlib.Data.Finset.Sort
import Mathlib.Data.String.Basic
import ModuleBus.Proofs.Storage.Records
import ModuleBus.Storage.LogStore

set_option autoImplicit false

/-! # Archives

An archive is what a log store stands for: a finite map from log names to everything that was
appended under them, within a budget of bytes. It knows nothing of how logs are held or found.
Appending leaves what a log held as its beginning, so that a span of a log stays what it is until
the log is deleted. -/

namespace ModuleBus

/-! ## Commands -/

/-- What a request asks of an archive. -/
inductive StorageCommand where
  | write (name : String) (data : Bytes)
  | read (name : String) (offset length : Nat)
  | delete (name : String)
  | scan (max : Nat)
deriving DecidableEq

namespace StorageCommand

/-- The command that a request makes, by its number and payload. -/
def parse (type : UInt8) (payload : Bytes) : Except ErrorCode StorageCommand :=
  match StorageRequest.ofByte? type with
  | none => .error .noSupport
  | some .write => (splitLogName payload).map fun (name, data) => write name data
  | some .read => do
    let (name, rest) ← splitLogName payload
    match rest.natLE? 0 4, rest.natLE? 4 4 with
    | some offset, some length => .ok (read name offset length)
    | _, _ => .error .size
  | some .delete =>
    match Utf8.text? (payload.takeWhile (· != 0)) with
    | none => .error .invalid
    | some name => (checkLogName name).map fun _ => delete name
  | some .scan =>
    match payload.natLE? 0 4 with
    | none => .error .size
    | some max => .ok (scan max)

/-- Only log names are written to. -/
theorem checkLogName_of_parse {type : UInt8} {payload : Bytes} {name : String} {data : Bytes}
    (h : parse type payload = .ok (write name data)) : checkLogName name = .ok () := by
  unfold parse at h
  split at h
  · cases h
  · cases hsplit : splitLogName payload with
    | error _ =>
      rw [hsplit] at h
      cases h
    | ok named =>
      rw [hsplit] at h
      cases h
      exact (splitLogName_eq_ok_iff.mp hsplit).1
  · cases hsplit : splitLogName payload with
    | error _ =>
      rw [hsplit] at h
      cases h
    | ok named =>
      rw [hsplit] at h
      simp only [Except.bind, bind] at h
      split at h <;> cases h
  · split at h
    · cases h
    · next text _ =>
      cases hcheck : checkLogName text with
      | error _ =>
        rw [hcheck] at h
        cases h
      | ok _ =>
        rw [hcheck] at h
        cases h
  · split at h <;> cases h

/-- The payload of a write is what the record of the write will be about. -/
theorem exists_of_parse_write {payload : Bytes} {command : StorageCommand}
    (h : parse StorageRequest.write.toByte payload = .ok command) :
    ∃ name data, payload = Utf8.ofText name ++ 0 :: data ∧ checkLogName name = .ok ()
      ∧ command = write name data := by
  have htype : StorageRequest.ofByte? StorageRequest.write.toByte = some .write := rfl
  rw [parse, htype] at h
  dsimp only at h
  cases hsplit : splitLogName payload with
  | error _ =>
    rw [hsplit] at h
    cases h
  | ok named =>
    obtain ⟨hcheck, hpayload⟩ := splitLogName_eq_ok_iff.mp hsplit
    rw [hsplit] at h
    cases h
    exact ⟨_, _, hpayload, hcheck, rfl⟩

/-- A read says the log name, and then the offset and the length. -/
theorem parse_read {name : String} (h : checkLogName name = .ok ()) (offset length : UInt32) :
    parse StorageRequest.read.toByte (Utf8.ofText name ++ 0 :: (Bytes.ofNatLE 4 offset.toNat
      ++ Bytes.ofNatLE 4 length.toNat)) = .ok (read name offset.toNat length.toNat) := by
  have htype : StorageRequest.ofByte? StorageRequest.read.toByte = some .read := rfl
  have hsplit := splitLogName_append h
    (Bytes.ofNatLE 4 offset.toNat ++ Bytes.ofNatLE 4 length.toNat)
  have hoffset := Bytes.natLE?_word [] offset (Bytes.ofNatLE 4 length.toNat)
  have hlength := Bytes.natLE?_word (Bytes.ofNatLE 4 offset.toNat) length []
  rw [Bytes.length_ofNatLE, List.append_nil] at hlength
  rw [List.nil_append, List.length_nil] at hoffset
  rw [parse, htype]
  dsimp only
  rw [hsplit]
  simp only [Except.bind, bind, hoffset, hlength]

end StorageCommand

/-! ## Archives -/

/-- Everything that was appended under each log name, within a budget of bytes. -/
structure Archive where
  capacity : Option Nat
  logs : Finmap fun _ : String => Bytes

namespace Archive

/-- The archive without logs. -/
def empty (capacity : Option Nat) : Archive := ⟨capacity, ∅⟩

/-- What was appended under a name; nothing, if there is no such log. -/
def content (a : Archive) (name : String) : Bytes := (a.logs.lookup name).getD []

/-- Bytes in all logs. -/
def used (a : Archive) : Nat := ∑ name ∈ a.logs.keys, (a.content name).length

/-- The record of a span. -/
def span (name : String) (offset length : Nat) : StorageRecord :=
  ⟨name, UInt32.ofNat offset, UInt32.ofNat length⟩

/-- The record of a whole log. -/
def whole (a : Archive) (name : String) : StorageRecord := span name 0 (a.content name).length

/-- The answer to a command, and the archive after it. -/
def run (a : Archive) : StorageCommand → Except ErrorCode Bytes × Archive
  | .write name data =>
    if a.capacity.any fun capacity => a.used + data.length > capacity then (.error .noMem, a)
    else
      (.ok (span name (a.content name).length data.length).toBytes,
        { a with logs := a.logs.insert name (a.content name ++ data) })
  | .read name offset length =>
    (((a.logs.lookup name).map fun content => (content.drop offset).take length).elim
      (.error .invalid) .ok, a)
  | .delete name =>
    if name ∈ a.logs then (.ok (a.whole name).toBytes, { a with logs := a.logs.erase name })
    else (.error .invalid, a)
  | .scan max =>
    (.ok (((a.logs.keys.sort (· ≤ ·)).take (min max LogStore.maxScan)).flatMap fun name =>
      (a.whole name).toBytes), a)

/-- The answer to a request, and the archive after it. -/
def respond (a : Archive) (type : UInt8) (payload : Bytes) : Except ErrorCode Bytes × Archive :=
  match StorageCommand.parse type payload with
  | .error error => (.error error, a)
  | .ok command => a.run command

/-- The store that holds the logs of an archive, in the order of their names. -/
def store (a : Archive) : LogStore where
  capacity := a.capacity
  logs := (a.logs.keys.sort (· ≤ ·)).map fun name => (name, a.content name)

/-! ## What stays -/

/-- There is a log of a name, and it starts with some bytes. -/
def Holds (a : Archive) (name : String) (bytes : Bytes) : Prop :=
  ∃ rest, a.logs.lookup name = some (bytes ++ rest)

variable {a : Archive} {name : String} {bytes data reply : Bytes}

/-- Only deleting a log takes away what it starts with. -/
theorem Holds.run (h : a.Holds name bytes) {command : StorageCommand}
    (hdelete : command ≠ .delete name) : (a.run command).2.Holds name bytes := by
  obtain ⟨rest, hrest⟩ := h
  cases command with
  | write other data =>
    rw [Archive.run]
    split
    · exact ⟨rest, hrest⟩
    · by_cases hname : name = other
      · subst hname
        refine ⟨rest ++ data, ?_⟩
        dsimp only
        rw [Finmap.lookup_insert, content, hrest, Option.getD_some, List.append_assoc]
      · refine ⟨rest, ?_⟩
        dsimp only
        rw [Finmap.lookup_insert_of_ne _ hname, hrest]
  | read other offset length => exact ⟨rest, hrest⟩
  | delete other =>
    have hname : name ≠ other := fun hname => hdelete (hname ▸ rfl)
    rw [Archive.run]
    split
    · refine ⟨rest, ?_⟩
      dsimp only
      rw [Finmap.lookup_erase_ne hname, hrest]
    · exact ⟨rest, hrest⟩
  | scan max => exact ⟨rest, hrest⟩

theorem Holds.length_le_used (h : a.Holds name bytes) : bytes.length ≤ a.used := by
  obtain ⟨rest, hrest⟩ := h
  have hmem : name ∈ a.logs.keys :=
    Finmap.mem_keys.mpr (Finmap.mem_of_lookup_eq_some hrest)
  have hcontent : a.content name = bytes ++ rest := by rw [content, hrest, Option.getD_some]
  calc bytes.length
      ≤ (a.content name).length := by
        rw [hcontent, List.length_append]
        exact Nat.le_add_right _ _
    _ ≤ a.used := Finset.single_le_sum (f := fun name => (a.content name).length)
        (fun _ _ => Nat.zero_le _) hmem

/-- What is written stands behind what the log held before, and the answer says where. -/
theorem holds_of_write (h : (a.run (.write name data)).1 = .ok reply) :
    reply = (span name (a.content name).length data.length).toBytes
      ∧ (a.run (.write name data)).2.Holds name (a.content name ++ data) := by
  rw [Archive.run] at h ⊢
  split at h
  · cases h
  · next hfits =>
    cases h
    rw [if_neg hfits]
    refine ⟨rfl, [], ?_⟩
    dsimp only
    rw [Finmap.lookup_insert, List.append_nil]

/-- A span is read as it stands in the log. -/
theorem Holds.read {before : Bytes} (h : a.Holds name (before ++ data)) :
    (a.run (.read name before.length data.length)).1 = .ok data := by
  obtain ⟨rest, hrest⟩ := h
  rw [Archive.run, hrest, Option.map_some, List.append_assoc, List.drop_left, List.take_left]
  rfl

end Archive

end ModuleBus

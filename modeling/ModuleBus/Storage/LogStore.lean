import ModuleBus.Request
import ModuleBus.Storage.Record

set_option autoImplicit false

/-! # The log store

The storage module keeps append-only logs under their names, within a budget of bytes. The logs
are held in the order of their names; `respond` answers one request of the storage service. -/

namespace ModuleBus

/-- Named logs in the order of their names. -/
structure LogStore where
  /-- Bytes that all logs together may hold, without a bound if absent. -/
  capacity : Option Nat
  logs : List (String × Bytes)
deriving Inhabited

namespace LogStore

/-- The store without logs. -/
def empty (capacity : Option Nat) : LogStore := ⟨capacity, []⟩

/-- Records of one scan at most. -/
def maxScan : Nat := 64

/-- Bytes in all logs. -/
def used (s : LogStore) : Nat := s.logs.foldr (fun l n => l.2.length + n) 0

/-- The content of a log. -/
def find? (s : LogStore) (name : String) : Option Bytes :=
  (s.logs.find? fun l => l.1 == name).map (·.2)

/-- The logs with `data` added at the end of the log `name`, which is created where its name
belongs if it is missing. -/
def extend (name : String) (data : Bytes) : List (String × Bytes) → List (String × Bytes)
  | [] => [(name, data)]
  | (n, content) :: rest =>
    if n = name then (n, content ++ data) :: rest
    else if name < n then (name, data) :: (n, content) :: rest
    else (n, content) :: extend name data rest

/-- The record of a whole log. -/
def wholeLog (l : String × Bytes) : StorageRecord := ⟨l.1, 0, UInt32.ofNat l.2.length⟩

/-- Adds `data` to a log and tells where it went. -/
def append (s : LogStore) (name : String) (data : Bytes) :
    Except ErrorCode StorageRecord × LogStore :=
  match checkLogName name with
  | .error e => (.error e, s)
  | .ok () =>
    if s.capacity.any fun capacity => s.used + data.length > capacity then (.error .noMem, s)
    else
      let offset := ((s.find? name).getD []).length
      (.ok ⟨name, UInt32.ofNat offset, UInt32.ofNat data.length⟩,
       { s with logs := extend name data s.logs })

/-- At most `length` bytes of a log from `offset` on. -/
def read (s : LogStore) (name : String) (offset length : Nat) : Except ErrorCode Bytes :=
  match s.find? name with
  | none => .error .invalid
  | some content => .ok ((content.drop offset).take length)

/-- Removes a log and tells what it held. -/
def delete (s : LogStore) (name : String) : Except ErrorCode StorageRecord × LogStore :=
  match s.find? name with
  | none => (.error .invalid, s)
  | some content =>
    (.ok (wholeLog (name, content)), { s with logs := s.logs.filter fun l => l.1 != name })

/-- The records of the first `max` logs. -/
def scan (s : LogStore) (max : Nat) : List StorageRecord := (s.logs.take max).map wholeLog

/-! ## Requests -/

/-- The response to a request with the given number, and the store after it. -/
def respond (s : LogStore) (type : UInt8) (payload : Bytes) : Except ErrorCode Bytes × LogStore :=
  match StorageRequest.ofByte? type with
  | none => (.error .noSupport, s)
  | some .write =>
    match splitLogName payload with
    | .error e => (.error e, s)
    | .ok (name, data) => let (r, s) := s.append name data; (r.map StorageRecord.toBytes, s)
  | some .read =>
    (do
      let (name, rest) ← splitLogName payload
      match rest.natLE? 0 4, rest.natLE? 4 4 with
      | some offset, some length => s.read name offset length
      | _, _ => .error .size, s)
  | some .delete =>
    match Utf8.text? (payload.takeWhile (· != 0)) with
    | none => (.error .invalid, s)
    | some name =>
      match checkLogName name with
      | .error e => (.error e, s)
      | .ok () => let (r, s) := s.delete name; (r.map StorageRecord.toBytes, s)
  | some .scan =>
    match payload.natLE? 0 4 with
    | none => (.error .size, s)
    | some max => (.ok ((s.scan (min max maxScan)).flatMap StorageRecord.toBytes), s)

end LogStore

end ModuleBus

import ModuleBus.ErrorCode
import ModuleBus.Text.Utf8

set_option autoImplicit false

/-! # Storage records

A record names a span of bytes in a log. It takes 41 bytes: the log name filled up with zeros to
33, then offset and length as little-endian words. Payloads of the storage service start with a
log name and a zero. -/

namespace ModuleBus

/-- Bytes of the longest log name. -/
def maxLogName : Nat := 32

/-- A span of bytes in a named log. -/
structure StorageRecord where
  logName : String
  offset : UInt32
  length : UInt32
deriving DecidableEq, Inhabited

namespace StorageRecord

/-- Bytes of the name field: the longest name and a zero. -/
def nameField : Nat := maxLogName + 1

/-- Bytes of a record. -/
def size : Nat := nameField + 8

/-- The bytes of a record; a name that is too long is cut. -/
def toBytes (r : StorageRecord) : Bytes :=
  let name := (Utf8.ofText r.logName).take maxLogName
  name ++ List.replicate (nameField - name.length) 0
    ++ Bytes.ofNatLE 4 r.offset.toNat ++ Bytes.ofNatLE 4 r.length.toNat

/-- The record at the start of some bytes; its name ends at the first zero. -/
def parse? (bytes : Bytes) : Option StorageRecord :=
  if bytes.length < size then none
  else
    let name := ((bytes.take nameField).takeWhile (· != 0)).take maxLogName
    some {
      logName := Utf8.textLossy name
      offset := UInt32.ofNat (Bytes.toNatLE ((bytes.drop nameField).take 4))
      length := UInt32.ofNat (Bytes.toNatLE ((bytes.drop (nameField + 4)).take 4)) }

@[simp] theorem length_toBytes (r : StorageRecord) : r.toBytes.length = size := by
  simp only [toBytes, List.length_append, List.length_take, List.length_replicate,
    Bytes.length_ofNatLE, size, nameField, maxLogName]
  omega

end StorageRecord

/-! ## Log names in payloads -/

/-- A log name is neither empty nor too long and holds no zero. -/
def checkLogName (name : String) : Except ErrorCode Unit :=
  if name.toList.isEmpty || name.toList.any (· == '\x00') then .error .invalid
  else if (Utf8.ofText name).length > maxLogName then .error .size
  else .ok ()

/-- The log name and the rest of a payload that starts with a name and a zero. -/
def splitLogName (payload : Bytes) : Except ErrorCode (String × Bytes) :=
  let name := payload.takeWhile (· != 0)
  match payload.drop name.length with
  | [] => .error .invalid
  | _ :: rest =>
    match Utf8.text? name with
    | none => .error .invalid
    | some name => (checkLogName name).map fun _ => (name, rest)

/-- The payload that starts with a log name and a zero. -/
def namedPayload (name : String) (rest : Bytes) : Except ErrorCode Bytes :=
  (checkLogName name).map fun _ => Utf8.ofText name ++ 0 :: rest

end ModuleBus

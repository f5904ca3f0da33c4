import ModuleBus.Bytes

set_option autoImplicit false

/-! # Status codes

Every service answers with the same status codes. They travel as little-endian signed words,
zero for success and negative for the refusals; a code that no refusal owns reads as `fail`. -/

namespace ModuleBus

/-- Status of a request. -/
inductive ErrorCode where
  | success
  | fail
  | busy
  | already
  | off
  | reserve
  | invalid
  | size
  | cancel
  | noMem
  | noSupport
  | noDevice
  | uninstalled
  | noAck
  | noSatellites
deriving DecidableEq, Inhabited

namespace ErrorCode

/-- The number of a status on the wire. -/
def code : ErrorCode → Int
  | success => 0
  | fail => -1
  | busy => -2
  | already => -3
  | off => -4
  | reserve => -5
  | invalid => -6
  | size => -7
  | cancel => -8
  | noMem => -9
  | noSupport => -10
  | noDevice => -11
  | uninstalled => -12
  | noAck => -13
  | noSatellites => -14

/-- Every status. -/
def all : List ErrorCode :=
  [success, fail, busy, already, off, reserve, invalid, size, cancel, noMem, noSupport, noDevice,
    uninstalled, noAck, noSatellites]

/-- The status with the number `code`; `fail` when there is none. -/
def ofCode (code : Int) : ErrorCode := (all.find? (·.code == code)).getD fail

theorem ofCode_code (e : ErrorCode) : ofCode e.code = e := by
  cases e <;> rfl

/-- The name of a status in messages. -/
def name : ErrorCode → String
  | success => "Success"
  | fail => "Fail"
  | busy => "Busy"
  | already => "Already"
  | off => "Off"
  | reserve => "Reserve"
  | invalid => "Invalid"
  | size => "Size"
  | cancel => "Cancel"
  | noMem => "NoMem"
  | noSupport => "NoSupport"
  | noDevice => "NoDevice"
  | uninstalled => "Uninstalled"
  | noAck => "NoAck"
  | noSatellites => "NoSatellites"

/-- A status as it is printed: its name, then its number in parentheses. -/
def message (e : ErrorCode) : String := e.name ++ " (" ++ toString e.code ++ ")"

/-- The payload of an error message that carries the status. -/
def toPayload (e : ErrorCode) : Bytes := Bytes.ofIntLE 4 e.code

/-- The status word at the start of a payload. -/
def status? (payload : Bytes) : Option Int := payload.intLE? 0 4

/-- The status that an error message carries; a payload too short for one reads as `fail`. -/
def ofPayload (payload : Bytes) : ErrorCode :=
  match status? payload with
  | some code => ofCode code
  | none => fail

theorem ofPayload_toPayload (e : ErrorCode) : ofPayload e.toPayload = e := by
  cases e <;> decide

end ErrorCode

end ModuleBus

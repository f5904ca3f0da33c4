import ModuleBus.Dispatch.Error
import ModuleBus.Controller.Ledger
import ModuleBus.Report.Basic
import ModuleBus.Report.Names
import ModuleBus.Scene.Reader
import ModuleBus.Settings.Basic

set_option autoImplicit false

/-! # Reports of errors

An error is reported with its kind and its message. Errors that a request can end with also show
the status that stands for them. -/

namespace ModuleBus

/-- The report of an error of some kind. -/
def faultReport (kind message : String) (more : List (String × Json)) : Json :=
  .record (("error", report kind) :: ("message", report message) :: more)

instance : Reported ErrorCode :=
  ⟨fun e => faultReport "ErrorCode" e.message [("code", e.code)]⟩

/-- The kind of a packet error. -/
def CodecError.kind : CodecError → String
  | tooShort _ => "TooShort"
  | unsupportedVersion _ => "UnsupportedVersion"
  | payloadTooLarge _ => "PayloadTooLarge"
  | encryptionUnsupported => "EncryptionUnsupported"
  | foreignFragment _ _ => "ForeignFragment"

instance : Reported CodecError := ⟨fun e => faultReport e.kind e.message []⟩

/-- The kind of an error in what was sealed. -/
def SealError.kind : SealError → String
  | tooShort _ => "TooShort"
  | authentication => "Authentication"
  | invalidPoint => "InvalidPoint"

instance : Reported SealError := ⟨fun e => faultReport e.kind e.message []⟩

/-- The kind of a transport error. -/
def TransportError.kind : TransportError → String
  | writeFailed => "WriteFailed"
  | noAck => "NoAck"
  | oversize _ => "Oversize"
  | busDisabled => "BusDisabled"

instance : Reported TransportError :=
  ⟨fun e => faultReport e.kind e.message [("code", e.status.code)]⟩

/-- The kind of an error that a call ends with. -/
def DispatchError.kind : DispatchError → String
  | codec _ => "Codec"
  | transport _ => "Transport"
  | unsealed _ => "Seal"
  | busy => "Busy"
  | timeout => "Timeout"
  | remote _ => "Remote"
  | malformed => "Malformed"

instance : Reported DispatchError :=
  ⟨fun e => faultReport e.kind e.message [("code", e.status.code)]⟩

/-- An envelope of an unknown service shows what else it says. -/
instance : Reported EnvelopeError where
  report e := match e with
    | .tooShort _ => faultReport "TooShort" e.message []
    | .unknownFrame _ => faultReport "UnknownFrameType" e.message []
    | .unknownService frame service type =>
      faultReport "UnknownService" e.message [("fields", .array [frame.name, service, type])]

/-- The kind of an error in a stored ledger. -/
def LedgerError.kind : LedgerError → String
  | tooShort _ => "TooShort"
  | badMagic _ => "BadMagic"
  | storage _ => "Storage"

instance : Reported LedgerError := ⟨fun e => faultReport e.kind e.message []⟩

/-- The kind of an error in a scene. -/
def SceneError.kind : SceneError → String
  | unreadable _ => "FileReadError"
  | malformed => "ParseError"
  | invalid _ => "ValidationError"

instance : Reported SceneError := ⟨fun e => faultReport e.kind e.message []⟩

instance : Reported SettingsError :=
  ⟨fun e =>
    faultReport "Config" e.message (e.cause?.map fun cause => ("cause", report cause)).toList⟩

end ModuleBus

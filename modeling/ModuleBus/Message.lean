import ModuleBus.Address

set_option autoImplicit false

/-! # Logical messages

A message goes from one participant to another, belongs to a service and carries a payload. Its
envelope holds the three leading bytes frame kind, service and message type, then the payload;
the two addresses are not part of it. `Message.decode` reads what `Message.encode` writes. -/

namespace ModuleBus

/-- Role of a message. -/
inductive FrameKind where
  | notification
  | command
  | response
  | error
deriving DecidableEq, Inhabited

namespace FrameKind

/-- The byte of a frame kind in an envelope. -/
def toByte : FrameKind → UInt8
  | notification => 0
  | command => 1
  | response => 2
  | error => 3

/-- The frame kind with the given byte. -/
def ofByte? (b : UInt8) : Option FrameKind :=
  [notification, command, response, error].find? (·.toByte == b)

/-- Commands and notifications are requests to a service; the other kinds answer one. -/
def isRequest : FrameKind → Bool
  | command | notification => true
  | response | error => false

theorem ofByte?_toByte (k : FrameKind) : ofByte? k.toByte = some k := by
  cases k <;> rfl

theorem toByte_of_ofByte? {b : UInt8} {k : FrameKind} (h : ofByte? b = some k) :
    k.toByte = b := by
  simpa using List.find?_some h

end FrameKind

/-- Service that a message belongs to. -/
inductive Service where
  | initialization
  | storage
  | networking
  | processing
  | energy
  | timeLocation
  | edison
  | watchdog
deriving DecidableEq, Inhabited

namespace Service

/-- The byte of a service in an envelope. -/
def toByte : Service → UInt8
  | initialization => 1
  | storage => 2
  | networking => 3
  | processing => 4
  | energy => 5
  | timeLocation => 6
  | edison => 7
  | watchdog => 8

/-- Every service. -/
def all : List Service :=
  [initialization, storage, networking, processing, energy, timeLocation, edison, watchdog]

/-- The service with the given byte. -/
def ofByte? (b : UInt8) : Option Service := all.find? (·.toByte == b)

theorem ofByte?_toByte (s : Service) : ofByte? s.toByte = some s := by
  cases s <;> rfl

theorem toByte_of_ofByte? {b : UInt8} {s : Service} (h : ofByte? b = some s) :
    s.toByte = b := by
  simpa using List.find?_some h

end Service

/-! ## Envelopes -/

/-- Why bytes are no envelope. -/
inductive EnvelopeError where
  /-- Fewer bytes than the envelope's leading three. -/
  | tooShort (length : Nat)
  /-- No frame kind has the first byte. -/
  | unknownFrame (byte : UInt8)
  /-- The frame kind is known and the service is not. The three bytes are kept, because a command
  to an unknown service is still answered. -/
  | unknownService (frame : FrameKind) (service type : UInt8)
deriving DecidableEq

namespace EnvelopeError

/-- The text of an envelope error. -/
def message : EnvelopeError → String
  | tooShort length => s!"envelope of {length} bytes is too short"
  | unknownFrame byte => s!"unknown frame type {byte}"
  | unknownService _ service _ => s!"unknown service type {service}"

end EnvelopeError

/-- The envelope with the given leading bytes. -/
def envelope (frame : FrameKind) (service type : UInt8) (payload : Bytes) : Bytes :=
  frame.toByte :: service :: type :: payload

/-- One message between two participants. -/
structure Message where
  source : Address
  destination : Address
  frame : FrameKind
  service : Service
  type : UInt8
  payload : Bytes
deriving DecidableEq, Inhabited

namespace Message

/-- The envelope of a message. -/
def encode (m : Message) : Bytes := envelope m.frame m.service.toByte m.type m.payload

/-- The message whose envelope came from `source` to `destination`. -/
def decode (source destination : Address) : Bytes → Except EnvelopeError Message
  | frame :: service :: type :: payload =>
    match FrameKind.ofByte? frame with
    | none => .error (.unknownFrame frame)
    | some frame =>
      match Service.ofByte? service with
      | none => .error (.unknownService frame service type)
      | some service => .ok ⟨source, destination, frame, service, type, payload⟩
  | bytes => .error (.tooShort bytes.length)

theorem decode_encode (m : Message) : decode m.source m.destination m.encode = .ok m := by
  simp [encode, envelope, decode, FrameKind.ofByte?_toByte, Service.ofByte?_toByte]

theorem encode_of_decode {source destination : Address} {bytes : Bytes} {m : Message}
    (h : decode source destination bytes = .ok m) : m.encode = bytes := by
  match bytes, h with
  | frame :: service :: type :: payload, h =>
    simp only [decode] at h
    split at h
    · cases h
    · next k hk =>
      split at h
      · cases h
      · next s hs =>
        cases h
        simp [encode, envelope, FrameKind.toByte_of_ofByte? hk, Service.toByte_of_ofByte? hs]
  | [], h => simp [decode] at h
  | [_], h => simp [decode] at h
  | [_, _], h => simp [decode] at h

end Message

end ModuleBus

import ModuleBus.Address
import ModuleBus.ErrorCode

set_option autoImplicit false

/-! # The link

Participants exchange packets over ports of a shared link. A world with such a link in it is an
instance of `Link`; one in which modules also have isolation lines is an instance of `Lines`. -/

namespace ModuleBus

/-- Why a packet was not transferred. -/
inductive TransportError where
  | writeFailed
  /-- Nobody answers at the address. -/
  | noAck
  /-- The packet is longer than the link carries. -/
  | oversize (length : Nat)
  /-- The writer is not connected. -/
  | busDisabled
deriving DecidableEq, Inhabited

namespace TransportError

/-- The text of a transport error. -/
def message : TransportError → String
  | writeFailed => "bus write failed"
  | noAck => "no acknowledgement from destination"
  | oversize length => s!"packet of {length} bytes exceeds the MTU"
  | busDisabled => "bus access disabled"

/-- The status that a transport error is answered with. -/
def status : TransportError → ErrorCode
  | writeFailed => .fail
  | noAck => .noAck
  | oversize _ => .size
  | busDisabled => .off

end TransportError

/-- Number of a port. -/
abbrev Port := Nat

/-- What a look at a port's inbox found. -/
inductive Reception where
  | nothing
  /-- A packet was lost, because the port was not connected. -/
  | lost
  | failed (error : TransportError)
  | packet (bytes : Bytes)
deriving DecidableEq, Inhabited

/-- A world with a link in it. -/
class Link (W : Type) where
  /-- Writes a packet from a port to an address. -/
  write : Port → Address → Bytes → W → Except TransportError Unit × W
  /-- Takes the next packet from a port's inbox. -/
  receive : Port → W → Reception × W
  /-- Makes a port answer at an address. -/
  setAddress : Port → Address → W → W

/-- A world in which modules have isolation lines, each at its port. -/
class Lines (W : Type) where
  /-- Drives the request line. -/
  setRequest : Port → Bool → W → W
  /-- The grant line is asserted. -/
  isGranted : W → Port → Bool
  /-- Switches the lamp that shows a handshake in progress. -/
  setIndicator : Port → Bool → W → W

/-- Writes packets one after another until one fails, and counts their bytes. -/
def writeAll {W : Type} [Link W] (port : Port) (destination : Address) :
    List Bytes → W → Except TransportError Nat × W
  | [], w => (.ok 0, w)
  | packet :: rest, w =>
    match Link.write port destination packet w with
    | (.error e, w) => (.error e, w)
    | (.ok (), w) =>
      let (written, w) := writeAll port destination rest w
      (written.map (packet.length + ·), w)

end ModuleBus

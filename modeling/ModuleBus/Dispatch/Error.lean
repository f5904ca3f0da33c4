import ModuleBus.Link
import ModuleBus.Packet.Header
import ModuleBus.Seal.Suite

set_option autoImplicit false

/-! # Why a message was not delivered or a call not answered -/

namespace ModuleBus

/-- Why a message was not delivered or a call not answered. -/
inductive DispatchError where
  | codec (error : CodecError)
  | transport (error : TransportError)
  | unsealed (error : SealError)
  /-- The same request to the same peer is still waiting for its reply. -/
  | busy
  | timeout
  /-- The peer refused the request. -/
  | remote (code : ErrorCode)
  /-- The reply makes no sense. -/
  | malformed
deriving DecidableEq

namespace DispatchError

/-- The text of a dispatch error. -/
def message : DispatchError → String
  | codec error => "codec: " ++ error.message
  | transport error => "transport: " ++ error.message
  | unsealed error => "seal: " ++ error.message
  | busy => "an identical request is already outstanding"
  | timeout => "no reply before the timeout"
  | remote code => "peer replied " ++ code.message
  | malformed => "malformed reply"

/-- The status that a dispatch error is answered with. -/
def status : DispatchError → ErrorCode
  | codec (.payloadTooLarge _) => .size
  | codec _ => .fail
  | transport error => error.status
  | unsealed _ => .fail
  | busy => .busy
  | timeout => .fail
  | remote code => code
  | malformed => .invalid

end DispatchError

end ModuleBus

import ModuleBus.ErrorCode
import ModuleBus.Text.Basic
import ModuleBus.Text.Utf8

set_option autoImplicit false

/-! # Topic messages

What modules publish and what arrives from outside has one layout: a topic and some data, each
behind a length byte. A module publishes under its topic and its own name (`publishPayload`); the
radio forwards messages to the controller (`subscribePayload`), where they may be commands that
switch modules (`DownlinkCommand`). -/

namespace ModuleBus

/-- Data under a topic. -/
structure TopicMessage where
  topic : String
  data : Bytes
deriving DecidableEq, Inhabited

namespace TopicMessage

/-- Bytes of a published topic before the module's name. -/
def maxPublishTopic : Nat := 14

/-- Bytes of a forwarded topic. -/
def maxSubscribeTopic : Nat := 28

/-- The data behind a length byte, and the rest. -/
def field? : Bytes → Option (Bytes × Bytes)
  | [] => none
  | length :: rest =>
    if rest.length < length.toNat then none
    else some (rest.take length.toNat, rest.drop length.toNat)

/-- The topic message at the start of a payload. -/
def parse (payload : Bytes) : Except ErrorCode TopicMessage :=
  match field? payload with
  | none => .error .size
  | some (topic, rest) =>
    match field? rest with
    | none => .error .size
    | some (data, _) => .ok ⟨Utf8.textLossy topic, data⟩

/-- The payload of a topic and some data, when both lengths fit a byte. -/
def encode (topic data : Bytes) : Except ErrorCode Bytes :=
  if topic.length > 255 ∨ data.length > 255 then .error .size
  else .ok (UInt8.ofNat topic.length :: (topic ++ UInt8.ofNat data.length :: data))

/-- The payload that forwards a message to the controller. -/
def subscribePayload (m : TopicMessage) : Except ErrorCode Bytes :=
  if (Utf8.ofText m.topic).length > maxSubscribeTopic then .error .size
  else encode (Utf8.ofText m.topic) m.data

/-- The topic that a module publishes under: its own topic cut short, a slash unless one is there
already, and the module's name. -/
def publishTopic (topic name : String) : Bytes :=
  let slash : UInt8 := 0x2f
  let topic := (Utf8.ofText topic).take maxPublishTopic
  let name := Utf8.ofText name
  if topic.head? = some slash ∨ name.getLast? = some slash then topic ++ name
  else topic ++ slash :: name

/-- The payload that publishes data under a module's topic and name. -/
def publishPayload (topic name : String) (data : Bytes) : Except ErrorCode Bytes :=
  encode (publishTopic topic name) data

end TopicMessage

/-! ## Commands from outside -/

/-- The topic that addresses the whole post. -/
def signpostTopic : String := "signpost"

/-- A command that arrives under a topic. -/
inductive DownlinkCommand where
  | on (name : String)
  | off (name : String)
  | reset (name : String)
  /-- The hardware watchdog is no longer fed, so that the board resets. -/
  | hardReset
deriving DecidableEq

namespace DownlinkCommand

/-- The command in a message. The data is an action, blanks and trailing zeros aside; the topic
names a module, or the whole post, which knows one action only. -/
def parse? (m : TopicMessage) : Option DownlinkCommand :=
  let isZero (c : Char) : Bool := c == '\x00'
  let action := trimBlanks (trimEnd isZero (Utf8.decodeLossy m.data))
  let name := String.ofList (trimEnd isZero m.topic.toList)
  if name = signpostTopic then
    if action = "reset".toList then some .hardReset else none
  else if action = "on".toList then some (.on name)
  else if action = "off".toList then some (.off name)
  else if action = "reset".toList then some (.reset name)
  else none

end DownlinkCommand

end ModuleBus

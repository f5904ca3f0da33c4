import ModuleBus.Bench.Desk
import ModuleBus.Bench.Handlers
import ModuleBus.Report.Errors
import ModuleBus.Report.Values

set_option autoImplicit false

/-! # Reports of the bench

What participants wrote, what handlers and uplinks were given, and what a board on a desk shows.
Sealed bodies and public points are different in every run, so that only their size or beginning
is shown. -/

namespace ModuleBus

/-- The body of a packet holds a whole public point behind its envelope. -/
def isPointBody (body : Bytes) : Bool :=
  body.length == 3 + publicPointSize && (body.head? == some 1 || body.head? == some 2)
    && (body.drop 1).take 2 == [1, 1]

/-- The report of a packet: the bytes of its header, and its body. -/
def packetReport (packet : Bytes) : List Json :=
  match Header.parse packet with
  | .error _ => [packet]
  | .ok h =>
    let body := packet.drop headerSize
    [packet.take headerSize,
      if h.sealed then .record [("sealed", body.length)]
      else if isPointBody body then .record [("point", body.take 4)]
      else body]

/-- Packets by the node that wrote them. -/
def trafficReport (written : List Written) : Json :=
  .record ((written.map Written.node).eraseDups.map fun node =>
    (toString node, .array ((written.filter fun w => w.node == node).map fun w =>
      .array (report w.destination :: packetReport w.packet))))

instance : Reported Handled where
  report h :=
    let m := h.message
    let isPoint := m.payload.length == publicPointSize && m.service == .initialization
      && m.type == InitializationRequest.exchangeKey.toByte
    .record (m.reportWith (if isPoint then "point" else m.payload)
      ++ (h.failure.map fun code => ("failed", report code.code)).toList)

instance : Reported Sighting := ⟨fun s => .array [s.source, s.message.topic, s.message.data]⟩

instance : Reported LineChange where
  report l := .array [toMillis l.time, if l.isIndicator then "indicator" else "request", l.on]

instance : Reported Edge := ⟨fun e => .array [toMillis e.time, e.slot, e.on]⟩

/-- What a board shows, with the changes of its rails since the last time. -/
def DeskBoard.takeReport (b : DeskBoard) : Json × DeskBoard :=
  let (edges, b) := b.takeEdges
  (.record [("power", b.power), ("bus", b.bus), ("grants", b.grants), ("offs", b.powerOffs),
    ("pulses", b.pulses), ("edges", edges)], b)

end ModuleBus

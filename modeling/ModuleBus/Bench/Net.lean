import ModuleBus.Bench.Handlers
import ModuleBus.Packet.Header

set_option autoImplicit false

/-! # A link in memory

Nodes with an inbox and an address each. A write goes to the first node that answers at the
destination. Writes and receives can be made to fail, and the grant line of a module that goes
through its handshake follows a script. -/

namespace ModuleBus

/-- Packets that a node holds at most. -/
def nodeCapacity : Nat := 64

/-- A node of the link. -/
structure NetNode where
  address : Address
  inbox : List Bytes
  /-- What the next writes fail with. -/
  writeFaults : List TransportError
  /-- What the next receives fail with. -/
  receiveFaults : List TransportError
deriving DecidableEq

/-- A packet that a node has written. -/
structure Written where
  node : Port
  destination : Address
  packet : Bytes
deriving DecidableEq

/-- A line that a module has driven. -/
structure LineChange where
  time : Nat
  /-- The lamp rather than the request line. -/
  isIndicator : Bool
  on : Bool
deriving DecidableEq

/-- The link, with the lines of the module in its handshake. -/
structure Net where
  time : Nat
  nodes : List NetNode
  /-- Packets that were accepted, newest first. -/
  written : List Written
  isGranted : Bool
  /-- Changes of the lines, newest first. -/
  lines : List LineChange
deriving DecidableEq

namespace Net

/-- A link of nodes with the given addresses. -/
def start (addresses : List Address) : Net :=
  ⟨0, addresses.map fun a => ⟨a, [], [], []⟩, [], false, []⟩

/-- The link with a node changed. -/
def modify (n : Net) (p : Port) (f : NetNode → NetNode) : Net :=
  { n with nodes := n.nodes.modify p f }

/-- Puts packets into the inbox of a node, as far as there is room. -/
def inject (n : Net) (p : Port) (packets : List Bytes) : Net :=
  n.modify p fun node => { node with inbox := (node.inbox ++ packets).take nodeCapacity }

/-- Empties the inbox of a node. -/
def drain (n : Net) (p : Port) : List Bytes × Net :=
  (((n.nodes[p]?).map NetNode.inbox).getD [], n.modify p fun node => { node with inbox := [] })

/-- Makes the next writes of a node fail, and no others. -/
def failWrites (n : Net) (p : Port) (faults : List TransportError) : Net :=
  n.modify p fun node => { node with writeFaults := faults }

/-- Makes further receives of a node fail. -/
def failReceives (n : Net) (p : Port) (faults : List TransportError) : Net :=
  n.modify p fun node => { node with receiveFaults := node.receiveFaults ++ faults }

/-- The packets written since the last time, oldest first. -/
def takeWritten (n : Net) : List Written × Net :=
  (n.written.reverse, { n with written := [] })

/-- Writes a packet to the node that answers at an address. -/
def deliver (p : Port) (a : Address) (packet : Bytes) (n : Net) :
    Except TransportError Unit × Net :=
  if packet.length > maxPacket then (.error (.oversize packet.length), n)
  else
    match n.nodes.findIdx? fun node => node.address == a with
    | none => (.error .noAck, n)
    | some q =>
      if ((n.nodes[q]?).map fun node => node.inbox.length).getD 0 ≥ nodeCapacity then
        (.error .writeFailed, n)
      else
        (.ok (), { n.modify q fun node => { node with inbox := node.inbox ++ [packet] } with
          written := ⟨p, a, packet⟩ :: n.written })

/-- Writes a packet, unless the write is made to fail. -/
def write (p : Port) (a : Address) (packet : Bytes) (n : Net) : Except TransportError Unit × Net :=
  match (n.nodes[p]?).map NetNode.writeFaults with
  | some (fault :: rest) => (.error fault, n.modify p fun node => { node with writeFaults := rest })
  | _ => n.deliver p a packet

/-- Takes the next packet, unless the receive is made to fail. -/
def receive (p : Port) (n : Net) : Reception × Net :=
  match n.nodes[p]? with
  | none => (.nothing, n)
  | some node =>
    match node.receiveFaults, node.inbox with
    | fault :: rest, _ =>
      (.failed fault, n.modify p fun node => { node with receiveFaults := rest })
    | [], packet :: rest => (.packet packet, n.modify p fun node => { node with inbox := rest })
    | [], [] => (.nothing, n)

/-- Notes a change of a line. -/
def noteLine (isIndicator on : Bool) (n : Net) : Net :=
  { n with lines := ⟨n.time, isIndicator, on⟩ :: n.lines }

end Net

instance : Link Net where
  write := Net.write
  receive := Net.receive
  setAddress p a n := n.modify p fun node => { node with address := a }

instance : Lines Net where
  setRequest _ on n := n.noteLine false on
  isGranted n _ := n.isGranted
  setIndicator _ on n := n.noteLine true on

instance : Timed Net where
  setTime time n := { n with time := time }

/-! ## The script of a grant line -/

/-- Levels that the grant line takes at given moments, the timer for the first of them set. -/
structure GrantScript where
  timer : Timer
  levels : List (Nat × Bool)
deriving DecidableEq

namespace GrantScript

/-- A script that is over. -/
def none : GrantScript := ⟨⟨0, 0⟩, []⟩

/-- The script with the timer for its first level set. -/
def arm (clock : Clock) (levels : List (Nat × Bool)) : GrantScript :=
  ⟨clock.at ((levels.head?.map (·.1)).getD 0), levels⟩

/-- The next level, if its moment has come. -/
def step (clock : Clock) (s : GrantScript) (n : Net) : Option (GrantScript × Net) :=
  match s.levels with
  | [] => Option.none
  | (_, level) :: rest =>
    if s.timer.isOver clock then some (arm clock rest, { n with isGranted := level })
    else Option.none

end GrantScript

instance {H : Type} : Actor GrantScript H Net where
  act clock s stations n :=
    let (moved, s, n) :=
      repeatStep (fun (p : GrantScript × Net) => p.1.step clock p.2) stepsPerTurn (s, n)
    (moved, s, stations, n)
  wakes s := if s.levels.isEmpty then [] else [s.timer.due]

/-! ## The bench of a link -/

/-- A node of the link and what runs on it. -/
structure NodeDescription where
  address : Address
  settings : Settings
  services : List Service
  /-- Packets that arrive are taken in. -/
  listens : Bool
  handler : Option BenchHandler

/-- A link in memory on the bench; every node has the station of its number. -/
abbrev NetBench (α : Type) := Bench GrantScript BenchHandler Net α

namespace NetBench

variable {α : Type}

/-- The station of a node. -/
def station (port : Port) (n : NodeDescription) : Station BenchHandler where
  node := .start port n.address n.settings.dispatch n.services port
  listener := if n.listens then some (.start n.settings.dispatch) else none
  server := n.handler.map .start

/-- A link on which nothing has happened. -/
def start (nodes : List NodeDescription) : NetBench α where
  clock := ⟨0, 0⟩
  world := .start (nodes.map NodeDescription.address)
  stations := nodes.mapIdx station
  actor := .none
  errands := []

/-- Sets the grant line, which then takes the levels at so many milliseconds from now, and forgets
the changes of the other lines. -/
def scriptGrants (b : NetBench α) (granted : Bool) (levels : List (Nat × Bool)) : NetBench α :=
  { b with
    world := { b.world with isGranted := granted, lines := [] }
    actor := if levels.isEmpty then .none
      else .arm b.clock (levels.map fun (ms, on) => (b.clock.now + ofMillis ms, on)) }

/-- The packets written since the last time, oldest first. -/
def takeWritten (b : NetBench α) : List Written × NetBench α :=
  let (written, net) := b.world.takeWritten
  (written, { b with world := net })

/-- Takes the packets out of the inbox of a node. -/
def drain (b : NetBench α) (p : Port) : List Bytes × NetBench α :=
  let (packets, net) := b.world.drain p
  (packets, { b with world := net })

end NetBench

end ModuleBus

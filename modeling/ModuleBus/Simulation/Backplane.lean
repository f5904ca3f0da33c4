import ModuleBus.Controller.Board
import ModuleBus.Link
import ModuleBus.Packet.Header
import ModuleBus.Scene.Basic

set_option autoImplicit false

/-! # The simulated backplane

Power rails, bus switches, isolation lines, energy counters, battery and memory of one post, with
the ports of its participants. A module's port is connected while its slot is powered and its bus
switch closed; the controller's always is. A packet reaches the first connected port that answers
at its destination. Energies are floating-point numbers of microwatt-hours, so that every
participant's draw counts in every period, however short. -/

namespace ModuleBus

/-- Packets that a port holds at most. -/
def inboxCapacity : Nat := 32

/-- One participant's connection. -/
structure PortState where
  slot : Slot
  address : Address
  inbox : List Bytes
deriving DecidableEq

/-- The backplane of a post. -/
structure Backplane where
  power : PerSlot Bool
  bus : PerSlot Bool
  requests : PerSlot Bool
  grants : PerSlot Bool
  /-- Power drawn by each entity while it is on. -/
  draw : PerEntity Float
  /-- Energy used by each entity since the counters were last reset. -/
  counters : PerEntity Float
  battery : Float
  capacity : Float
  gauge : Bool
  memory : Bytes
  /-- Times that the hardware watchdog was fed. -/
  pulses : Nat
  /-- Times that each slot was switched off. -/
  powerOffs : PerSlot Nat
  ports : List PortState

namespace Backplane

/-- The backplane of a scene, with every rail off and no ports. -/
def ofScene (scene : Scene) : Backplane :=
  let base : PerEntity Float :=
    ((PerEntity.constant 0.0).set .controller scene.controllerDraw).set .house scene.houseDraw
  { power := PerSlot.constant false
    bus := PerSlot.constant false
    requests := PerSlot.constant false
    grants := PerSlot.constant false
    draw := scene.modules.foldl
      (fun (draw : PerEntity Float) m => match Slot.ofNat? m.slot with
        | some s => draw.set (.module s) m.draw
        | none => draw)
      base
    counters := PerEntity.constant 0.0
    battery := Float.ofNat scene.battery.start
    capacity := Float.ofNat scene.battery.capacity
    gauge := scene.battery.gauge
    memory := []
    pulses := 0
    powerOffs := PerSlot.constant 0
    ports := [] }

/-- The backplane with one more port. -/
def attach (b : Backplane) (s : Slot) (a : Address) : Backplane :=
  { b with ports := b.ports ++ [⟨s, a, []⟩] }

/-- A slot whose port can send and receive. -/
def isConnected (b : Backplane) (s : Slot) : Bool :=
  s == Slot.controller || (b.power.get s && b.bus.get s)

/-- The slot of a port. -/
def slotOf (b : Backplane) (p : Port) : Slot :=
  match b.ports[p]? with
  | some port => port.slot
  | none => Slot.controller

/-- The slot of a port is powered. -/
def isPowered (b : Backplane) (p : Port) : Bool := b.power.get (b.slotOf p)

/-- The backplane with a port changed. -/
def modifyPort (b : Backplane) (p : Port) (f : PortState → PortState) : Backplane :=
  { b with ports := b.ports.modify p f }

/-- Drops what waits at a port. -/
def flush (b : Backplane) (p : Port) : Backplane :=
  b.modifyPort p fun port => { port with inbox := [] }

/-- The port that a packet for an address goes to. -/
def route? (b : Backplane) (a : Address) : Option Port :=
  b.ports.findIdx? fun port => port.address == a && b.isConnected port.slot

/-! ## Energy -/

/-- A number kept between two others. -/
def clamp (low high x : Float) : Float := if x < low then low else if x > high then high else x

/-- The entity draws power. -/
def isOn (b : Backplane) : Entity → Bool
  | .module s => b.power.get s
  | _ => true

/-- Some seconds pass: what is on uses energy, and the battery takes the harvest. -/
def advance (b : Backplane) (seconds harvest : Float) : Backplane :=
  let on := Entity.all.filter b.isOn
  let total := on.foldl (fun total e => total + b.draw.get e) 0.0
  { b with
    counters := on.foldl
      (fun (counters : PerEntity Float) e =>
        counters.set e (counters.get e + b.draw.get e * seconds / 3600.0))
      b.counters
    battery := clamp 0.0 b.capacity (b.battery + (harvest - total) * seconds / 3600.0) }

/-- Takes some energy at once for a slot. -/
def spend (b : Backplane) (s : Slot) (energy : Nat) : Backplane :=
  let left := b.battery - Float.ofNat energy
  { b with
    counters := b.counters.set (.module s) (b.counters.get (.module s) + Float.ofNat energy)
    battery := if left > 0.0 then left else 0.0 }

/-- Whole units of an energy, within 32 bits. -/
def wholeUnits (x : Float) : Nat := x.toUInt32.toNat

/-! ## The board and the link -/

/-- Switches the power rail of a slot. A module without power cannot hold its request line. -/
def setPower (s : Slot) (on : Bool) (b : Backplane) : Backplane :=
  { b with
    power := b.power.set s on
    requests := if on then b.requests else b.requests.set s false
    powerOffs := if b.power.get s && !on then b.powerOffs.set s (b.powerOffs.get s + 1)
      else b.powerOffs }

instance : Board Backplane where
  setPower := setPower
  setBus s on b := { b with bus := b.bus.set s on }
  isRequesting b s := b.requests.get s
  setGrant s on b := { b with grants := b.grants.set s on }
  feedWatchdog b := { b with pulses := b.pulses + 1 }
  counter b e := wholeUnits (b.counters.get e)
  resetCounters b := { b with counters := PerEntity.constant 0.0 }
  charge? b := if b.gauge then some (wholeUnits b.battery) else none
  readMemory b offset count := .ok ((b.memory.drop offset).take count)
  writeMemory offset data b := (.ok (), { b with memory := extendMemory b.memory offset data })

/-- Writes a packet from a port to an address. -/
def write (p : Port) (a : Address) (packet : Bytes) (b : Backplane) :
    Except TransportError Unit × Backplane :=
  if !b.isConnected (b.slotOf p) then (.error .busDisabled, b)
  else if packet.length > maxPacket then (.error (.oversize packet.length), b)
  else
    match b.route? a with
    | none => (.error .noAck, b)
    | some q =>
      if ((b.ports[q]?).map fun port => port.inbox.length).getD 0 ≥ inboxCapacity then
        (.error .writeFailed, b)
      else (.ok (), b.modifyPort q fun port => { port with inbox := port.inbox ++ [packet] })

/-- Takes the next packet from a port's inbox; it is lost while the port is not connected. -/
def receive (p : Port) (b : Backplane) : Reception × Backplane :=
  match (b.ports[p]?).map PortState.inbox with
  | some (packet :: rest) =>
    let taken := b.modifyPort p fun port => { port with inbox := rest }
    (if b.isConnected (b.slotOf p) then .packet packet else .lost, taken)
  | _ => (.nothing, b)

/-- Takes packets from a port's inbox until one is not lost. -/
def receiveNext (p : Port) (b : Backplane) : Reception × Backplane :=
  go (inboxCapacity + 1) b
where
  /-- Looks at so many packets at most. -/
  go : Nat → Backplane → Reception × Backplane
    | 0, b => (.nothing, b)
    | fuel + 1, b =>
      match receive p b with
      | (.lost, b) => go fuel b
      | other => other

instance : Link Backplane where
  write := write
  receive := receive
  setAddress p a b := b.modifyPort p fun port => { port with address := a }

instance : Lines Backplane where
  setRequest p on b :=
    let s := b.slotOf p
    { b with requests := b.requests.set s (on && b.power.get s) }
  isGranted b p := b.grants.get (b.slotOf p)
  setIndicator _ _ b := b

end Backplane

end ModuleBus

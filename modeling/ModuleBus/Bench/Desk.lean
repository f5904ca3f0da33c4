import ModuleBus.Bench.Net
import ModuleBus.Controller.Coordinator

set_option autoImplicit false

/-! # The coordinator on a desk

A coordinator with a board of which every line can be set and read, and a link whose other nodes
only collect packets. Its events are run one at a time, each to its end. -/

namespace ModuleBus

/-! ## The board -/

/-- A change of a power rail. -/
structure Edge where
  time : Nat
  slot : Slot
  on : Bool
deriving DecidableEq

/-- A board of which every line can be set and read. -/
structure DeskBoard where
  time : Nat
  power : PerSlot Bool
  bus : PerSlot Bool
  requests : PerSlot Bool
  grants : PerSlot Bool
  /-- Times that each slot was switched off. -/
  powerOffs : PerSlot Nat
  /-- Times that the hardware watchdog was fed. -/
  pulses : Nat
  counters : PerEntity Nat
  battery : Option Nat
  memory : Bytes
  /-- What reads of the memory fail with. -/
  readFailure : Option String
  /-- What writes to the memory fail with. -/
  writeFailure : Option String
  /-- Changes of the rails, newest first. -/
  edges : List Edge
deriving DecidableEq

namespace DeskBoard

/-- A board with all rails and bus switches at one level. -/
def start (power bus : Bool) (battery : Option Nat) (memory : Bytes)
    (readFailure writeFailure : Option String) : DeskBoard where
  time := 0
  power := PerSlot.constant power
  bus := PerSlot.constant bus
  requests := PerSlot.constant false
  grants := PerSlot.constant false
  powerOffs := PerSlot.constant 0
  pulses := 0
  counters := PerEntity.constant 0
  battery := battery
  memory := memory
  readFailure := readFailure
  writeFailure := writeFailure
  edges := []

/-- Switches the power rail of a slot. -/
def setPower (s : Slot) (on : Bool) (b : DeskBoard) : DeskBoard :=
  { b with
    power := b.power.set s on
    powerOffs := if b.power.get s && !on then b.powerOffs.set s (b.powerOffs.get s + 1)
      else b.powerOffs
    edges := if b.power.get s == on then b.edges else ⟨b.time, s, on⟩ :: b.edges }

/-- Sets the counter of an entity. -/
def setCounter (b : DeskBoard) (e : Entity) (energy : Nat) : DeskBoard :=
  { b with counters := b.counters.set e energy }

/-- Drives the request lines of some slots. -/
def request (b : DeskBoard) (slots : List Slot) (on : Bool) : DeskBoard :=
  { b with requests := slots.foldl (fun requests s => requests.set s on) b.requests }

/-- The changes of the rails since the last time, oldest first. -/
def takeEdges (b : DeskBoard) : List Edge × DeskBoard := (b.edges.reverse, { b with edges := [] })

instance : Board DeskBoard where
  setPower := setPower
  setBus s on b := { b with bus := b.bus.set s on }
  isRequesting b s := b.requests.get s
  setGrant s on b := { b with grants := b.grants.set s on }
  feedWatchdog b := { b with pulses := b.pulses + 1 }
  counter b e := b.counters.get e
  resetCounters b := { b with counters := PerEntity.constant 0 }
  charge? b := b.battery
  readMemory b offset count := match b.readFailure with
    | some text => .error text
    | none => .ok ((b.memory.drop offset).take count)
  writeMemory offset data b := match b.writeFailure with
    | some text => (.error text, b)
    | none => (.ok (), { b with memory := extendMemory b.memory offset data })

end DeskBoard

/-! ## The scheduler on a desk -/

/-- An isolation scheduler with its table and board. -/
structure SchedulerDesk where
  isolation : Isolation
  modules : ModuleTable
  board : DeskBoard
deriving DecidableEq

/-- The desk with its board changed. -/
def SchedulerDesk.onBoard (d : SchedulerDesk) (f : DeskBoard → DeskBoard) : SchedulerDesk :=
  { d with board := f d.board }

/-- One whole tick; the time that a slot is off passes. -/
def SchedulerDesk.tick (d : SchedulerDesk) : IsolationEvent × SchedulerDesk :=
  match d.isolation.tick d.modules d.board with
  | (.done event, isolation, modules, board) => (event, ⟨isolation, modules, board⟩)
  | (.cycling s, isolation, modules, board) =>
    let later := { board with time := board.time + ofMillis isolation.settings.powerCycle }
    let (event, isolation, modules, board) := isolation.finishCycle modules s later
    (event, ⟨isolation, modules, board⟩)

/-! ## The accounts on a desk -/

/-- Energy accounts with their board. -/
structure AccountsDesk where
  accounts : Accounts
  board : DeskBoard
deriving DecidableEq

namespace AccountsDesk

/-- Accounts that are opened at a time, from what a ledger keeps if there is one. -/
def boot (settings : EnergySettings) (persisted : Option Ledger) (now : Nat) (board : DeskBoard) :
    AccountsDesk :=
  ⟨.boot settings (Board.charge? board) persisted now, Board.resetCounters board⟩

/-- One accounting period. -/
def update (now : Nat) (d : AccountsDesk) : PeriodSummary × AccountsDesk :=
  let (summary, accounts) := d.accounts.update (Board.counter d.board) (Board.charge? d.board) now
  (summary, ⟨accounts, Board.resetCounters d.board⟩)

/-- Charges energy to another entity. -/
def transfer (reporter consumer : Entity) (energy : Nat) (d : AccountsDesk) : Bool × AccountsDesk :=
  let (ok, accounts) := d.accounts.transfer reporter consumer energy
  (ok, { d with accounts := accounts })

/-- Counts the use of an entity from zero. -/
def reset (e : Entity) (now : Nat) (d : AccountsDesk) : AccountsDesk :=
  { d with accounts := d.accounts.reset e (Board.counter d.board e) now }

end AccountsDesk

/-! ## The coordinator on a desk -/

/-- A link and a board. -/
structure DeskWorld where
  net : Net
  board : DeskBoard
deriving DecidableEq

namespace DeskWorld

/-- The world with its board changed. -/
def onBoard (f : DeskBoard → DeskBoard) (w : DeskWorld) : DeskWorld :=
  { w with board := f w.board }

instance : Link DeskWorld where
  write p a packet w := let (r, net) := w.net.write p a packet; (r, { w with net := net })
  receive p w := let (r, net) := w.net.receive p; (r, { w with net := net })
  setAddress p a w := { w with net := Link.setAddress p a w.net }

instance : Board DeskWorld where
  setPower s on := onBoard (Board.setPower s on)
  setBus s on := onBoard (Board.setBus s on)
  isRequesting w := Board.isRequesting w.board
  setGrant s on := onBoard (Board.setGrant s on)
  feedWatchdog := onBoard Board.feedWatchdog
  counter w := Board.counter w.board
  resetCounters := onBoard Board.resetCounters
  charge? w := Board.charge? w.board
  readMemory w := Board.readMemory w.board
  writeMemory offset data w :=
    let (r, board) := Board.writeMemory offset data w.board
    (r, { w with board := board })

instance : Timed DeskWorld where
  setTime time w := ⟨{ w.net with time := time }, { w.board with time := time }⟩

end DeskWorld

/-- A coordinator in its world. -/
structure Desk where
  clock : Clock
  coordinator : Coordinator
  endpoint : Endpoint DeskWorld

namespace Desk

/-- A coordinator that boots on a board, on a link with some other nodes. -/
def boot (settings : Settings) (board : DeskBoard) (peers : List Address) : Desk :=
  let node := Dispatcher.start 0 .controller settings.dispatch Coordinator.services 0
  let (coordinator, world) :=
    Coordinator.boot settings 0 (⟨Net.start (.controller :: peers), board⟩ : DeskWorld)
  ⟨⟨0, 0⟩, coordinator, ⟨node, world⟩⟩

/-- Moves the clock, at least to the next turn. -/
def goTo (d : Desk) (time : Nat) : Desk :=
  let now := max d.clock.now time
  { d with
    clock := ⟨now, d.clock.turn + 1⟩
    endpoint := { d.endpoint with world := Timed.setTime now d.endpoint.world } }

/-- Lets some milliseconds pass. -/
def advance (d : Desk) (ms : Nat) : Desk := d.goTo (d.clock.now + ofMillis ms)

/-- Pauses of one event at most: a try of an error reply or a slot each. -/
def maxPauses : Nat := 300

/-- Runs an event to its end. -/
def finish : (fuel : Nat) → Option Pause → Desk → Desk
  | 0, _, d => d
  | _, none, d => d
  | fuel + 1, some pause, d =>
    let d := d.goTo pause.timer.due
    let (next, coordinator, endpoint) := d.coordinator.resume d.clock pause d.endpoint
    finish fuel next { d with coordinator := coordinator, endpoint := endpoint }

/-- The desk with its endpoint changed. -/
def update (d : Desk) (f : Endpoint DeskWorld → Endpoint DeskWorld) : Desk :=
  { d with endpoint := f d.endpoint }

/-- The board. -/
def board (d : Desk) : DeskBoard := d.endpoint.world.board

/-- The desk with its board changed. -/
def onBoard (d : Desk) (f : DeskBoard → DeskBoard) : Desk :=
  d.update fun e => { e with world := e.world.onBoard f }

/-- Makes the next writes of the coordinator fail. -/
def failWrites (d : Desk) (faults : List TransportError) : Desk :=
  d.update fun e => { e with world := { e.world with net := e.world.net.failWrites 0 faults } }

/-- The packets written since the last time, oldest first. -/
def takeWritten (d : Desk) : List Written × Desk :=
  let (written, net) := d.endpoint.world.net.takeWritten
  (written, d.update fun e => { e with world := { e.world with net := net } })

/-- Gives the coordinator a fix of the satellite receiver. -/
def setFix (d : Desk) (fix : Fix) : Desk :=
  { d with coordinator := { d.coordinator with fix := some fix } }

/-- Runs an event of the coordinator on its board. -/
def run (d : Desk)
    (event : Coordinator → Clock → DeskWorld → Option Pause × Coordinator × DeskWorld) : Desk :=
  let (pause, coordinator, world) := event d.coordinator d.clock d.endpoint.world
  finish maxPauses pause
    { d with coordinator := coordinator, endpoint := { d.endpoint with world := world } }

/-- One accounting period. -/
def energyUpdate (d : Desk) : Desk := d.run fun c clock w => (none, c.energyUpdate clock.now w)

/-- One check of the watchdogs. -/
def checkWatchdogs (d : Desk) : Desk := d.run fun c clock w => c.checkWatchdogs clock w

/-- Wakes the slots whose sleep is over. -/
def wakeDue (d : Desk) : Desk := d.run fun c clock w => (none, c.wakeDue clock.now w)

/-- Follows a command from outside. -/
def applyDownlink (d : Desk) (command : DownlinkCommand) : Desk :=
  d.run fun c clock w => c.applyDownlink clock command w

/-- One tick of the isolation scheduler. -/
def tick (d : Desk) : IsolationEvent × Desk :=
  match d.coordinator.isolationTick d.endpoint with
  | (.done event, coordinator, endpoint) =>
    (event, { d with coordinator := coordinator, endpoint := endpoint })
  | (.cycling s, coordinator, endpoint) =>
    let timer := d.clock.after coordinator.isolation.settings.powerCycle
    (.powerCycled s, finish maxPauses (some (.cycling s timer))
      { d with coordinator := coordinator, endpoint := endpoint })

/-- Handles a request; a refusal is given and not sent. -/
def handle (d : Desk) (m : Message) : Except ErrorCode Unit × Desk :=
  match d.coordinator.handle d.clock m d.endpoint with
  | (.error code, coordinator, endpoint) =>
    (.error code, { d with coordinator := coordinator, endpoint := endpoint })
  | (.ok pause, coordinator, endpoint) =>
    (.ok (), finish maxPauses pause { d with coordinator := coordinator, endpoint := endpoint })

/-- Handles a request and answers it. -/
def receive (d : Desk) (m : Message) : Desk :=
  let (pause, coordinator, endpoint) := d.coordinator.receive d.clock m d.endpoint
  finish maxPauses pause { d with coordinator := coordinator, endpoint := endpoint }

end Desk

end ModuleBus

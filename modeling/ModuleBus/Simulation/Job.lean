import ModuleBus.Bench.Basic
import ModuleBus.Bench.Handlers
import ModuleBus.Simulation.Backplane
import ModuleBus.Simulation.Summary

set_option autoImplicit false

/-! # The life of a module

A module lives through any number of losses of power. Each time it is switched on it starts with
an empty key store at its own address, goes through the handshake, and does its work until the
power is lost: the storage module serves its logs, the radio serves publishers, reports what their
uplinks cost and forwards messages from outside, and a sensor samples, stores, publishes, tickles
its watchdog and looks at its budget. The logs and the costs not yet reported outlive a loss of
power. -/

namespace ModuleBus

/-- Bytes that the logs of the storage module hold. -/
def storageCapacity : Nat := 1024 * 1024

/-- The topic that sensors publish under. -/
def sampleTopic : String := "sample"

/-! ## Costs -/

/-- Energy owed by publishers, in the order of their addresses. -/
abbrev Costs := List (Address × Nat)

/-- Adds to what an address owes. -/
def Costs.add (a : Address) (energy : Nat) : Costs → Costs
  | [] => [(a, energy)]
  | (b, owed) :: rest =>
    if a = b then (b, owed + energy) :: rest
    else if a.value < b.value then (a, energy) :: (b, owed) :: rest
    else (b, owed) :: Costs.add a energy rest

/-- The entries of the report of some costs. -/
def Costs.entries (costs : Costs) : List ReportEntry :=
  costs.map fun (a, energy) => ⟨UInt16.ofNat a.value.toNat, UInt32.ofNat energy⟩

/-- The radio's side of publishing. -/
structure Relay where
  slot : Slot
  /-- Probability that an uplink succeeds. -/
  success : Float
  /-- Energy of an uplink. -/
  cost : Nat
  /-- What publishers owe that was not reported yet. -/
  owed : Costs
  entropy : Entropy
  /-- Events, newest first. -/
  events : List SlotEvent

/-- A draw from the unit interval. -/
def Entropy.fraction (e : Entropy) : Float :=
  Float.ofNat (Bytes.toNatBE (e.bytes.take 4)) / Float.ofNat UInt32.size

instance : Handler Relay Backplane where
  handle clock m r b :=
    match publication? m with
    | .error code => (.fail code, r, b)
    | .ok _ =>
      let delivered := r.entropy.fraction < r.success
      let code : ErrorCode := if delivered then .success else .fail
      (.reply code.toPayload,
       { r with
         owed := if r.cost > 0 then r.owed.add m.source r.cost else r.owed
         entropy := r.entropy.next
         events := ⟨clock.now, r.slot, .uplink m.source delivered⟩ :: r.events },
       if r.cost > 0 then b.spend r.slot r.cost else b)

/-- A cold start: whatever the module knew is forgotten, and it answers at the given address. -/
def Endpoint.coldStart (e : Endpoint Backplane) (a : Address) : Endpoint Backplane :=
  ({ e with world := e.world.flush e.node.port }.update (·.clearKeys)).setAddress a

/-! ## States -/

/-- The radio's reports. -/
inductive Reporting where
  | forTicker
  | underway (exchanging : Exchanging Unit) (costs : Costs)

/-- The radio's messages from outside. -/
inductive Forwarding where
  /-- The messages that are left. -/
  | next (downlinks : List Downlink)
  /-- The first message waits for its time. -/
  | waiting (downlink : Downlink) (timer : Timer) (others : List Downlink)

/-- What a sensor is about. -/
inductive Sampling where
  | locating (x : Exchanging LocationInfo)
  | subscribing (x : Exchanging Unit)
  | timing (x : Exchanging DateTime)
  | storing (x : Exchanging StorageRecord)
  | publishing (x : Exchanging Int)
  | tickling (x : Exchanging Unit)
  | querying (x : Exchanging EnergyInformation)
  | sleeping (x : Exchanging Unit)
  | resting (timer : Timer)

/-- What a module is about. -/
inductive Activity where
  /-- It has no power. -/
  | off
  | shaking (handshake : Handshake)
  | storing
  | relaying (ticker : Nat) (reporting : Reporting) (forwarding : Forwarding)
  | sampling (samples : Nat) (reading : Nat) (stage : Sampling)

/-- A module with its work. -/
structure Job where
  description : ModuleDescription
  slot : Slot
  settings : Settings
  downlinks : List Downlink
  storage : Server LogStore
  relay : Server Relay
  activity : Activity
  /-- Events, newest first. -/
  events : List SlotEvent

namespace Job

/-- A module that has never had power. -/
def start (description : ModuleDescription) (slot : Slot) (settings : Settings)
    (downlinks : List Downlink) : Job where
  description := description
  slot := slot
  settings := settings
  downlinks := downlinks
  storage := .start (.empty (some storageCapacity))
  relay := .start ⟨slot, description.uplinkSuccess, description.uplinkCost, [], ⟨256 + slot.val, 0⟩,
    []⟩
  activity := .off
  events := []

/-- The address that a module starts at. -/
def factoryAddress : ModuleKind → Address
  | .storage => .storage
  | .radio => .radio
  | .sensor => .unassigned

/-- The services that a module answers for. -/
def servicesOf : ModuleKind → List Service
  | .storage => [.storage]
  | .radio => [.networking]
  | .sensor => []

/-- Notes an event. -/
def report (j : Job) (clock : Clock) (event : ModuleEvent) : Job :=
  { j with events := ⟨clock.now, j.slot, event⟩ :: j.events }

/-- Notes a call that failed. -/
def failed (j : Job) (clock : Clock) (what : String) (error : DispatchError) : Job :=
  j.report clock (.callFailed (what ++ ": " ++ error.message))

/-- Takes the events that were noted, oldest first. -/
def takeEvents (j : Job) : List SlotEvent × Job := (j.events.reverse, { j with events := [] })

/-- Takes over the events of the radio's handler. -/
def collect (j : Job) (relay : Server Relay) : Job :=
  { j with
    events := relay.handler.events ++ j.events
    relay := { relay with handler := { relay.handler with events := [] }, handled := [] } }

/-- The moments at which a module acts that nothing reaches. -/
def wakes (j : Job) : List Nat :=
  match j.activity with
  | .off => []
  | .shaking h => h.wake?.toList
  | .storing => j.storage.wake?.toList
  | .relaying ticker reporting forwarding =>
    let report := match reporting with
      | .forTicker => [ticker]
      | .underway x _ => x.wake?.toList
    let forward := match forwarding with
      | .next _ => []
      | .waiting _ timer _ => [timer.due]
    j.relay.wake?.toList ++ report ++ forward
  | .sampling _ _ stage =>
    match stage with
    | .locating x => x.wake?.toList
    | .subscribing x | .tickling x | .sleeping x => x.wake?.toList
    | .timing x => x.wake?.toList
    | .storing x => x.wake?.toList
    | .publishing x => x.wake?.toList
    | .querying x => x.wake?.toList
    | .resting timer => [timer.due]

/-! ## Switching on and off -/

/-- A module that is switched on. -/
def bootUp (j : Job) (clock : Clock) (e : Endpoint Backplane) : Job × Endpoint Backplane :=
  let e := e.coldStart (factoryAddress j.description.kind)
  let j := j.report clock .poweredOn
  let (h, e) := Handshake.start j.settings.handshake j.description.name clock e
  ({ j with activity := .shaking h }, e)

/-- Forgets the calls that a module waits for. -/
def abandonCalls (j : Job) (e : Endpoint Backplane) : Endpoint Backplane :=
  match j.activity with
  | .shaking h => h.abandonCall e
  | .relaying _ (.underway x _) _ => x.abandon e
  | .sampling _ _ stage =>
    match stage with
    | .locating x => x.abandon e
    | .subscribing x | .tickling x | .sleeping x => x.abandon e
    | .timing x => x.abandon e
    | .storing x => x.abandon e
    | .publishing x => x.abandon e
    | .querying x => x.abandon e
    | .resting _ => e
  | _ => e

/-- The power is lost: nothing that was going on goes on. -/
def losePower (j : Job) (clock : Clock) (e : Endpoint Backplane) : Job × Endpoint Backplane :=
  let e := j.abandonCalls e
  ({ j.report clock .powerLost with
     activity := .off
     storage := { j.storage with waiting := .forRequest }
     relay := { j.relay with waiting := .forRequest } }, e)

/-! ## The radio -/

/-- One step of the radio's reports, if there is anything to do. Costs that could not be reported
are kept for the next report. -/
def stepReporting (j : Job) (ticker : Nat) (reporting : Reporting) (clock : Clock)
    (e : Endpoint Backplane) : Option (Job × Nat × Reporting × Endpoint Backplane) :=
  let keep (j : Job) (owed : Costs) : Job :=
    { j with relay := { j.relay with handler := { j.relay.handler with owed := owed } } }
  match reporting with
  | .forTicker =>
    if clock.now < ticker then none
    else
      let ticker := ticker + ofMillis j.settings.energy.updateInterval
      let costs := j.relay.handler.owed
      if costs.isEmpty then some (j, ticker, .forTicker, e)
      else
        let exchange := Exchange.request (Client.reportEnergy costs.entries)
          j.settings.services.energy
        let (x, e) := Exchanging.start exchange clock e
        some (keep j [], ticker, .underway x costs, e)
  | .underway (.finished (.ok ())) costs =>
    some (j.report clock (.energyReported costs.length), ticker, .forTicker, e)
  | .underway (.finished (.error error)) costs =>
    let owed := costs.foldl (fun owed c => owed.add c.1 c.2) j.relay.handler.owed
    some (keep (j.failed clock "energy report" error) owed, ticker, .forTicker, e)
  | .underway x costs =>
    (x.step clock e).map fun (x, e) => (j, ticker, .underway x costs, e)

/-- One step of forwarding, if there is anything to do. A message whose time has passed is left
out. -/
def stepForwarding (j : Job) (forwarding : Forwarding) (clock : Clock) (e : Endpoint Backplane) :
    Option (Job × Forwarding × Endpoint Backplane) :=
  match forwarding with
  | .next [] => none
  | .next (d :: others) =>
    if ofMillis d.time < clock.now then some (j, .next others, e)
    else some (j, .waiting d (clock.at (ofMillis d.time)) others, e)
  | .waiting d timer others =>
    if !timer.isOver clock then none
    else
      let exchange : Exchange Unit := match Client.forward ⟨d.topic, Utf8.ofText d.data⟩ with
        | .error error => .refused error
        | .ok notice => .notice notice fun _ => ()
      match Exchanging.start exchange clock e with
      | (.finished (.error error), e) => some (j.failed clock "downlink" error, .next others, e)
      | (_, e) => some (j.report clock (.forwarded d.topic), .next others, e)

/-! ## Sensors -/

/-- The reading of a sensor, in hundredths, from 15 to 25. -/
def drawReading (e : Endpoint Backplane) : Nat × Endpoint Backplane :=
  (1500 + Bytes.toNatBE (e.node.entropy.bytes.take 4) % 1000,
   e.update fun d => { d with entropy := d.entropy.next })

/-- A reading as it is logged. -/
def readingText (reading : Nat) : String :=
  toString (reading / 100) ++ "." ++ DateTime.digits 2 (reading % 100)

/-- A reading as it is published: a little-endian floating-point number of 32 bits. -/
def readingBytes (reading : Nat) : Bytes :=
  Bytes.ofNatLE 4 (Float32.ofNat reading / 100).toBits.toNat

/-- Starts an exchange of a sensor. -/
def begin {α : Type} (x : Exchange α) (clock : Clock) (stage : Exchanging α → Sampling)
    (e : Endpoint Backplane) : Sampling × Endpoint Backplane :=
  let (x, e) := Exchanging.start x clock e
  (stage x, e)

/-- Begins the next sample: draws a reading and asks for the time. -/
def beginSample (j : Job) (samples : Nat) (clock : Clock) (e : Endpoint Backplane) :
    Job × Endpoint Backplane :=
  let (reading, e) := drawReading e
  let (stage, e) := begin (.request Client.getDateTime j.settings.services.timeLocation) clock
    .timing e
  ({ j with activity := .sampling (samples + 1) reading stage }, e)

/-- Asks for the budget. -/
def beginQuery (j : Job) (clock : Clock) (e : Endpoint Backplane) :
    Sampling × Endpoint Backplane :=
  begin (.request Client.queryEnergy j.settings.services.energy) clock .querying e

/-- The sensor no longer tickles its watchdog. -/
def isHung (j : Job) (samples : Nat) : Bool := j.description.hangAfter.any (· < samples)

/-- What follows publishing: the watchdog is tickled, if it is used and the sensor is not hung. -/
def afterPublishing (j : Job) (samples : Nat) (clock : Clock) (e : Endpoint Backplane) :
    Sampling × Endpoint Backplane :=
  if j.description.watchdog && !j.isHung samples then
    begin (.request Client.tickle j.settings.services.watchdog) clock .tickling e
  else
    let stops := j.isHung samples && j.description.hangAfter == some (samples - 1)
    j.beginQuery clock (if stops then e.note .warning else e)

/-- Rests until the next sample. -/
def beginRest (j : Job) (clock : Clock) : Sampling :=
  .resting (clock.after j.description.publishInterval)

/-- What follows the query: the sensor asks to sleep, if it does so after every sample. -/
def afterQuery (j : Job) (clock : Clock) (e : Endpoint Backplane) :
    Sampling × Endpoint Backplane :=
  match j.description.dutyCycle with
  | none => (j.beginRest clock, e)
  | some ms => begin (.notice (Client.sleep (UInt32.ofNat ms)) fun _ => ()) clock .sleeping e

/-- One step of a sensor, if there is anything to do. -/
def stepSampling (j : Job) (samples reading : Nat) (stage : Sampling) (clock : Clock)
    (e : Endpoint Backplane) : Option (Job × Endpoint Backplane) :=
  let go (j : Job) (next : Sampling × Endpoint Backplane) : Option (Job × Endpoint Backplane) :=
    some ({ j with activity := .sampling samples reading next.1 }, next.2)
  let timeouts := j.settings.services
  match stage with
  | .locating (.finished _) =>
    if j.description.watchdog then
      go j (begin (.request Client.startWatchdog timeouts.watchdog) clock .subscribing e)
    else some (j.beginSample samples clock e)
  | .subscribing (.finished result) =>
    let j := match result with
      | .ok () => j
      | .error error => j.failed clock "watchdog start" error
    some (j.beginSample samples clock e)
  | .timing (.finished result) =>
    let stamp := match result with
      | .ok time => time.text
      | .error _ => "-"
    let line := stamp ++ "," ++ readingText reading ++ "\n"
    go j (begin (Exchange.ofRequest timeouts.storage
      (Client.write j.description.name (Utf8.ofText line))) clock .storing e)
  | .storing (.finished result) =>
    let j := match result with
      | .ok record => j.report clock (.stored record.logName record.length.toNat)
      | .error error => j.failed clock "storage write" error
    go j (begin (Exchange.ofRequest timeouts.networking
      (Client.publish j.description.name sampleTopic (readingBytes reading))) clock .publishing e)
  | .publishing (.finished (.ok code)) =>
    let j := j.report clock (.published sampleTopic code)
    go j (j.afterPublishing samples clock e)
  | .publishing (.finished (.error error)) =>
    let j := j.failed clock "publish" error
    go j (j.afterPublishing samples clock e)
  | .tickling (.finished result) =>
    let j := match result with
      | .ok () => j
      | .error error => j.failed clock "watchdog tickle" error
    go j (j.beginQuery clock e)
  | .querying (.finished (.ok information)) =>
    let e := if information.critical then e.note .warning else e
    let j := j.report clock (.energyQueried information)
    go j (j.afterQuery clock e)
  | .querying (.finished (.error error)) =>
    let j := j.failed clock "energy query" error
    go j (j.afterQuery clock e)
  | .sleeping (.finished result) =>
    let j := match result with
      | .ok () => j.report clock (.sleepRequested (j.description.dutyCycle.getD 0))
      | .error error => j.failed clock "duty cycle" error
    go j (j.beginRest clock, e)
  | .resting timer => if timer.isOver clock then some (j.beginSample samples clock e) else none
  | .locating x => (x.step clock e).bind fun (x, e) => go j (.locating x, e)
  | .subscribing x => (x.step clock e).bind fun (x, e) => go j (.subscribing x, e)
  | .timing x => (x.step clock e).bind fun (x, e) => go j (.timing x, e)
  | .storing x => (x.step clock e).bind fun (x, e) => go j (.storing x, e)
  | .publishing x => (x.step clock e).bind fun (x, e) => go j (.publishing x, e)
  | .tickling x => (x.step clock e).bind fun (x, e) => go j (.tickling x, e)
  | .querying x => (x.step clock e).bind fun (x, e) => go j (.querying x, e)
  | .sleeping x => (x.step clock e).bind fun (x, e) => go j (.sleeping x, e)

/-! ## Living -/

/-- Begins the work of a module that has its address. -/
def beginWork (j : Job) (clock : Clock) (e : Endpoint Backplane) : Job × Endpoint Backplane :=
  match j.description.kind with
  | .storage => ({ j with activity := .storing }, e)
  | .radio =>
    let ticker := clock.now + ofMillis j.settings.energy.updateInterval
    ({ j with activity := .relaying ticker .forTicker (.next j.downlinks) }, e)
  | .sensor =>
    let (stage, e) := begin (.request Client.getLocation j.settings.services.timeLocation) clock
      .locating e
    ({ j with activity := .sampling 0 0 stage }, e)

/-- One step of a module with power, if there is anything to do. -/
def live (j : Job) (clock : Clock) (e : Endpoint Backplane) : Option (Job × Endpoint Backplane) :=
  match j.activity with
  | .off => none
  | .shaking h =>
    match h.address? with
    | some address =>
      some ((j.report clock (.initialized address h.attempts)).beginWork clock e)
    | none => (h.step clock e).map fun (h, e) => ({ j with activity := .shaking h }, e)
  | .storing =>
    (j.storage.step clock e).map fun (s, e) => ({ j with storage := { s with handled := [] } }, e)
  | .relaying ticker reporting forwarding =>
    match j.relay.step clock e with
    | some (relay, e) => some (j.collect relay, e)
    | none =>
      match j.stepReporting ticker reporting clock e with
      | some (j, ticker, reporting, e) =>
        some ({ j with activity := .relaying ticker reporting forwarding }, e)
      | none =>
        (j.stepForwarding forwarding clock e).map fun (j, forwarding, e) =>
          ({ j with activity := .relaying ticker reporting forwarding }, e)
  | .sampling samples reading stage => j.stepSampling samples reading stage clock e

/-- One step, if there is anything to do. A module notices a change of its power in the turn after
it, and a loss of power when it can do nothing else. `before` is the backplane at the beginning of
the turn. -/
def step (j : Job) (before : Backplane) (clock : Clock) (e : Endpoint Backplane) :
    Option (Job × Endpoint Backplane) :=
  let isOn := e.world.isPowered e.node.port
  let wasOn := before.isPowered e.node.port
  match j.activity with
  | .off => if wasOn && isOn then some (j.bootUp clock e) else none
  | _ =>
    match j.live clock e with
    | some next => some next
    | none => if wasOn || isOn then none else some (j.losePower clock e)

end Job

end ModuleBus

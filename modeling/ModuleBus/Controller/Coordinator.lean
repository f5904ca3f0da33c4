import ModuleBus.Controller.Accounts
import ModuleBus.Controller.Isolation
import ModuleBus.Dispatch.Endpoint
import ModuleBus.Position
import ModuleBus.Request
import ModuleBus.Topic

set_option autoImplicit false

/-! # The coordinator

The controller's one record of everything: who holds the bus, what each slot holds, what energy is
left to whom. It answers the requests of the modules and does the periodic work. Each event is one
function here; an event that has to keep a slot without power for a while ends in a `Pause`, and
`resume` goes on from there. -/

namespace ModuleBus

/-- What the coordinator waits for in the middle of an event. -/
inductive Pause where
  /-- A slot is off at the end of a tick of the isolation scheduler. -/
  | cycling (slot : Slot) (timer : Timer)
  /-- A slot is off because it missed its watchdog; others are to follow. -/
  | pulsing (slot : Slot) (others : List Slot) (timer : Timer)
  /-- A slot is off because a message from outside asked to reset it. -/
  | resetting (slot : Slot) (timer : Timer)
  /-- An error reply is to be tried again. -/
  | refusing (reply : ErrorReply) (timer : Timer)
deriving DecidableEq

/-- The timer of a pause. -/
def Pause.timer : Pause → Timer
  | cycling _ timer | pulsing _ _ timer | resetting _ timer | refusing _ timer => timer

/-- What the controller knows. -/
structure Coordinator where
  isolation : Isolation
  modules : ModuleTable
  accounts : Accounts
  watchdog : WatchdogSettings
  /-- The last fix of the satellite receiver. -/
  fix : Option Fix
  /-- When sleeping slots are to be switched on. -/
  wakes : PerSlot (Option Nat)
  /-- The hardware watchdog is no longer fed. -/
  hardReset : Bool
deriving DecidableEq

namespace Coordinator

/-- The services that a controller answers for. -/
def services : List Service := [.initialization, .energy, .timeLocation, .watchdog, .networking]

/-- The status that accepted resets and reports are answered with. -/
def energyStatus : Int := 1

/-- The coordinator with the record of a slot changed. -/
def modify (c : Coordinator) (s : Slot) (f : ModuleRecord → ModuleRecord) : Coordinator :=
  { c with modules := c.modules.modify s f }

/-- The slot and the account of the module at an address. -/
def entityOf (c : Coordinator) (a : Address) : Except ErrorCode (Slot × Entity) :=
  match c.modules.slotOf? a with
  | none => .error .noDevice
  | some s => .ok (s, if s = Slot.controller then .controller else .module s)

theorem slotOf?_of_entityOf {c : Coordinator} {a : Address} {s : Slot} {x : Entity}
    (h : c.entityOf a = .ok (s, x)) :
    c.modules.slotOf? a = some s ∧ x = if s = Slot.controller then .controller else .module s := by
  rw [entityOf] at h
  split at h
  · cases h
  · next hs =>
    cases h
    exact ⟨hs, rfl⟩

variable {W : Type} [Board W]

/-! ## Boot -/

/-- Writes the accounts to the memory; a failure has no effect. -/
def persist (c : Coordinator) (now : Nat) (w : W) : W :=
  (Board.writeMemory 0 (c.accounts.snapshot now).toBytes w).2

/-- The ledger in the memory. -/
def loadLedger (w : W) : Except LedgerError Ledger :=
  match Board.readMemory w 0 Ledger.size with
  | .error text => .error (.storage text)
  | .ok bytes => Ledger.parse bytes

/-- Boots the controller: takes up the accounts, resets the counters, switches every slot on and
writes the accounts back. -/
def boot (settings : Settings) (now : Nat) (w : W) : Coordinator × W :=
  let c : Coordinator := {
    isolation := .start settings.isolation
    modules := .start
    accounts := .boot settings.energy (Board.charge? w) (loadLedger w).toOption now
    watchdog := settings.watchdog
    fix := none
    wakes := PerSlot.constant none
    hardReset := false }
  let w := Isolation.moduleSlots.foldl
    (fun w s => Board.setBus s true (Board.setPower s true w)) (Board.resetCounters w)
  (c, c.persist now w)

/-! ## Switching slots -/

/-- Switches a slot off. Its module cannot tickle any more, so it is no longer watched. -/
def disable (c : Coordinator) (s : Slot) (state : SlotPower) (w : W) : Coordinator × W :=
  (c.modify s fun r => { r with state := state, isWatched := false, hasTickled := false },
   Board.setBus s false (Board.setPower s false w))

/-- Switches a slot on. It is connected to the bus unless somebody holds that. -/
def enable (c : Coordinator) (s : Slot) (w : W) : Coordinator × W :=
  let w := Board.setPower s true w
  (c.modify s fun r => { r with state := .enabled },
   if c.isolation.holder.isNone then Board.setBus s true w else w)

/-- The budget that is left to a slot now. -/
def remainingLive (c : Coordinator) (w : W) (s : Slot) : Int :=
  c.accounts.remainingLive (Board.counter w) (.module s)

/-! ## Isolation -/

/-- Forgets the key shared with the module in a slot. -/
def forgetKey (c : Coordinator) (s : Slot) (e : Endpoint W) : Coordinator × Endpoint W :=
  (c.modify s fun r => { r with hasKey := false },
   match (c.modules.get s).address with
   | some a => e.update (·.revokeKey a)
   | none => e)

/-- What follows a tick: the key of a slot that was power-cycled is forgotten, and the hardware
watchdog is fed. -/
def afterTick (c : Coordinator) (event : IsolationEvent) (e : Endpoint W) :
    Coordinator × Endpoint W :=
  let (c, e) := match event with
    | .powerCycled s => c.forgetKey s e
    | _ => (c, e)
  (c, if c.hardReset then e else { e with world := Board.feedWatchdog e.world })

/-- A tick of the isolation scheduler. -/
def isolationTick (c : Coordinator) (e : Endpoint W) : Tick × Coordinator × Endpoint W :=
  let (tick, isolation, modules, world) := c.isolation.tick c.modules e.world
  let c := { c with isolation := isolation, modules := modules }
  let e := { e with world := world }
  match tick with
  | .done event => (tick, c.afterTick event e)
  | .cycling _ => (tick, c, e)

/-- The end of a tick that power-cycled a slot. -/
def finishTick (c : Coordinator) (s : Slot) (e : Endpoint W) :
    IsolationEvent × Coordinator × Endpoint W :=
  let (event, isolation, modules, world) := c.isolation.finishCycle c.modules s e.world
  (event, ({ c with isolation := isolation, modules := modules }).afterTick event
    { e with world := world })

/-! ## Energy -/

/-- Switches a slot off that has used up its budget, or on again when it has one. -/
def applyBudget (c : Coordinator) (s : Slot) (w : W) : Coordinator × W :=
  let remaining := (c.accounts.get (.module s)).remaining
  match (c.modules.get s).state with
  | .enabled => if remaining ≤ 0 then c.disable s .disabledEnergy w else (c, w)
  | .disabledEnergy => if remaining > 0 then c.enable s w else (c, w)
  | _ => (c, w)

/-- The end of an accounting period. -/
def energyUpdate (c : Coordinator) (now : Nat) (w : W) : Coordinator × W :=
  let (_, accounts) := c.accounts.update (Board.counter w) (Board.charge? w) now
  let (c, w) := Slot.metered.foldl (fun (c, w) s => applyBudget c s w)
    (({ c with accounts := accounts }, Board.resetCounters w) : Coordinator × W)
  (c, c.persist now w)

/-! ## Watchdog -/

/-- The slot is watched and was not heard of since the last check. -/
def isStale (r : ModuleRecord) : Bool := r.isWatched && r.state.isEnabled && !r.hasTickled

/-- Switches the first of some slots off, for a moment. -/
def pulseNext (c : Coordinator) (clock : Clock) (slots : List Slot) (w : W) : Option Pause × W :=
  match slots with
  | [] => (none, w)
  | s :: others =>
    (some (.pulsing s others (clock.after c.watchdog.resetPulse)), Board.setPower s false w)

/-- Power-cycles the slots that missed their watchdog, one after another. -/
def checkWatchdogs (c : Coordinator) (clock : Clock) (w : W) : Option Pause × Coordinator × W :=
  let stale := Slot.all.filter fun s => isStale (c.modules.get s)
  let c := Slot.all.foldl
    (fun (c : Coordinator) s => c.modify s fun r =>
      if r.isWatched && r.state.isEnabled then { r with hasTickled := false } else r) c
  let (pause, w) := c.pulseNext clock stale w
  (pause, c, w)

/-! ## Sleeping slots -/

/-- Ends the sleep of a slot. -/
def wake (c : Coordinator) (s : Slot) (w : W) : Coordinator × W :=
  let remaining := c.remainingLive w s
  let c : Coordinator := { c with wakes := c.wakes.set s none }
  if (c.modules.get s).state = .disabledDutyCycle then
    if remaining > 0 then c.enable s w
    else (c.modify s fun r => { r with state := .disabledEnergy }, w)
  else (c, w)

/-- Ends every sleep whose time has come. -/
def wakeDue (c : Coordinator) (now : Nat) (w : W) : Coordinator × W :=
  let due := Slot.all.filter fun s => (c.wakes.get s).any (· ≤ now)
  due.foldl (fun (c, w) s => wake c s w) (c, w)

/-- Puts a slot to sleep for some milliseconds; a slot that is not metered stays on. -/
def sleep (c : Coordinator) (now : Nat) (s : Slot) (ms : Nat) (w : W) : Coordinator × W :=
  if !s.isMetered then (c, w)
  else
    let (c, w) := c.disable s .disabledDutyCycle w
    ({ c with wakes := c.wakes.set s (some (now + ofMillis ms)) }, w)

/-! ## Commands from outside -/

/-- Applies a command to the slot that it names. -/
def applyTo (c : Coordinator) (clock : Clock) (command : DownlinkCommand) (s : Slot) (w : W) :
    Option Pause × Coordinator × W :=
  let mayRun := c.remainingLive w s > 0 || !s.isMetered
  match command with
  | .on _ =>
    if mayRun then (none, c.enable s w)
    else (none, c.modify s fun r => { r with state := .disabledEnergy }, w)
  | .off _ => (none, c.disable s .disabledOff w)
  | .reset _ =>
    if mayRun && (c.modules.get s).state.isEnabled then
      (some (.resetting s (clock.after c.watchdog.resetPulse)), c, Board.setPower s false w)
    else (none, c, w)
  | .hardReset => (none, c, w)

/-- Applies a command; one that names no module has no effect. -/
def applyDownlink (c : Coordinator) (clock : Clock) (command : DownlinkCommand) (w : W) :
    Option Pause × Coordinator × W :=
  match command with
  | .hardReset => (none, { c with hardReset := true }, w)
  | .on name | .off name | .reset name =>
    match (c.modules.findName? name).filter (· != Slot.controller) with
    | none => (none, c, w)
    | some s => c.applyTo clock command s w

/-! ## Requests -/

variable [Link W]

/-- What handling a request gives: a pause, nothing more to do, or a refusal. -/
abbrev Handling (W : Type) := Except ErrorCode (Option Pause) × Coordinator × Endpoint W

/-- Answers a request. -/
def reply (c : Coordinator) (m : Message) (payload : Bytes) (e : Endpoint W) : Handling W :=
  let (written, e) := e.reply m payload
  ((written.map fun _ => none).mapError DispatchError.status, c, e)

/-- Binds the module that holds the bus to the address that it asks for. -/
def declare (c : Coordinator) (m : Message) (e : Endpoint W) : Handling W :=
  match c.isolation.holder with
  | none => (.ok none, c, e)
  | some s =>
    let a := if m.source = .unassigned then s.assignedAddress else m.source
    let (previous, modules) :=
      c.modules.assign s a (Utf8.textLossy (m.payload.take maxWireName))
    let e := match previous with
      | some old => e.update (·.revokeKey old)
      | none => e
    (({ c with modules := modules }).modify s fun r => { r with hasKey := false }).reply m
      [a.value] (e.update (·.revokeKey a))

/-- Agrees on a key with a module. The key counts once the answer is written. -/
def exchangeKey (c : Coordinator) (m : Message) (e : Endpoint W) : Handling W :=
  match c.modules.slotOf? m.source with
  | none => (.error .noDevice, c, e)
  | some s =>
    let secret := e.node.entropy.secret
    let suite := e.node.suite
    let e := e.update fun d => { d with entropy := d.entropy.next }
    match suite.agree secret m.payload with
    | .error _ => (.error .invalid, c, e)
    | .ok key =>
      match c.reply m (suite.publicPoint secret) e with
      | (.error code, c, e) => (.error code, c, e)
      | (.ok _, c, e) =>
        (.ok none, c.modify s fun r => { r with hasKey := true },
         e.update (·.installKey m.source key))

/-- Handles a request of the initialization service. -/
def handleInitialization (c : Coordinator) (m : Message) (e : Endpoint W) : Handling W :=
  match InitializationRequest.ofByte? m.type with
  | none => (.error .noSupport, c, e)
  | some .declare => c.declare m e
  | some .exchangeKey => c.exchangeKey m e
  | some .listModules => c.reply m (encodeAddresses c.modules.addresses) e
  | some .revoke =>
    let c := match c.modules.slotOf? m.source with
      | some s => c.modify s fun r => { r with hasKey := false }
      | none => c
    c.reply m ErrorCode.success.toPayload (e.update (·.revokeKey m.source))
  | some .listStates => c.reply m (SlotState.encodeList c.modules.slotStates) e

/-- Moves the energy of the entries of a report that name a known participant. -/
def applyReport (c : Coordinator) (reporter : Entity) (entries : List ReportEntry) : Coordinator :=
  entries.foldl
    (fun c entry =>
      match c.entityOf ⟨UInt8.ofNat entry.application.toNat⟩ with
      | .ok (_, consumer) =>
        { c with accounts := (c.accounts.transfer reporter consumer entry.energy.toNat).2 }
      | .error _ => c)
    c

/-- Handles a request of the energy service. -/
def handleEnergy (c : Coordinator) (clock : Clock) (m : Message) (e : Endpoint W) : Handling W :=
  match c.entityOf m.source with
  | .error code => (.error code, c, e)
  | .ok (s, entity) =>
    let counter := Board.counter e.world
    match EnergyRequest.ofByte? m.type with
    | none => (.error .noSupport, c, e)
    | some .query => c.reply m (c.accounts.information counter entity clock.now).toBytes e
    | some .reset =>
      ({ c with accounts := c.accounts.reset entity (counter entity) clock.now }).reply m
        (Bytes.ofIntLE 4 energyStatus) e
    | some .report =>
      let entries := ReportEntry.decodeReport m.payload
      if entries.all fun entry => entry.application.toNat < 256 then
        (c.applyReport entity entries).reply m (Bytes.ofIntLE 4 energyStatus) e
      else (.error .invalid, c, e)
    | some .dutyCycle =>
      match m.payload.natLE? 0 4 with
      | none => (.error .size, c, e)
      | some ms =>
        let (c, world) := c.sleep clock.now s ms e.world
        (.ok none, c, { e with world := world })

/-- Handles a request for time or place. -/
def handleTimeLocation (c : Coordinator) (m : Message) (e : Endpoint W) : Handling W :=
  let fix := c.fix.getD .none
  match TimeLocationRequest.ofByte? m.type with
  | some .getTime => c.reply m fix.time.toBytes e
  | some .getLocation => c.reply m fix.location.toBytes e
  | some .getTimeNextPps | none => (.error .noSupport, c, e)

/-- Handles a sign of life. -/
def handleWatchdog (c : Coordinator) (m : Message) (e : Endpoint W) : Handling W :=
  match WatchdogRequest.ofByte? m.type with
  | none => (.error .noSupport, c, e)
  | some request =>
    match c.modules.slotOf? m.source with
    | none => (.error .noDevice, c, e)
    | some s =>
      (c.modify s fun r =>
        { r with isWatched := r.isWatched || request = .start, hasTickled := true }).reply m [] e

/-- Handles a message from outside. -/
def handleNetworking (c : Coordinator) (clock : Clock) (m : Message) (e : Endpoint W) :
    Handling W :=
  match NetworkingRequest.ofByte? m.type with
  | some .subscribe =>
    match TopicMessage.parse m.payload with
    | .error code => (.error code, c, e)
    | .ok downlink =>
      match DownlinkCommand.parse? downlink with
      | none => (.ok none, c, e)
      | some command =>
        let (pause, c, world) := c.applyDownlink clock command e.world
        (.ok pause, c, { e with world := world })
  | _ => (.error .noSupport, c, e)

/-- Handles a request. -/
def handle (c : Coordinator) (clock : Clock) (m : Message) (e : Endpoint W) : Handling W :=
  match m.service with
  | .initialization => c.handleInitialization m e
  | .energy => c.handleEnergy clock m e
  | .timeLocation => c.handleTimeLocation m e
  | .watchdog => c.handleWatchdog m e
  | .networking => c.handleNetworking clock m e
  | _ => (.error .noSupport, c, e)

/-- Writes an error reply, and pauses if it has to be tried again. -/
def refuse (r : ErrorReply) (clock : Clock) (e : Endpoint W) : Option Pause × Endpoint W :=
  let (waiting, e) := r.send clock e
  (waiting.map fun (r, timer) => .refusing r timer, e)

/-- Handles a request; a command that is refused is answered with an error reply. -/
def receive (c : Coordinator) (clock : Clock) (m : Message) (e : Endpoint W) :
    Option Pause × Coordinator × Endpoint W :=
  match c.handle clock m e with
  | (.ok pause, c, e) => (pause, c, e)
  | (.error code, c, e) =>
    if m.frame = .command then
      let (pause, e) := refuse (.first ⟨m.source, m.service.toByte, m.type, code⟩) clock e
      (pause, c, e)
    else (none, c, e)

/-- Goes on after a pause, until the next one or to the end of the event. -/
def resume (c : Coordinator) (clock : Clock) (pause : Pause) (e : Endpoint W) :
    Option Pause × Coordinator × Endpoint W :=
  match pause with
  | .cycling s _ =>
    let (_, c, e) := c.finishTick s e
    (none, c, e)
  | .pulsing s others _ =>
    let (pause, world) := c.pulseNext clock others (Board.setPower s true e.world)
    (pause, c, { e with world := world })
  | .resetting s _ => (none, c, { e with world := Board.setPower s true e.world })
  | .refusing r _ =>
    let (pause, e) := refuse r clock e
    (pause, c, e)

end Coordinator

end ModuleBus

import Mathlib.Logic.Relation
import ModuleBus.Controller.Routine
import ModuleBus.Proofs.Controller.Requests

set_option autoImplicit false

/-! # Runs of a controller

A run is what happens to a coordinator and its world from boot on: events that the coordinator
handles one at a time, the second parts of those that wait in the middle, and in between whatever
the rest of the world does, as long as it leaves the rails, which only the controller drives, and
the keys and the address of the controller alone. On the switchboard a run is one sequence of
allowed switchings (`does_of_reaches`), so that what these preserve holds throughout every run. -/

namespace ModuleBus

open Wired (rails)
open Switchboard (Does)

/-- What a coordinator handles. -/
inductive Event where
  /-- A tick of the isolation scheduler. -/
  | tick
  /-- The end of an accounting period. -/
  | period
  /-- A check of the watchdogs. -/
  | check
  /-- The end of every sleep whose time has come. -/
  | wake
  | command (command : DownlinkCommand)
  | message (message : Message)
  | fix (fix : Fix)

/-- The command that comes with an event. -/
def Event.command? : Event → Option DownlinkCommand
  | command d => some d
  | message m => m.command?
  | tick | period | check | wake | fix _ => none

section

variable {W : Type} [Board W]

/-- What the first part of an event can switch. -/
inductive Coordinator.Makes (c : Coordinator) (clock : Clock) (w : W) : Event → Switching → Prop
  | grant {s : Slot} : c.isolation.holder = none → Makes c clock w .tick (.grant s)
  | release {s : Slot} : Makes c clock w .tick (.release s)
  | cycle {s : Slot} : Makes c clock w .tick (.off s .disabledIsolation)
  | exhaust {s : Slot} : s ∈ Slot.metered →
      ((c.billed clock.now w).get (.module s)).remaining ≤ 0 →
      Makes c clock w .period (.off s .disabledEnergy)
  | refill {s : Slot} : s ∈ Slot.metered →
      0 < ((c.billed clock.now w).get (.module s)).remaining →
      Makes c clock w .period (.on s .budget)
  | pulse {s : Slot} : Makes c clock w .check (.cut s)
  | wake {s : Slot} : c.IsDue clock.now s → c.modules.states s = .disabledDutyCycle →
      Makes c clock w .wake (.on s .wake)
  /-- A slot wakes up without energy. -/
  | tire {s : Slot} : c.IsDue clock.now s → c.modules.states s = .disabledDutyCycle →
      Makes c clock w .wake (.deny s)
  | sleep {m : Message} {s : Slot} {ms : Nat} : c.nap? m = some (s, ms) →
      Makes c clock w (.message m) (.off s .disabledDutyCycle)
  | command {event : Event} {d : DownlinkCommand} {x : Switching} : event.command? = some d →
      c.Commands w d x → Makes c clock w event x
  /-- A command to switch on a slot that is off and has no energy. -/
  | refuse {event : Event} {name : String} {s : Slot} : event.command? = some (.on name) →
      c.modules.findName? name = some s → Makes c clock w event (.deny s)
  | reset {event : Event} {name : String} {s : Slot} : event.command? = some (.reset name) →
      c.modules.findName? name = some s → Makes c clock w event (.cut s)

variable [Link W]

/-- A coordinator handles an event, to the end or to the first pause. -/
def Coordinator.begin (c : Coordinator) (clock : Clock) (event : Event) (e : Endpoint W) :
    Option Pause × Coordinator × Endpoint W :=
  match event with
  | .tick =>
    match c.isolationTick e with
    | (.done _, c, e) => (none, c, e)
    | (.cycling s, c, e) =>
      (some (.cycling s (clock.after c.isolation.settings.powerCycle)), c, e)
  | .period =>
    let (c, world) := c.energyUpdate clock.now e.world
    (none, c, { e with world := world })
  | .check =>
    let (pause, c, world) := c.checkWatchdogs clock e.world
    (pause, c, { e with world := world })
  | .wake =>
    let (c, world) := c.wakeDue clock.now e.world
    (none, c, { e with world := world })
  | .command d =>
    let (pause, c, world) := c.applyDownlink clock d e.world
    (pause, c, { e with world := world })
  | .message m => c.receive clock m e
  | .fix fix => (none, { c with fix := some fix }, e)

end

/-- A coordinator in its world, between events or in the middle of one. -/
structure Moment (W : Type) where
  pause : Option Pause
  coordinator : Coordinator
  endpoint : Endpoint W

namespace Moment

variable {W : Type} [Board W] [Link W]

/-- The moment at which a coordinator has booted. -/
def boot (settings : Settings) (now : Nat) (node : Dispatcher) (w : W) : Moment W :=
  let (c, w) := Coordinator.boot settings now w
  ⟨none, c, ⟨node, w⟩⟩

/-- The moment after an event, or its first part. -/
def begin (m : Moment W) (clock : Clock) (event : Event) : Moment W :=
  let (pause, c, e) := m.coordinator.begin clock event m.endpoint
  ⟨pause, c, e⟩

/-- The moment after the next part of an event. -/
def resume (m : Moment W) (clock : Clock) (pause : Pause) : Moment W :=
  let (pause, c, e) := m.coordinator.resume clock pause m.endpoint
  ⟨pause, c, e⟩

variable [Wired W]

/-- The rest of the world has done something. -/
structure Drifts (e e' : Endpoint W) : Prop where
  rails : rails e'.world = rails e.world
  keys : e'.node.keys = e.node.keys
  address : e'.address = e.address

/-- One step of a run in which the coordinator handles such events only as `may` allows. -/
inductive Step (may : Moment W → Event → Prop) : Moment W → Moment W → Prop
  | drift {m : Moment W} {e : Endpoint W} : Drifts m.endpoint e →
      Step may m { m with endpoint := e }
  | begin {m : Moment W} (clock : Clock) (event : Event) : m.pause = none → may m event →
      Step may m (m.begin clock event)
  | resume {m : Moment W} {pause : Pause} (clock : Clock) : m.pause = some pause →
      Step may m (m.resume clock pause)

/-- A run leads from one moment to another. -/
def Reaches (may : Moment W → Event → Prop) : Moment W → Moment W → Prop :=
  Relation.ReflTransGen (Step may)

/-- The switchboard at a moment. -/
def switchboard (m : Moment W) : Switchboard :=
  m.coordinator.switchboard m.pause m.endpoint.world

end Moment

/-- What can be switched after a pause. -/
inductive Switching.IsSequel : Switching → Prop
  | on {s : Slot} : IsSequel (.on s .cycle)
  | restore {s : Slot} : IsSequel (.restore s)
  | cut {s : Slot} : IsSequel (.cut s)

theorem Switching.IsSequel.isRoutine {x : Switching} (h : x.IsSequel) : x.IsRoutine := by
  cases h <;> trivial

namespace Moment

variable {W : Type} [Board W] [Link W] [Wired W] {may : Moment W → Event → Prop} {m m' : Moment W}

/-- A step at which no event begins can be made in any run. -/
theorem Step.of_never (h : Step (fun _ _ => False) m m') : Step may m m' := by
  cases h with
  | drift hdrift => exact .drift hdrift
  | begin _ _ _ hnever => exact hnever.elim
  | resume clock hpause => exact .resume clock hpause

/-- At a step an event begins, or none does. -/
theorem Step.begins_or_not (h : Step may m m') :
    (∃ clock event, m.pause = none ∧ may m event ∧ m' = m.begin clock event)
      ∨ Step (fun _ _ => False) m m' := by
  cases h with
  | drift hdrift => exact .inr (.drift hdrift)
  | begin clock event hidle hevent => exact .inl ⟨clock, event, hidle, hevent, rfl⟩
  | resume clock hpause => exact .inr (.resume clock hpause)

end Moment

/-! ## One step -/

namespace Coordinator

variable {W : Type} [Board W] [Link W] [Wired W] {P : Switching → Prop}

theorem follows_tick (c : Coordinator) (clock : Clock) (e : Endpoint W)
    (hgrant : c.isolation.holder = none → ∀ s, P (.grant s)) (hrelease : ∀ s, P (.release s))
    (hoff : ∀ s, P (.off s .disabledIsolation)) :
    (c.begin clock .tick e).2.1.Follows P (c.switchboard none e.world)
      (c.begin clock .tick e).1 (c.begin clock .tick e).2.2.world := by
  have hdoes := does_isolationTick c e hgrant hrelease hoff
  have hawaits (s : Slot) (timer : Timer) := awaits_isolationTick c e (s := s) timer
  unfold begin
  dsimp only
  split
  · next h =>
    rw [h] at hdoes
    exact .of_does hdoes
  · next s c' e' h =>
    rw [h] at hdoes hawaits
    exact ⟨hdoes, hawaits s _ rfl⟩

omit [Link W] [Wired W] in
/-- What an event makes is routine, or what its command says. -/
theorem Makes.admits {c : Coordinator} {clock : Clock} {w : W} {event : Event} {x : Switching}
    (h : c.Makes clock w event x) : c.Admits w event.command? x := by
  cases h with
  | command hcommand hx => exact .inr ⟨_, hcommand, hx⟩
  | _ => exact .inl trivial

/-- An event switches what it can make. -/
theorem makes_begin (c : Coordinator) (clock : Clock) (event : Event) (e : Endpoint W) :
    (c.begin clock event e).2.1.Follows (c.Makes clock e.world event)
      (c.switchboard none e.world) (c.begin clock event e).1 (c.begin clock event e).2.2.world := by
  cases event with
  | tick => exact follows_tick c clock e (fun h _ => .grant h) (fun _ => .release) fun _ => .cycle
  | period =>
    unfold begin
    dsimp only
    exact .of_does (does_energyUpdate c clock.now e.world (fun _ => .exhaust) fun _ => .refill)
  | check =>
    unfold begin
    dsimp only
    exact follows_checkWatchdogs c clock e.world fun _ => .pulse
  | wake =>
    unfold begin
    dsimp only
    exact .of_does (does_wakeDue (fun _ _ => True) c clock.now e.world (fun _ => .tire)
      (fun _ _ _ _ hdue hasleep _ => .wake hdue hasleep) (fun _ _ _ _ => trivial) trivial)
  | command d =>
    exact follows_applyDownlink c clock d e.world (fun _ => .command rfl)
      (fun _ _ hon => .refuse (congrArg some hon)) fun _ _ hreset => .reset (congrArg some hreset)
  | message m =>
    exact follows_receive _ c m e clock (fun _ _ => .sleep) (fun _ hd _ => .command hd)
      (fun _ _ hon hname => .refuse hon hname) fun _ _ hreset hname => .reset hreset hname
  | fix fix => exact .of_eq rfl

omit [Link W] [Wired W] in
theorem sleep_self (c : Coordinator) (now : Nat) {s : Slot} (ms : Nat) (w : W)
    (hs : s.isMetered = true) :
    (c.sleep now s ms w).1.modules.states s = .disabledDutyCycle
      ∧ (c.sleep now s ms w).1.wakes.get s = some (now + ofMillis ms) := by
  simp [sleep, hs, disable, modify, ModuleTable.states]

omit [Wired W] in
/-- A message that puts a slot to sleep does nothing else. -/
theorem begin_nap (c : Coordinator) (clock : Clock) {m : Message} (e : Endpoint W) {s : Slot}
    {ms : Nat} (h : c.nap? m = some (s, ms)) :
    c.begin clock (.message m) e
      = (none, (c.sleep clock.now s ms e.world).1,
          { e with world := (c.sleep clock.now s ms e.world).2 }) := by
  obtain ⟨hservice, htype, hslot, hms, _⟩ := nap?_eq_some.mp h
  simp only [begin, receive, handle, hservice, handleEnergy, entityOf, hslot, htype, hms]

/-- A slot that was off for a moment is switched on again. -/
theorem does_restore (c : Coordinator) (pause : Pause) (s : Slot) (w : W)
    (hrestore : P (.restore s)) (hdown : pause.down? = some s)
    (h : c.modules.states s = .enabled) :
    Does P (c.switchboard (some pause) w) (c.switchboard none (Board.setPower s true w)) := by
  have hboard : c.switchboard none (Board.setPower s true w)
      = (c.switchboard (some pause) w).apply (.restore s) := by
    simp only [switchboard, ModuleTable.switchboard, Wired.rails_setPower]
    rfl
  rw [hboard]
  exact .single _ hrestore (.restore hdown h)

/-- The part of an event that follows a pause ends what the pause is about. -/
theorem follows_resume (c : Coordinator) (clock : Clock) (pause : Pause) (e : Endpoint W)
    (hon : ∀ s timer, pause = .cycling s timer → P (.on s .cycle))
    (hrestore : ∀ s, pause.down? = some s → P (.restore s)) (hcut : ∀ s, P (.cut s))
    (h : c.Awaits (some pause)) :
    (c.resume clock pause e).2.1.Follows P (c.switchboard (some pause) e.world)
      (c.resume clock pause e).1 (c.resume clock pause e).2.2.world := by
  cases pause with
  | cycling s timer => exact .of_does (does_finishTick c s timer e (hon s timer rfl) h)
  | pulsing s others timer =>
    have hothers : ∀ r ∈ others, c.modules.states r = .enabled := fun r hr =>
      h r (List.mem_cons_of_mem s hr)
    exact (follows_pulseNext c clock others (Board.setPower s true e.world) hcut hothers).trans
      (does_restore c _ s e.world (hrestore s rfl) rfl (h s List.mem_cons_self))
  | resetting s timer => exact .of_does (does_restore c _ s e.world (hrestore s rfl) rfl h)
  | refusing r timer => exact follows_refuse P c e r clock (.refl _)

end Coordinator

namespace Moment

variable {W : Type} [Board W] [Link W] [Wired W]

/-- The coordinator is fit to go on where it waits. -/
def Awaits (m : Moment W) : Prop := m.coordinator.Awaits m.pause

variable {may : Moment W → Event → Prop} {K : Switching → Prop} {m m' : Moment W}

/-- On the switchboard, a step is a sequence of allowed switchings of a kind that includes what the
event makes, if one begins, and what can follow a pause. -/
theorem makes_of_step
    (hmakes : ∀ clock event, m.pause = none → may m event → ∀ x,
      m.coordinator.Makes clock m.endpoint.world event x → K x)
    (hsequel : ∀ x : Switching, x.IsSequel → K x) (h : Step may m m') (hawaits : m.Awaits) :
    Does K m.switchboard m'.switchboard ∧ m'.Awaits := by
  cases h with
  | drift hdrift =>
    refine ⟨.of_eq ?_, hawaits⟩
    rw [switchboard, switchboard, Coordinator.switchboard, ModuleTable.switchboard,
      ← hdrift.rails]
    rfl
  | begin clock event hidle hevent =>
    have hfollows := (m.coordinator.makes_begin clock event m.endpoint).mono
      (hmakes clock event hidle hevent)
    rw [switchboard, hidle]
    exact ⟨hfollows.does, hfollows.awaits⟩
  | resume clock hpause =>
    rw [Awaits, hpause] at hawaits
    have hfollows := m.coordinator.follows_resume clock _ m.endpoint
      (fun _ _ _ => hsequel _ .on) (fun _ _ => hsequel _ .restore) (fun _ => hsequel _ .cut) hawaits
    rw [switchboard, hpause]
    exact ⟨hfollows.does, hfollows.awaits⟩

/-- A step at which no event begins switches what can be switched after a pause. -/
theorem does_of_never (h : Step (fun _ _ => False) m m') (hawaits : m.Awaits) :
    Does Switching.IsSequel m.switchboard m'.switchboard :=
  (makes_of_step (fun _ _ _ hnever => hnever.elim) (fun _ => id) h hawaits).1

/-- On the switchboard, a step is a sequence of allowed switchings of a kind that all the events
that may happen admit. -/
theorem does_of_step
    (hmay : ∀ m event, may m event → ∀ x,
      m.coordinator.Admits m.endpoint.world event.command? x → K x)
    (hroutine : ∀ x : Switching, x.IsRoutine → K x) (h : Step may m m') (hawaits : m.Awaits) :
    Does K m.switchboard m'.switchboard ∧ m'.Awaits :=
  makes_of_step (fun _ event _ hevent x hx => hmay m event hevent x hx.admits)
    (fun x hx => hroutine x hx.isRoutine) h hawaits

/-- On the switchboard, a run is a sequence of allowed switchings. -/
theorem does_of_reaches
    (hmay : ∀ m event, may m event → ∀ x,
      m.coordinator.Admits m.endpoint.world event.command? x → K x)
    (hroutine : ∀ x : Switching, x.IsRoutine → K x) (h : Reaches may m m') (hawaits : m.Awaits) :
    Does K m.switchboard m'.switchboard ∧ m'.Awaits := by
  induction h with
  | refl => exact ⟨.refl _, hawaits⟩
  | tail _ hstep ih =>
    obtain ⟨hdoes, hawaits'⟩ := ih
    obtain ⟨hdoes', hawaits''⟩ := does_of_step hmay hroutine hstep hawaits'
    exact ⟨hdoes.trans hdoes', hawaits''⟩

/-- At every moment of a run the coordinator is fit to go on. -/
theorem awaits_of_reaches (h : Reaches may m m') (hawaits : m.Awaits) : m'.Awaits :=
  (does_of_reaches (K := fun _ => True) (fun _ _ _ _ _ => trivial) (fun _ _ => trivial) h
    hawaits).2

/-- A run may as well be one in which only those events may happen that could happen in it. -/
theorem reaches_mono {may' : Moment W → Event → Prop} (h : Reaches may m m')
    (hmay : ∀ m'' event, Reaches may m m'' → m''.pause = none → may m'' event → may' m'' event) :
    Reaches may' m m' := by
  induction h with
  | refl => exact .refl
  | tail hreaches hstep ih =>
    refine ih.tail ?_
    rcases hstep.begins_or_not with ⟨clock, event, hidle, hevent, rfl⟩ | hnever
    · exact .begin clock event hidle (hmay _ event hreaches hidle hevent)
    · exact hnever.of_never

/-! ## Boot -/

/-- At boot nobody holds the bus, and every module is on and connected. -/
theorem switchboard_boot (settings : Settings) (now : Nat) (node : Dispatcher) (w : W) :
    (boot settings now node w).switchboard = {
      holder := none
      down := none
      state := fun _ => .enabled
      rails := {
        power := fun s => if s = Slot.controller then (rails w).power s else true
        bus := fun s => if s = Slot.controller then (rails w).bus s else true
        grant := (rails w).grant } } := by
  have hstates : ModuleTable.start.states = fun _ => .enabled := by
    rw [ModuleTable.start, ModuleTable.states_assign]
    funext s
    simp [ModuleTable.states, ModuleTable.get]
  have hrails : rails (boot settings now node w).endpoint.world = {
      power := fun s => if s = Slot.controller then (rails w).power s else true
      bus := fun s => if s = Slot.controller then (rails w).bus s else true
      grant := (rails w).grant } := by
    simp only [boot, Coordinator.boot, Coordinator.persist, Wired.rails_writeMemory,
      rails_foldl_on, Wired.rails_resetCounters, mem_moduleSlots, ne_eq, ite_not]
  rw [switchboard, Coordinator.switchboard, ModuleTable.switchboard, hrails]
  exact congrArg (Switchboard.mk none none · _) hstates

/-! ## Invariants of runs -/

/-- What the switchings of a kind preserve holds at every moment of a run whose events admit no
others. -/
theorem invariant_of_reaches {I : Switchboard → Prop}
    (hmay : ∀ m event, may m event → ∀ x,
      m.coordinator.Admits m.endpoint.world event.command? x → K x)
    (hroutine : ∀ x : Switching, x.IsRoutine → K x)
    (hstep : ∀ b x, K x → b.Allowed x → I b → I (b.apply x)) {settings : Settings} {now : Nat}
    {node : Dispatcher} {w : W} (hboot : I (boot settings now node w).switchboard)
    (h : Reaches may (boot settings now node w) m) : I m.switchboard := by
  obtain ⟨hdoes, _⟩ := does_of_reaches hmay hroutine h trivial
  exact hdoes.preserves hstep hboot

/-! ## A controller on a desk -/

/-- A suite that hides nothing: the key is the other side's point. -/
def openSuite : Suite where
  lock _ _ plain := plain
  unlock _ sealed := .ok sealed
  publicPoint _ := [0]
  agree _ point := .ok ⟨point⟩

/-- A controller with that suite has booted on a desk, with modules at the unassigned address and at
the address that the one in the last slot gets. -/
def deskBoot : Moment DeskWorld :=
  boot {} 0 { Dispatcher.start 0 .controller {} Coordinator.services 0 with suite := openSuite }
    ⟨Net.start [.controller, .unassigned, Slot.last.assignedAddress],
      .start false false none [] none none⟩

/-- The rest of the world changes the board. -/
def onBoard (m : Moment DeskWorld) (f : DeskBoard → DeskBoard) : Moment DeskWorld :=
  { m with endpoint := ⟨m.endpoint.node, m.endpoint.world.onBoard f⟩ }

/-- The module in the last slot asks for the bus and is granted it. -/
def granted : Moment DeskWorld :=
  (deskBoot.onBoard (·.request [Slot.last] true)).begin ⟨0, 0⟩ .tick

theorem reaches_granted : Reaches (fun _ _ => True) deskBoot granted := by
  have hasked : Reaches (fun _ _ => True) deskBoot
      (deskBoot.onBoard (·.request [Slot.last] true)) :=
    .single (.drift ⟨rfl, rfl, rfl⟩)
  exact hasked.tail (.begin ⟨0, 0⟩ .tick rfl trivial)

/-- It declares itself as "m". -/
def declared : Moment DeskWorld :=
  granted.begin ⟨0, 1⟩
    (.message ⟨.unassigned, .controller, .command, .initialization, 0, [0x6d]⟩)

theorem reaches_declared : Reaches (fun _ _ => True) deskBoot declared :=
  reaches_granted.tail (.begin ⟨0, 1⟩ _ (by decide +kernel) trivial)

/-- A request of that module to sleep for a millisecond. -/
def sleepRequest : Event :=
  .message ⟨Slot.last.assignedAddress, .controller, .notification, .energy, 3, [1, 0, 0, 0]⟩

end Moment

end ModuleBus

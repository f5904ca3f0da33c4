import ModuleBus.Proofs.Controller.Rails

set_option autoImplicit false

/-! # What the coordinator switches

Of everything that the coordinator and its world hold, the switchboard is the part that decides
which modules run and which can talk: who holds the bus, the recorded state of every slot, and the
rails. The coordinator changes it by a few switchings only (`Switching`), each under a condition
(`Allowed`); one function of the coordinator after the other is shown here to be a sequence of
allowed switchings. What every allowed switching preserves is then preserved by every event
(`Does.preserves`). -/

namespace ModuleBus

open Wired (rails)

/-- What decides which modules run and which can talk. -/
structure Switchboard where
  holder : Option Slot
  /-- The slot whose power is off for a moment, though it is meant to be on. -/
  down : Option Slot
  state : Slot → SlotPower
  rails : Rails

/-- Why a slot is switched on. -/
inductive Cause where
  /-- An accounting period found that it has a budget again. -/
  | budget
  /-- It has slept long enough. -/
  | wake
  /-- A command from outside. -/
  | command
  /-- It was power-cycled after too many failed isolations. -/
  | cycle
deriving DecidableEq

/-- One change of the switchboard. -/
inductive Switching where
  /-- A slot is switched off, for the reason that its new state records. -/
  | off (s : Slot) (state : SlotPower)
  | on (s : Slot) (cause : Cause)
  /-- A slot that is off is recorded as being without energy. -/
  | deny (s : Slot)
  /-- A slot that is on is recorded as being without energy, and not switched off. -/
  | strand (s : Slot)
  | grant (s : Slot)
  | release (s : Slot)
  /-- The power of a slot is switched off, for a moment. -/
  | cut (s : Slot)
  /-- The end of such a moment. -/
  | restore (s : Slot)

/-- A switching that the coordinator makes of itself, or because a module asks for it. -/
def Switching.IsRoutine : Switching → Prop
  | .off _ .disabledOff | .on _ .command | .strand _ => False
  | _ => True

namespace Switchboard

/-- The slot is meant to be on. -/
def isEnabled (b : Switchboard) (s : Slot) : Bool := (b.state s).isEnabled

/-- The switchboard with a slot recorded in a state. -/
def record (b : Switchboard) (s : Slot) (state : SlotPower) : Switchboard :=
  { b with state := Function.update b.state s state }

/-- What holds of the state of a slot holds after a state is recorded too, if it holds of the new
state where that is the slot's. -/
theorem state_record {Q : SlotPower → Prop} {b : Switchboard} {r s : Slot} {state : SlotPower}
    (hnew : r = s → Q state) (h : Q (b.state s)) : Q ((b.record r state).state s) := by
  unfold record
  dsimp only
  by_cases hrs : r = s
  · rw [hrs, Function.update_self]
    exact hnew hrs
  · rw [Function.update_of_ne (Ne.symm hrs)]
    exact h

/-- The switchboard after a switching. -/
def apply (b : Switchboard) : Switching → Switchboard
  | .off s state => { b.record s state with rails := (b.rails.setPower s false).setBus s false }
  | .on s _ =>
    { b.record s .enabled with
      rails := if b.holder.isNone then (b.rails.setPower s true).setBus s true
        else b.rails.setPower s true }
  | .deny s | .strand s => b.record s .disabledEnergy
  | .grant s =>
    { b with holder := some s, rails := (b.rails.setBuses (· == s)).setGrant s true }
  | .release s =>
    { b with holder := none, rails := (b.rails.setGrant s false).setBuses b.isEnabled }
  | .cut s => { b with down := some s, rails := b.rails.setPower s false }
  | .restore s => { b with down := none, rails := b.rails.setPower s true }

/-- When the coordinator makes a switching. -/
inductive Allowed (b : Switchboard) : Switching → Prop
  | offEnergy {s : Slot} : b.down = none → b.state s = .enabled → Allowed b (.off s .disabledEnergy)
  | offCycle {s : Slot} : b.down = none → b.holder = none → b.state s = .enabled →
      Allowed b (.off s .disabledIsolation)
  | offSleep {s : Slot} : b.down = none → Allowed b (.off s .disabledDutyCycle)
  | offCommand {s : Slot} : b.down = none → Allowed b (.off s .disabledOff)
  | onBudget {s : Slot} : b.down = none → b.state s = .disabledEnergy → Allowed b (.on s .budget)
  | onWake {s : Slot} : b.down = none → b.state s = .disabledDutyCycle → Allowed b (.on s .wake)
  | onCommand {s : Slot} : b.down = none → Allowed b (.on s .command)
  | onCycle {s : Slot} : b.down = none → b.holder = none → b.state s = .disabledIsolation →
      Allowed b (.on s .cycle)
  | deny {s : Slot} : b.down = none → b.state s ≠ .enabled → Allowed b (.deny s)
  | strand {s : Slot} : b.down = none → b.state s = .enabled → Allowed b (.strand s)
  | grant {s : Slot} : b.down = none → b.holder = none → s ≠ Slot.controller →
      b.state s = .enabled → Allowed b (.grant s)
  | release {s : Slot} : b.down = none → b.holder = some s → Allowed b (.release s)
  | cut {s : Slot} : b.down = none → b.state s = .enabled → Allowed b (.cut s)
  | restore {s : Slot} : b.down = some s → b.state s = .enabled → Allowed b (.restore s)

/-- Some allowed switchings, all of a kind `P`, lead from one switchboard to another. -/
inductive Does (P : Switching → Prop) : Switchboard → Switchboard → Prop
  | refl (b : Switchboard) : Does P b b
  | step {b b' : Switchboard} (x : Switching) : P x → b.Allowed x → Does P (b.apply x) b' →
      Does P b b'

namespace Does

variable {P Q : Switching → Prop} {b b' b'' : Switchboard}

theorem of_eq (h : b = b') : Does P b b' := h ▸ refl b

theorem single (x : Switching) (hx : P x) (hallowed : b.Allowed x) : Does P b (b.apply x) :=
  step x hx hallowed (refl _)

theorem trans (h : Does P b b') (h' : Does P b' b'') : Does P b b'' := by
  induction h with
  | refl _ => exact h'
  | step x hx hallowed _ ih => exact step x hx hallowed (ih h')

theorem mono (hPQ : ∀ x, P x → Q x) (h : Does P b b') : Does Q b b' := by
  induction h with
  | refl b => exact refl b
  | step x hx hallowed _ ih => exact step x (hPQ x hx) hallowed ih

/-- What each allowed switching of the kind preserves is preserved by all together. -/
theorem preserves {I : Switchboard → Prop}
    (hstep : ∀ b x, P x → b.Allowed x → I b → I (b.apply x)) (h : Does P b b') (hb : I b) :
    I b' := by
  induction h with
  | refl _ => exact hb
  | step x hx hallowed _ ih => exact ih (hstep _ x hx hallowed hb)

end Does

end Switchboard

/-! ## The switchboard of a coordinator -/

/-- The slot that is off during a pause though it is meant to be on. -/
def Pause.down? : Pause → Option Slot
  | pulsing s _ _ | resetting s _ => some s
  | cycling _ _ | refusing _ _ => none

section

variable {W : Type} [Board W]

/-- What a command from outside switches. -/
inductive Coordinator.Commands (c : Coordinator) (w : W) : DownlinkCommand → Switching → Prop
  | off {name : String} {s : Slot} : c.modules.findName? name = some s →
      Commands c w (.off name) (.off s .disabledOff)
  | on {name : String} {s : Slot} : c.modules.findName? name = some s →
      c.remainingLive w s > 0 ∨ s.isMetered = false → Commands c w (.on name) (.on s .command)
  | strand {name : String} {s : Slot} : c.modules.findName? name = some s →
      c.remainingLive w s ≤ 0 → s.isMetered = true → (c.modules.get s).state = .enabled →
      Commands c w (.on name) (.strand s)

/-- What may be switched when a command, or none, has come from outside. -/
def Coordinator.Admits (c : Coordinator) (w : W) (command : Option DownlinkCommand)
    (x : Switching) : Prop :=
  x.IsRoutine ∨ ∃ d, command = some d ∧ c.Commands w d x

end

/-! ## Records -/

namespace ModuleTable

/-- The states of all slots. -/
def states (t : ModuleTable) (s : Slot) : SlotPower := (t.get s).state

theorem states_modify (t : ModuleTable) (s : Slot) (f : ModuleRecord → ModuleRecord) :
    (t.modify s f).states = Function.update t.states s (f (t.get s)).state := by
  funext r
  by_cases h : r = s
  · rw [h, states, get_modify_self, Function.update_self]
  · rw [states, get_modify_of_ne _ _ h, Function.update_of_ne h, states]

/-- A change of a record that leaves the state alone does not show in the states. -/
theorem states_modify_of_state (t : ModuleTable) (s : Slot) (f : ModuleRecord → ModuleRecord)
    (h : (f (t.get s)).state = (t.get s).state) : (t.modify s f).states = t.states := by
  rw [states_modify, h]
  exact Function.update_eq_self s t.states

end ModuleTable

variable {W : Type} [Board W] [Link W] [Wired W]

/-- The switchboard that a table and a world show while a slot, or none, holds the bus and another,
or none, is off for a moment. -/
def ModuleTable.switchboard (t : ModuleTable) (holder down : Option Slot) (w : W) :
    Switchboard :=
  ⟨holder, down, t.states, rails w⟩

/-- Of a changed record, the switchboard shows the state. -/
theorem ModuleTable.switchboard_modify (t : ModuleTable) (holder down : Option Slot) (w : W)
    (s : Slot) (f : ModuleRecord → ModuleRecord) :
    (t.modify s f).switchboard holder down w
      = (t.switchboard holder down w).record s (f (t.get s)).state := by
  rw [switchboard, states_modify]
  rfl

/-- A change of a record that leaves the state alone does not show. -/
theorem ModuleTable.switchboard_modify_of_state (t : ModuleTable) (holder down : Option Slot)
    (w : W) (s : Slot) (f : ModuleRecord → ModuleRecord)
    (h : (f (t.get s)).state = (t.get s).state) :
    (t.modify s f).switchboard holder down w = t.switchboard holder down w := by
  rw [switchboard, states_modify_of_state t s f h]
  rfl

/-- A slot is switched off and its new state recorded. -/
theorem ModuleTable.switchboard_off (t : ModuleTable) (holder down : Option Slot) (w w' : W)
    (s : Slot) (f : ModuleRecord → ModuleRecord)
    (h : rails w' = ((rails w).setPower s false).setBus s false) :
    (t.modify s f).switchboard holder down w'
      = (t.switchboard holder down w).apply (.off s (f (t.get s)).state) := by
  rw [switchboard, states_modify, h]
  rfl

/-! ## The isolation scheduler -/

namespace Isolation

section

variable {W : Type} [Board W] (i : Isolation) (t : ModuleTable) (w : W)

/-- A look at the holder that begins to power-cycle the slot leaves the bus to nobody. -/
theorem check_cycling {s r : Slot} (h : (i.check t s w).1 = .cycling r) :
    (i.check t s w).2.1.holder = none ∧ (i.check t s w).2.2.1.states r = .disabledIsolation := by
  revert h
  unfold check
  dsimp only
  split
  · exact fun h => by cases h
  · split
    · exact fun h => by cases h
    · split
      · exact fun h => by cases h
      · intro h
        cases h
        refine ⟨rfl, ?_⟩
        rw [ModuleTable.states_modify, Function.update_self]

theorem tick_cycling {s : Slot} (h : (i.tick t w).1 = .cycling s) :
    (i.tick t w).2.1.holder = none ∧ (i.tick t w).2.2.1.states s = .disabledIsolation := by
  revert h
  unfold tick
  split
  · exact fun h => by cases h
  · split
    · exact fun h => by cases h
    · exact fun h => check_cycling i t w h

end

variable (P : Switching → Prop) (i : Isolation) (t : ModuleTable) (w : W)

/-- A search for a request grants the bus to a slot that may have it, or does nothing. -/
theorem does_scan (hgrant : ∀ s, P (.grant s)) (h : i.holder = none) :
    Switchboard.Does P (t.switchboard i.holder none w)
      (t.switchboard (i.scan t w).2.1.holder none (i.scan t w).2.2) := by
  unfold scan
  dsimp only
  split
  · exact .refl _
  · next s hfind =>
    have hcandidate := List.find?_some hfind
    simp only [isCandidate, Bool.and_eq_true, bne_iff_ne, SlotPower.isEnabled, beq_iff_eq]
      at hcandidate
    obtain ⟨⟨⟨⟨hcontroller, _⟩, _⟩, henabled⟩, _⟩ := hcandidate
    have hboard : t.switchboard (some s) none (Board.setGrant s true (connectOnly s w))
        = (t.switchboard i.holder none w).apply (.grant s) := by
      simp [ModuleTable.switchboard, Switchboard.apply, rails_connectOnly hcontroller]
    exact hboard ▸ .single (.grant s) (hgrant s) (.grant rfl h hcontroller henabled)

/-- Taking the bus from its holder. -/
theorem switchboard_release (s : Slot) :
    t.switchboard (i.release t s w).1.holder none (i.release t s w).2
      = (t.switchboard i.holder none w).apply (.release s) := by
  simp only [release, ModuleTable.switchboard, rails_restoreBuses, Wired.rails_setGrant]
  rfl

/-- A look at the holder of the bus leaves it the bus or takes it, and then may begin to
power-cycle the slot. -/
theorem does_check (s : Slot) (hrelease : ∀ s, P (.release s))
    (hoff : ∀ s, P (.off s .disabledIsolation)) (h : i.holder = some s) :
    Switchboard.Does P (t.switchboard i.holder none w)
      ((i.check t s w).2.2.1.switchboard (i.check t s w).2.1.holder none
        (i.check t s w).2.2.2) := by
  have hreleased : Switchboard.Does P (t.switchboard i.holder none w)
      (t.switchboard (i.release t s w).1.holder none (i.release t s w).2) := by
    rw [switchboard_release]
    exact .single (.release s) (hrelease s) (.release rfl h)
  unfold check
  split
  · exact hreleased.trans (.of_eq (ModuleTable.switchboard_modify_of_state _ _ _ _ _ _ rfl).symm)
  · next hstay =>
    split
    · exact .refl _
    · have hcounted : Switchboard.Does P (t.switchboard i.holder none w)
          ((t.modify s fun r => { r with failures := r.failures + 1 }).switchboard none none
            (i.release t s w).2) :=
        hreleased.trans (.of_eq (ModuleTable.switchboard_modify_of_state _ _ _ _ _ _ rfl).symm)
      dsimp only
      split
      · exact hcounted
      · -- Only an enabled slot can stay that long: another is released at once.
        have henabled : t.states s = .enabled := by
          simp only [SlotPower.isEnabled, Bool.or_eq_true, Bool.not_eq_true', not_or,
            Bool.not_eq_false, beq_iff_eq] at hstay
          exact hstay.2
        refine hcounted.trans ?_
        refine (Switchboard.Does.single (.off s .disabledIsolation) (hoff s)
          (.offCycle rfl rfl ?_)).trans (.of_eq ?_)
        · rw [ModuleTable.switchboard_modify_of_state _ _ _ _ _ _ rfl]
          exact henabled
        · have hboard : rails (Board.setPower s false (Board.setBus s false (i.release t s w).2))
              = ((rails (i.release t s w).2).setPower s false).setBus s false := by
            rw [Wired.rails_setPower, Wired.rails_setBus]
            rfl
          exact (ModuleTable.switchboard_off _ none none _ _ s
            (fun r => { r with state := .disabledIsolation }) hboard).symm

/-- A tick grants the bus, takes it, or begins to power-cycle a slot. -/
theorem does_tick (hgrant : i.holder = none → ∀ s, P (.grant s))
    (hrelease : ∀ s, P (.release s)) (hoff : ∀ s, P (.off s .disabledIsolation)) :
    Switchboard.Does P (t.switchboard i.holder none w)
      ((i.tick t w).2.2.1.switchboard (i.tick t w).2.1.holder none (i.tick t w).2.2.2) := by
  unfold tick
  split
  · next h => exact does_scan P i t w (hgrant h) h
  · next s h =>
    have hcheck := does_check P i t w s hrelease hoff h
    split
    · next hdone => rw [hdone] at hcheck; exact hcheck
    · exact hcheck

/-- The end of a tick that power-cycled a slot switches the slot on again. -/
theorem does_finishCycle (s : Slot) (hon : P (.on s .cycle)) (h : i.holder = none)
    (hstate : t.states s = .disabledIsolation) :
    Switchboard.Does P (t.switchboard i.holder none w)
      ((i.finishCycle t s w).2.2.1.switchboard (i.finishCycle t s w).2.1.holder none
        (i.finishCycle t s w).2.2.2) := by
  have hsame : ((t.modify s fun r => { r with failures := 0 }).get s).state
      = .disabledIsolation := by
    rw [ModuleTable.get_modify_self]
    exact hstate
  have hboard : (i.finishCycle t s w).2.2.1.switchboard (i.finishCycle t s w).2.1.holder none
        (i.finishCycle t s w).2.2.2
      = (t.switchboard i.holder none w).apply (.on s .cycle) := by
    simp only [finishCycle, if_pos hsame, ModuleTable.switchboard, ModuleTable.states_modify,
      Wired.rails_setBus, Wired.rails_setPower]
    simp [Switchboard.apply, Switchboard.record, rearm, h]
  exact hboard ▸ .single (.on s .cycle) hon (.onCycle rfl h hstate)

end Isolation

namespace Coordinator

/-- The switchboard of a coordinator and its world, during a pause or between events. -/
def switchboard (c : Coordinator) (pause : Option Pause) (w : W) : Switchboard :=
  c.modules.switchboard c.isolation.holder (pause.bind Pause.down?) w

/-- What holds while the coordinator waits in the middle of an event. -/
def Awaits (c : Coordinator) : Option Pause → Prop
  | some (.cycling s _) => c.isolation.holder = none ∧ c.modules.states s = .disabledIsolation
  | some (.pulsing s others _) => ∀ r ∈ s :: others, c.modules.states r = .enabled
  | some (.resetting s _) => c.modules.states s = .enabled
  | some (.refusing _ _) | none => True

/-- Some allowed switchings of a kind lead from a switchboard to that of a coordinator, which may
wait in the middle of an event. -/
structure Follows (P : Switching → Prop) (b : Switchboard) (c : Coordinator)
    (pause : Option Pause) (w : W) : Prop where
  does : Switchboard.Does P b (c.switchboard pause w)
  awaits : c.Awaits pause

namespace Follows

variable {P Q : Switching → Prop} {b : Switchboard} {c : Coordinator} {pause : Option Pause} {w : W}

theorem of_eq (h : c.switchboard none w = b) : c.Follows P b none w :=
  ⟨.of_eq h.symm, trivial⟩

theorem of_does (h : Switchboard.Does P b (c.switchboard none w)) : c.Follows P b none w :=
  ⟨h, trivial⟩

theorem trans {b' : Switchboard} (h : Switchboard.Does P b b') (h' : c.Follows P b' pause w) :
    c.Follows P b pause w :=
  ⟨h.trans h'.does, h'.awaits⟩

theorem mono (hPQ : ∀ x, P x → Q x) (h : c.Follows P b pause w) : c.Follows Q b pause w :=
  ⟨h.does.mono hPQ, h.awaits⟩

end Follows

end Coordinator

end ModuleBus

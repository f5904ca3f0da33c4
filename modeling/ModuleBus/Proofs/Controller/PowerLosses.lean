import ModuleBus.Proofs.Controller.Keys
import ModuleBus.Proofs.Controller.Watchdog

set_option autoImplicit false

/-! # What takes the power of a slot

Six things take the power of a slot that has it. A tick of the scheduler does so to power-cycle the
slot; the other five are events of their own, or one of the pulses of a check, and which of them
does it can be told beforehand from the accounts, the records and the event (`CutsPower`). None of
the five has anything to do with keys: what the slots show, and what the dispatcher holds, stay as
they were. -/

namespace ModuleBus

open Wired (rails)

/-! ## Ticks -/

namespace Isolation

variable {W : Type} [Board W] [Link W] [Wired W] (i : Isolation) (t : ModuleTable) (w : W)

theorem power_release (r : Slot) : (rails (i.release t r w).2).power = (rails w).power := by
  simp [release, Rails.setBuses, Rails.setGrant]

theorem power_scan : (rails (i.scan t w).2.2).power = (rails w).power := by
  unfold scan
  dsimp only
  split
  · rfl
  · next s hfind =>
    have hcontroller : s ≠ Slot.controller := by
      have hcandidate := List.find?_some hfind
      simp only [isCandidate, Bool.and_eq_true, bne_iff_ne] at hcandidate
      exact hcandidate.1.1.1.1
    simp [rails_connectOnly hcontroller, Rails.setBuses, Rails.setGrant]

/-- A tick takes the power of a slot only to power-cycle it. -/
theorem tick_of_power {s : Slot} (hon : (rails w).power s = true)
    (hoff : (rails (i.tick t w).2.2.2).power s = false) : (i.tick t w).1 = .cycling s := by
  have hcheck (r : Slot) (hlost : (rails (i.check t r w).2.2.2).power s = false) :
      (i.check t r w).1 = .cycling s := by
    revert hlost
    unfold check
    dsimp only
    split
    · rw [power_release, hon]
      exact fun hlost => by cases hlost
    · split
      · rw [hon]
        exact fun hlost => by cases hlost
      · split
        · rw [power_release, hon]
          exact fun hlost => by cases hlost
        · intro hlost
          by_cases hsr : s = r
          · rw [hsr]
          · rw [Wired.rails_setPower, Wired.rails_setBus, Rails.setPower] at hlost
            dsimp only [Rails.setBus] at hlost
            rw [Function.update_of_ne hsr, power_release, hon] at hlost
            cases hlost
  unfold tick at hoff ⊢
  split at hoff
  · rw [power_scan, hon] at hoff
    cases hoff
  · next r _ =>
    have hcycling := hcheck r
    split at hoff
    · next hdone =>
      rw [hdone] at hcycling
      cases hcycling hoff
    · exact hcycling hoff

end Isolation

namespace Coordinator

variable {W : Type} [Board W] [Link W] [Wired W]

/-- What is recorded of a slot, and whether it has power. -/
def supply (c : Coordinator) (w : W) (s : Slot) : SlotPower × Bool :=
  ((c.modules.get s).state, (rails w).power s)

/-- What becomes of that when its budget is looked at. -/
def budgeted (remaining : Int) : SlotPower × Bool → SlotPower × Bool
  | (.enabled, power) => if remaining ≤ 0 then (.disabledEnergy, false) else (.enabled, power)
  | (.disabledEnergy, power) => if remaining > 0 then (.enabled, true) else (.disabledEnergy, power)
  | supply => supply

theorem budgeted_budgeted (remaining : Int) (supply : SlotPower × Bool) :
    budgeted remaining (budgeted remaining supply) = budgeted remaining supply := by
  obtain ⟨state, power⟩ := supply
  by_cases h : remaining ≤ 0
  · cases state <;> simp [budgeted, h, Int.not_lt.mpr h]
  · cases state <;> simp [budgeted, h, Int.not_le.mp h]

/-- Looking at a budget concerns its slot only. -/
theorem supply_applyBudget (c : Coordinator) (r : Slot) (w : W) (s : Slot) :
    (c.applyBudget r w).1.supply (c.applyBudget r w).2 s
      = if s = r then budgeted (c.accounts.get (.module s)).remaining (c.supply w s)
        else c.supply w s := by
  by_cases hsr : s = r
  · subst hsr
    rw [if_pos rfl]
    unfold applyBudget supply
    cases hstate : (c.modules.get s).state with
    | enabled =>
      by_cases h : (c.accounts.get (.module s)).remaining ≤ 0
      · simp [budgeted, h, disable, modify, Rails.setBus, Rails.setPower]
      · simp [budgeted, h, hstate]
    | disabledEnergy =>
      by_cases h : (c.accounts.get (.module s)).remaining > 0
      · simp only [budgeted, if_pos h, enable, modify, ModuleTable.get_modify_self]
        split <;> simp [Rails.setBus, Rails.setPower]
      · simp [budgeted, h, hstate]
    | _ => simp [budgeted, hstate]
  · rw [if_neg hsr]
    unfold applyBudget supply
    dsimp only
    split
    · split
      · simp [disable, modify, ModuleTable.get_modify_of_ne _ _ hsr, Rails.setBus, Rails.setPower,
          hsr]
      · rfl
    · split
      · simp only [enable, modify, ModuleTable.get_modify_of_ne _ _ hsr]
        split <;> simp [Rails.setBus, Rails.setPower, hsr]
      · rfl
    · rfl

/-- So each slot whose budget is looked at gets what it is due, once. -/
theorem supply_foldl_applyBudget (slots : List Slot) (c : Coordinator) (w : W) (s : Slot) :
    (slots.foldl (fun (c, w) r => applyBudget c r w) (c, w)).1.supply
        (slots.foldl (fun (c, w) r => applyBudget c r w) (c, w)).2 s
      = if s ∈ slots then budgeted (c.accounts.get (.module s)).remaining (c.supply w s)
        else c.supply w s := by
  induction slots generalizing c w with
  | nil => rfl
  | cons r rest ih =>
    obtain ⟨modules, hframe⟩ := applyBudget_frame c r w
    have haccounts : (c.applyBudget r w).1.accounts = c.accounts := by rw [hframe]
    rw [List.foldl_cons]
    refine (ih (c.applyBudget r w).1 (c.applyBudget r w).2).trans ?_
    rw [haccounts, supply_applyBudget]
    by_cases hsr : s = r
    · simp [hsr, budgeted_budgeted]
    · simp [hsr]

theorem supply_energyUpdate (c : Coordinator) (now : Nat) (w : W) (s : Slot) :
    (c.energyUpdate now w).1.supply (c.energyUpdate now w).2 s
      = if s ∈ Slot.metered then
          budgeted ((c.billed now w).get (.module s)).remaining (c.supply w s)
        else c.supply w s := by
  have hbudgets (slots : List Slot) := supply_foldl_applyBudget slots
    { c with accounts := c.billed now w } (Board.resetCounters w) s
  unfold energyUpdate
  dsimp only
  -- the fold is not to be unrolled
  generalize Slot.metered = slots at *
  have hreset : supply { c with accounts := c.billed now w } (Board.resetCounters w) s
      = c.supply w s := by
    simp [supply]
  rw [← hreset]
  refine Eq.trans ?_ (hbudgets slots)
  simp only [supply, persist, Wired.rails_writeMemory]
  rfl

/-- An accounting period takes the power of a metered slot that is enabled and has no budget left,
and of no other. -/
theorem power_energyUpdate_iff {c : Coordinator} {now : Nat} {w : W} {s : Slot}
    (hon : (rails w).power s = true) :
    (rails (c.energyUpdate now w).2).power s = false ↔
      s ∈ Slot.metered ∧ (c.modules.get s).state = .enabled
        ∧ ((c.billed now w).get (.module s)).remaining ≤ 0 := by
  have hpower : (rails (c.energyUpdate now w).2).power s
      = ((c.energyUpdate now w).1.supply (c.energyUpdate now w).2 s).2 := rfl
  rw [hpower, supply_energyUpdate, supply, hon]
  by_cases hs : s ∈ Slot.metered
  · rw [if_pos hs]
    cases hstate : (c.modules.get s).state with
    | enabled =>
      by_cases h : ((c.billed now w).get (.module s)).remaining ≤ 0 <;> simp [budgeted, h, hs]
    | disabledEnergy =>
      by_cases h : ((c.billed now w).get (.module s)).remaining > 0 <;> simp [budgeted, h]
    | _ => simp [budgeted]
  · simp [hs]

end Coordinator

/-- The switching takes the power of the slot. -/
def Switching.Cuts (s : Slot) : Switching → Prop
  | .off r _ | .cut r => r = s
  | _ => False

/-- Switchings that leave a slot without its power include one that takes it. -/
theorem Switchboard.Does.exists_cuts {P : Switching → Prop} {b b' : Switchboard} {s : Slot}
    (h : Switchboard.Does P b b') (hon : b.rails.power s = true)
    (hoff : b'.rails.power s = false) : ∃ x, P x ∧ x.Cuts s := by
  induction h with
  | refl b => exact nomatch hon.symm.trans hoff
  | @step b b' x hx hallowed _ ih =>
    by_cases hcuts : x.Cuts s
    · exact ⟨x, hx, hcuts⟩
    · refine ih ?_ hoff
      cases x with
      | off r state | cut r =>
        have hsr : s ≠ r := fun hsr => hcuts hsr.symm
        simpa [apply, record, Rails.setBus, Rails.setPower, hsr] using hon
      | on r cause =>
        rw [power_apply_on, Rails.setPower]
        by_cases hsr : s = r
        · simp [hsr]
        · simpa [hsr] using hon
      | restore r =>
        by_cases hsr : s = r
        · simp [apply, Rails.setPower, hsr]
        · simpa [apply, Rails.setPower, hsr] using hon
      | deny | strand | grant | release => exact hon

/-- Switchings after which a slot is off for a moment, though none was before, include one that takes
the power of a slot for a moment. -/
theorem Switchboard.Does.exists_cut {P : Switching → Prop} {b b' : Switchboard} {s : Slot}
    (h : Switchboard.Does P b b') (hnone : b.down = none) (hdown : b'.down = some s) :
    ∃ x, P x ∧ ∃ r, x = .cut r := by
  induction h with
  | refl b => exact nomatch hnone.symm.trans hdown
  | @step b b' x hx hallowed _ ih =>
    cases x with
    | cut r => exact ⟨_, hx, r, rfl⟩
    | restore r => exact ih rfl hdown
    | off | on | deny | strand | grant | release => exact ih hnone hdown

namespace Coordinator

variable {W : Type} [Board W] {c : Coordinator} {name : String} {s : Slot}

theorem applyDownlink_off (clock : Clock) (hname : c.modules.findName? name = some s)
    (hs : s ≠ Slot.controller) (w : W) :
    c.applyDownlink clock (.off name) w = (none, c.disable s .disabledOff w) := by
  have hfound : (c.modules.findName? name).filter (· != Slot.controller) = some s := by
    rw [hname, Option.filter_some, if_pos (by simpa using hs)]
  rw [applyDownlink, hfound]
  rfl

/-- The slot is enabled and may be switched on again, so that it is reset when that is asked for. -/
def IsResettable (c : Coordinator) (w : W) (s : Slot) : Prop :=
  (c.remainingLive w s > 0 ∨ s.isMetered = false) ∧ (c.modules.get s).state = .enabled

theorem applyDownlink_reset (clock : Clock) (hname : c.modules.findName? name = some s)
    (hs : s ≠ Slot.controller) {w : W} (h : c.IsResettable w s) :
    c.applyDownlink clock (.reset name) w
      = (some (.resetting s (clock.after c.watchdog.resetPulse)), c, Board.setPower s false w) := by
  have hfound : (c.modules.findName? name).filter (· != Slot.controller) = some s := by
    rw [hname, Option.filter_some, if_pos (by simpa using hs)]
  rw [applyDownlink, hfound]
  dsimp only
  rw [applyTo]
  exact if_pos (by simpa [SlotPower.isEnabled, IsResettable] using h)

theorem applyDownlink_reset_of_not (clock : Clock) (hname : c.modules.findName? name = some s)
    (hs : s ≠ Slot.controller) {w : W} (h : ¬c.IsResettable w s) :
    c.applyDownlink clock (.reset name) w = (none, c, w) := by
  have hfound : (c.modules.findName? name).filter (· != Slot.controller) = some s := by
    rw [hname, Option.filter_some, if_pos (by simpa using hs)]
  rw [applyDownlink, hfound]
  dsimp only
  rw [applyTo]
  exact if_neg (by simpa [SlotPower.isEnabled, IsResettable] using h)

/-- The end of a tick that power-cycled a slot takes no power. -/
theorem power_finishTick [Link W] [Wired W] (c : Coordinator) (r : Slot) (e : Endpoint W) :
    (rails (c.finishTick r e).2.2.world).power = ((rails e.world).setPower r true).power := by
  have hafter (c' : Coordinator) (event : IsolationEvent) (e' : Endpoint W) :
      rails (c'.afterTick event e').2.world = rails e'.world :=
    congrArg Switchboard.rails (switchboard_afterTick c' event e')
  simp only [finishTick, hafter, Isolation.finishCycle]
  split <;> simp [Rails.setBus]

/-- A tick of the coordinator switches what the scheduler does. -/
theorem isolationTick_shows [Link W] [Wired W] (c : Coordinator) (e : Endpoint W) :
    (c.isolationTick e).1 = (c.isolation.tick c.modules e.world).1
      ∧ rails (c.isolationTick e).2.2.world
        = rails (c.isolation.tick c.modules e.world).2.2.2 := by
  unfold isolationTick
  dsimp only
  split
  · exact ⟨rfl, congrArg Switchboard.rails (switchboard_afterTick _ _ _)⟩
  · exact ⟨rfl, rfl⟩

/-- What a tick takes the power of is to be power-cycled. -/
theorem pause_tick [Link W] [Wired W] (clock : Clock) {e : Endpoint W}
    (hon : (rails e.world).power s = true)
    (hoff : (rails (c.begin clock .tick e).2.2.world).power s = false) :
    ∃ timer, (c.begin clock .tick e).1 = some (.cycling s timer) := by
  obtain ⟨htick, hrails⟩ := c.isolationTick_shows e
  have hcycling (h : (rails (c.isolationTick e).2.2.world).power s = false) :
      (c.isolationTick e).1 = .cycling s :=
    htick.trans (Isolation.tick_of_power c.isolation c.modules e.world hon (hrails ▸ h))
  unfold begin at hoff ⊢
  dsimp only at hoff ⊢
  split at hoff
  · next hdone =>
    rw [hdone] at hcycling
    exact absurd (hcycling hoff) nofun
  · next r c' e' hpaused =>
    rw [hpaused] at hcycling
    cases hcycling hoff
    exact ⟨_, rfl⟩

end Coordinator

namespace Moment

variable {W : Type} [Board W]

/-- What takes the power of a slot, other than a tick that power-cycles it. -/
inductive CutsPower (m : Moment W) (clock : Clock) (s : Slot) : Event → Prop
  /-- An accounting period finds that the slot has no budget left. -/
  | exhausted : s ∈ Slot.metered → (m.coordinator.modules.get s).state = .enabled →
      ((m.coordinator.billed clock.now m.endpoint.world).get (.module s)).remaining ≤ 0 →
      CutsPower m clock s .period
  /-- A check finds that the module has missed its watchdog. -/
  | silent : s ∈ m.coordinator.stale → CutsPower m clock s .check
  /-- The module asks to be put to sleep. -/
  | asleep {request : Message} {ms : Nat} : m.coordinator.nap? request = some (s, ms) →
      CutsPower m clock s (.message request)
  /-- A command from outside switches the slot off. -/
  | off {event : Event} {name : String} : event.command? = some (.off name) →
      m.coordinator.modules.findName? name = some s → CutsPower m clock s event
  /-- A command from outside resets the slot. -/
  | reset {event : Event} {name : String} : event.command? = some (.reset name) →
      m.coordinator.modules.findName? name = some s →
      m.coordinator.IsResettable m.endpoint.world s → CutsPower m clock s event

variable [Link W] [Wired W] {m : Moment W} {clock : Clock} {event : Event} {s : Slot}

/-- The slot has power. -/
def hasPower (m : Moment W) (s : Slot) : Bool := (rails m.endpoint.world).power s

/-- The beginning of a check. -/
theorem pulsing_check (m : Moment W) (clock : Clock) :
    m.Pulsing [] m.coordinator.stale (m.begin clock .check) :=
  pulsing_pulseNext (m.coordinator.checked Slot.all) clock m.endpoint.node m.endpoint.world rfl
    (by simp)

/-- An event that takes the power of a slot is one of those, or a tick that power-cycles it. -/
theorem cutsPower_of_begin (hs : s ≠ Slot.controller) (hon : m.hasPower s = true)
    (hoff : (m.begin clock event).hasPower s = false) :
    (∃ timer, (m.begin clock event).pause = some (.cycling s timer))
      ∨ m.CutsPower clock s event := by
  obtain ⟨x, hx, hcuts⟩ :=
    (m.coordinator.makes_begin clock event m.endpoint).does.exists_cuts hon hoff
  cases hx with
  | grant | release | refill | wake | tire | refuse => exact hcuts.elim
  | cycle => exact .inl (Coordinator.pause_tick clock hon hoff)
  | exhaust =>
    unfold hasPower begin Coordinator.begin at hoff
    dsimp only at hoff
    obtain ⟨hmetered, hstate, hbudget⟩ := (Coordinator.power_energyUpdate_iff hon).mp hoff
    exact .inr (.exhausted hmetered hstate hbudget)
  | pulse =>
    have hpower : (m.begin clock .check).hasPower s = _ := (m.pulsing_check clock).power s
    by_cases hfirst : m.coordinator.stale.head? = some s
    · exact .inr (.silent (List.mem_of_mem_head? hfirst))
    · rw [hpower, if_neg hfirst] at hoff
      rw [hasPower] at hon
      simp [hon] at hoff
  | sleep hnap =>
    cases hcuts
    exact .inr (.asleep hnap)
  | command hcommand hd =>
    cases hd with
    | off hname =>
      cases hcuts
      exact .inr (.off hcommand hname)
    | on | strand => exact hcuts.elim
  | reset hcommand hname =>
    cases hcuts
    refine .inr (.reset hcommand hname ?_)
    by_contra hstays
    rw [begin, Coordinator.begin_of_command _ _ _ _ hcommand, Coordinator.begin,
      Coordinator.applyDownlink_reset_of_not clock hname hs hstays] at hoff
    cases hon.symm.trans hoff

omit [Wired W] in
/-- Such an event leaves what the slots show and the keys as they were. -/
theorem CutsPower.keeps (h : m.CutsPower clock s event) :
    (m.begin clock event).coordinator.modules.badges = m.coordinator.modules.badges
      ∧ (m.begin clock event).endpoint.node = m.endpoint.node := by
  have hcommand {d : DownlinkCommand} (hd : event.command? = some d) :
      (m.begin clock event).coordinator.modules.badges = m.coordinator.modules.badges
        ∧ (m.begin clock event).endpoint.node = m.endpoint.node := by
    rw [begin, Coordinator.begin_of_command _ _ _ _ hd]
    exact ⟨ModuleTable.badges_of_plates
      (Coordinator.plates_applyDownlink m.coordinator clock d m.endpoint.world), rfl⟩
  cases h with
  | exhausted =>
    unfold begin Coordinator.begin
    dsimp only
    exact ⟨ModuleTable.badges_of_plates
      (Coordinator.plates_energyUpdate m.coordinator clock.now m.endpoint.world), rfl⟩
  | silent =>
    unfold begin Coordinator.begin
    dsimp only
    exact ⟨ModuleTable.badges_of_plates
      (Coordinator.plates_checkWatchdogs m.coordinator clock m.endpoint.world), rfl⟩
  | asleep hnap =>
    rw [begin, Coordinator.begin_nap _ clock m.endpoint hnap]
    exact ⟨ModuleTable.badges_of_plates
      (Coordinator.plates_sleep m.coordinator clock.now s _ m.endpoint.world), rfl⟩
  | off hd _ => exact hcommand hd
  | reset hd _ _ => exact hcommand hd

end Moment

end ModuleBus

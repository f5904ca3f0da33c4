import ModuleBus.Proofs.Controller.Power

set_option autoImplicit false

/-! # A slot without a budget stays off

Five events can bring a slot back: an accounting period, the end of a sleep, a command to switch
it on, a power cycle and the end of a short loss of power. The first three look at the budget,
each in its own way; the last two concern slots only that were on when the event began. A first
part of an event therefore never gives power to a slot without a budget, and what follows its
pauses never gives power to a slot that was off. -/

namespace ModuleBus

open Wired (rails)
open Switchboard (Does)

/-- A world in which only time, and a reset, move the energy counters. -/
class Metered (W : Type) [Board W] [Link W] : Prop where
  counter_setPower (s : Slot) (on : Bool) (w : W) :
    Board.counter (Board.setPower s on w) = Board.counter w
  counter_setBus (s : Slot) (on : Bool) (w : W) :
    Board.counter (Board.setBus s on w) = Board.counter w
  counter_feedWatchdog (w : W) : Board.counter (Board.feedWatchdog w) = Board.counter w
  counter_resetCounters (w : W) : Board.counter (Board.resetCounters w) = fun _ => 0
  counter_writeMemory (offset : Nat) (data : Bytes) (w : W) :
    Board.counter (Board.writeMemory offset data w).2 = Board.counter w
  counter_write (p : Port) (a : Address) (packet : Bytes) (w : W) :
    Board.counter (Link.write p a packet w).2 = Board.counter w

attribute [simp] Metered.counter_setPower Metered.counter_setBus Metered.counter_feedWatchdog
  Metered.counter_resetCounters Metered.counter_writeMemory Metered.counter_write

instance : Metered Backplane where
  counter_setPower _ _ _ := rfl
  counter_setBus _ _ _ := rfl
  counter_feedWatchdog _ := rfl
  counter_resetCounters _ := by
    have hzero : Backplane.wholeUnits 0.0 = 0 := by decide +kernel
    funext e
    simp [Board.counter, Board.resetCounters, PerEntity.get_constant, hzero]
  counter_writeMemory _ _ _ := rfl
  counter_write p a packet b := by
    obtain ⟨ports, h⟩ := Backplane.write_eq p a packet b
    simp only [Link.write, h]
    rfl

instance : Metered DeskWorld where
  counter_setPower _ _ _ := rfl
  counter_setBus _ _ _ := rfl
  counter_feedWatchdog _ := rfl
  counter_resetCounters _ := by
    funext e
    exact PerEntity.get_constant 0 e
  counter_writeMemory offset data w := by
    simp only [Board.writeMemory]
    split <;> rfl
  counter_write _ _ _ _ := rfl

/-! ## Switchings that give power -/

/-- The switching gives power to a slot. -/
def Switching.Raises (s : Slot) : Switching → Prop
  | .on r _ | .restore r => r = s
  | _ => False

namespace Switchboard

/-- The slot is not enabled, and has power only if it had some to begin with. -/
def IsDormant (b : Switchboard) (s : Slot) (powered : Bool) : Prop :=
  b.state s ≠ .enabled ∧ (b.rails.power s = true → powered = true)

/-- A dormant slot stays dormant unless it is given power. -/
theorem isDormant_apply {b : Switchboard} {s : Slot} {powered : Bool} {x : Switching}
    (hx : ¬x.Raises s) (hallowed : b.Allowed x) (h : b.IsDormant s powered) :
    (b.apply x).IsDormant s powered := by
  obtain ⟨hstate, hpower⟩ := h
  unfold IsDormant
  cases x with
  | off r state =>
    by_cases hrs : s = r
    · simp [apply, record, Rails.setBus, Rails.setPower, hrs, hallowed.ne_enabled]
    · simpa [apply, record, Rails.setBus, Rails.setPower, hrs] using ⟨hstate, hpower⟩
  | on r cause =>
    have hrs : s ≠ r := fun hrs => hx hrs.symm
    rw [power_apply_on]
    simpa [apply, record, Rails.setPower, hrs] using ⟨hstate, hpower⟩
  | deny r | strand r =>
    by_cases hrs : s = r
    · subst hrs
      simpa [apply, record] using hpower
    · simpa [apply, record, hrs] using ⟨hstate, hpower⟩
  | grant r | release r => exact ⟨hstate, hpower⟩
  | cut r =>
    by_cases hrs : s = r
    · subst hrs
      simpa [apply, Rails.setPower] using hstate
    · simpa [apply, Rails.setPower, hrs] using ⟨hstate, hpower⟩
  | restore r =>
    have hrs : s ≠ r := fun hrs => hx hrs.symm
    simpa [apply, Rails.setPower, hrs] using ⟨hstate, hpower⟩

theorem Does.isDormant {b b' : Switchboard} {s : Slot} {powered : Bool}
    (h : Does (fun x => ¬x.Raises s) b b') (hb : b.IsDormant s powered) :
    b'.IsDormant s powered :=
  h.preserves (fun _ _ hx hallowed hb => isDormant_apply hx hallowed hb) hb

end Switchboard

/-! ## Pauses

Only a tick power-cycles a slot, and only one that was enabled. -/

theorem Isolation.enabled_of_cycling {W : Type} [Board W] (i : Isolation) (t : ModuleTable) (w : W)
    {s : Slot} (h : (i.tick t w).1 = .cycling s) : t.states s = .enabled := by
  have hcheck {r : Slot} (h : (i.check t r w).1 = .cycling s) : t.states s = .enabled := by
    unfold check at h
    dsimp only at h
    split at h
    · cases h
    · next hstay =>
      simp only [Bool.or_eq_true, Bool.not_eq_true', not_or, Bool.not_eq_false,
        SlotPower.isEnabled, beq_iff_eq] at hstay
      split at h
      · cases h
      · split at h
        · cases h
        · cases h
          exact hstay.2
  unfold tick at h
  split at h
  · cases h
  · split at h
    · cases h
    · exact hcheck h

namespace Coordinator

variable {W : Type} [Board W] [Link W]

omit [Link W] in
theorem pause_applyDownlink (c : Coordinator) (clock : Clock) (command : DownlinkCommand) (w : W)
    (s : Slot) (timer : Timer) :
    (c.applyDownlink clock command w).1 ≠ some (.cycling s timer) := by
  cases command with
  | hardReset => exact nofun
  | on name | off name | reset name =>
    unfold applyDownlink
    dsimp only
    split
    · exact nofun
    · unfold applyTo
      dsimp only
      try split
      all_goals simp

/-- A request does not begin a power cycle. -/
theorem pause_handle (c : Coordinator) (clock : Clock) (m : Message) (e : Endpoint W) (s : Slot)
    (timer : Timer) : (c.handle clock m e).1.toOption.join ≠ some (.cycling s timer) := by
  have hreply (c : Coordinator) (payload : Bytes) (e : Endpoint W) :
      (c.reply m payload e).1.toOption.join ≠ some (.cycling s timer) := by
    rw [pause_reply]
    exact nofun
  unfold handle
  split
  · unfold handleInitialization
    split
    · exact nofun
    · unfold declare
      split
      · exact nofun
      · exact hreply _ _ _
    · unfold exchangeKey
      split
      · exact nofun
      · dsimp only
        split
        · exact nofun
        · split <;> exact nofun
    all_goals exact hreply _ _ _
  · unfold handleEnergy
    split
    · exact nofun
    · dsimp only
      split
      · exact nofun
      · exact hreply _ _ _
      · exact hreply _ _ _
      · split
        · exact hreply _ _ _
        · exact nofun
      · split <;> exact nofun
  · unfold handleTimeLocation
    dsimp only
    split
    · exact hreply _ _ _
    · exact hreply _ _ _
    · exact nofun
    · exact nofun
  · unfold handleWatchdog
    split
    · exact nofun
    · split
      · exact nofun
      · exact hreply _ _ _
  · unfold handleNetworking
    split
    · split
      · exact nofun
      · split
        · exact nofun
        · exact pause_applyDownlink c clock _ e.world s timer
    · exact nofun
  · exact nofun

/-- An event that begins a power cycle is a tick, and the slot was enabled. -/
theorem enabled_of_begin (c : Coordinator) (clock : Clock) (event : Event) (e : Endpoint W)
    {s : Slot} {timer : Timer} (h : (c.begin clock event e).1 = some (.cycling s timer)) :
    c.modules.states s = .enabled := by
  cases event with
  | tick =>
    have htick := Isolation.enabled_of_cycling c.isolation c.modules e.world (s := s)
    unfold begin isolationTick at h
    dsimp only at h
    split at h
    · cases h
    · next r _ _ hcycling =>
      split at hcycling
      · next hdone =>
        injection hcycling with hevent
        rw [hdone] at hevent
        cases hevent
      · injection hcycling with hevent
        cases h
        exact htick hevent
  | period | wake | fix fix =>
    unfold begin at h
    dsimp only at h
    cases h
  | check =>
    unfold begin checkWatchdogs pulseNext at h
    dsimp only at h
    split at h <;> cases h
  | command d =>
    unfold begin at h
    dsimp only at h
    exact absurd h (pause_applyDownlink c clock d e.world s timer)
  | message m =>
    have hhandle := pause_handle c clock m e s timer
    unfold begin receive at h
    dsimp only at h
    split at h
    · next hok =>
      rw [hok] at hhandle
      exact absurd h hhandle
    · split at h
      · simp [refuse] at h
      · cases h

/-- Nor does what follows a pause begin one. -/
theorem pause_resume (c : Coordinator) (clock : Clock) (pause : Pause) (e : Endpoint W) (s : Slot)
    (timer : Timer) : (c.resume clock pause e).1 ≠ some (.cycling s timer) := by
  cases pause with
  | cycling r timer' | resetting r timer' => simp [resume]
  | pulsing r others timer' => cases others <;> simp [resume, pulseNext]
  | refusing r timer' => simp [resume, refuse]

/-! ## Budgets during an event

Live budgets depend on the accounts and the counters alone. -/

/-- What the live budgets are calculated from. -/
def meters (c : Coordinator) (w : W) : Accounts × (Entity → Nat) := (c.accounts, Board.counter w)

omit [Link W] in
theorem remainingLive_of_meters {c c' : Coordinator} {w w' : W} (h : c'.meters w' = c.meters w)
    (s : Slot) : c'.remainingLive w' s = c.remainingLive w s := by
  obtain ⟨haccounts, hcounter⟩ := Prod.mk.injEq .. ▸ h
  rw [remainingLive, remainingLive, haccounts, hcounter]

variable [Metered W]

theorem meters_enable (c : Coordinator) (s : Slot) (w : W) :
    (c.enable s w).1.meters (c.enable s w).2 = c.meters w := by
  simp only [meters, enable, modify]
  split <;> simp

theorem meters_disable (c : Coordinator) (s : Slot) (state : SlotPower) (w : W) :
    (c.disable s state w).1.meters (c.disable s state w).2 = c.meters w := by
  simp [meters, disable, modify]

theorem meters_wake (c : Coordinator) (s : Slot) (w : W) :
    (c.wake s w).1.meters (c.wake s w).2 = c.meters w := by
  unfold wake
  dsimp only
  split
  · split
    · rw [meters_enable]
      rfl
    · rfl
  · rfl

theorem meters_applyBudget (c : Coordinator) (s : Slot) (w : W) :
    (c.applyBudget s w).1.meters (c.applyBudget s w).2 = c.meters w := by
  unfold applyBudget
  dsimp only
  split
  · split
    · rw [meters_disable]
    · rfl
  · split
    · rw [meters_enable]
    · rfl
  · rfl

omit [Link W] [Metered W] in
theorem meters_foldl {work : Coordinator → Slot → W → Coordinator × W}
    (h : ∀ c s w, (work c s w).1.meters (work c s w).2 = c.meters w) (slots : List Slot)
    (c : Coordinator) (w : W) :
    (slots.foldl (fun (c, w) s => work c s w) (c, w)).1.meters
      (slots.foldl (fun (c, w) s => work c s w) (c, w)).2 = c.meters w := by
  induction slots generalizing c w with
  | nil => rfl
  | cons s rest ih => exact (ih _ _).trans (h c s w)

theorem meters_wakeDue (c : Coordinator) (now : Nat) (w : W) :
    (c.wakeDue now w).1.meters (c.wakeDue now w).2 = c.meters w :=
  meters_foldl meters_wake _ c w

/-- After a period no energy is left that is not billed. -/
theorem meters_energyUpdate (c : Coordinator) (now : Nat) (w : W) :
    (c.energyUpdate now w).1.meters (c.energyUpdate now w).2 = (c.billed now w, fun _ => 0) := by
  have hpersist (c : Coordinator) (w : W) : c.meters (c.persist now w) = c.meters w := by
    rw [meters, persist, Metered.counter_writeMemory]
    rfl
  unfold energyUpdate
  dsimp only
  rw [hpersist, meters_foldl meters_applyBudget, meters, Metered.counter_resetCounters]
  rfl

theorem remainingLive_energyUpdate (c : Coordinator) (now : Nat) (w : W) (s : Slot) :
    (c.energyUpdate now w).1.remainingLive (c.energyUpdate now w).2 s
      = ((c.billed now w).get (.module s)).remaining := by
  obtain ⟨haccounts, hcounter⟩ := Prod.mk.injEq .. ▸ meters_energyUpdate c now w
  rw [remainingLive, haccounts, hcounter]
  simp [Accounts.remainingLive, Accounts.unbilled]

theorem meters_applyDownlink (c : Coordinator) (clock : Clock) (command : DownlinkCommand)
    (w : W) :
    (c.applyDownlink clock command w).2.1.meters (c.applyDownlink clock command w).2.2
      = c.meters w := by
  cases command with
  | hardReset => rfl
  | on name =>
    unfold applyDownlink applyTo
    dsimp only
    split
    · rfl
    · split
      · exact meters_enable c _ w
      · rfl
  | off name =>
    unfold applyDownlink applyTo
    dsimp only
    split
    · rfl
    · exact meters_disable c _ _ w
  | reset name =>
    unfold applyDownlink applyTo
    dsimp only
    split
    · rfl
    · split
      · simp [meters]
      · rfl

theorem meters_afterTick (c : Coordinator) (event : IsolationEvent) (e : Endpoint W) :
    (c.afterTick event e).1.meters (c.afterTick event e).2.world = c.meters e.world := by
  have hfeed (c : Coordinator) (e : Endpoint W) (stop : Bool) :
      c.meters (if stop then e else { e with world := Board.feedWatchdog e.world }).world
        = c.meters e.world := by
    cases stop with
    | true => rfl
    | false => simp [meters]
  cases event with
  | powerCycled s =>
    have hforget : (c.forgetKey s e).1.meters (c.forgetKey s e).2.world = c.meters e.world := by
      unfold forgetKey
      dsimp only
      split <;> rfl
    exact (hfeed _ _ _).trans hforget
  | idle | granted s | holding s | released s | timedOut s failures => exact hfeed c e _

/-- What follows a pause does not move the budgets. -/
theorem meters_resume (c : Coordinator) (clock : Clock) (pause : Pause) (e : Endpoint W) :
    (c.resume clock pause e).2.1.meters (c.resume clock pause e).2.2.world = c.meters e.world := by
  cases pause with
  | cycling s timer =>
    have hcounter : Board.counter (c.isolation.finishCycle c.modules s e.world).2.2.2
        = Board.counter e.world := by
      unfold Isolation.finishCycle
      dsimp only
      split <;> simp
    unfold resume finishTick
    dsimp only
    rw [meters_afterTick, meters, hcounter]
    rfl
  | pulsing s others timer =>
    cases others with
    | nil => simp [resume, pulseNext, meters]
    | cons r others => simp [resume, pulseNext, meters]
  | resetting s timer => simp [resume, meters]
  | refusing r timer =>
    have hsend : Board.counter (r.send clock e).2.world = Board.counter e.world :=
      view_errorReply Metered.counter_write r clock e
    simp [resume, refuse, meters, hsend]

/-! ## The first part of an event -/

variable [Wired W]

omit [Link W] [Metered W] [Wired W] in
/-- A command gives power to a slot only if a budget is left to it. -/
theorem not_raises_of_commands {c : Coordinator} {w : W} {d : DownlinkCommand} {s : Slot}
    {x : Switching} (h : c.Commands w d x) (hmetered : s.isMetered = true)
    (hbudget : c.remainingLive w s ≤ 0) : ¬x.Raises s := by
  cases h with
  | off _ | strand _ _ _ _ => exact id
  | on _ hmay =>
    rintro rfl
    rcases hmay with hbudget' | hunmetered
    · exact absurd hbudget' (Int.not_lt.mpr hbudget)
    · rw [hmetered] at hunmetered
      cases hunmetered

/-- The first part of an event gives no power to a slot that has no budget left after it. -/
theorem follows_begin_of_exhausted (c : Coordinator) (clock : Clock) (event : Event)
    (e : Endpoint W) {s : Slot} (hmetered : s.isMetered = true)
    (hbudget : (c.begin clock event e).2.1.remainingLive (c.begin clock event e).2.2.world s ≤ 0) :
    (c.begin clock event e).2.1.Follows (fun x => ¬x.Raises s) (c.switchboard none e.world)
      (c.begin clock event e).1 (c.begin clock event e).2.2.world := by
  have hcommand {d : DownlinkCommand} (hd : event.command? = some d) (x : Switching)
      (hx : c.Commands e.world d x) : ¬x.Raises s := by
    rw [begin_of_command c clock event e hd] at hbudget
    unfold begin at hbudget
    dsimp only at hbudget
    rw [remainingLive_of_meters (meters_applyDownlink c clock d e.world)] at hbudget
    exact not_raises_of_commands hx hmetered hbudget
  by_cases hwake : event = .wake
  · -- That a sleeper has a budget when it wakes is known only then.
    subst hwake
    unfold begin at hbudget ⊢
    dsimp only at hbudget ⊢
    rw [remainingLive_of_meters (meters_wakeDue c clock.now e.world)] at hbudget
    refine .of_does (does_wakeDue (fun c' w' => c'.meters w' = c.meters e.world) c clock.now e.world
      (fun _ _ _ => id) ?_ (fun c' r w' h => (meters_wake c' r w').trans h) rfl)
    rintro c' r w' hmeters _ _ hremaining rfl
    rw [remainingLive_of_meters hmeters] at hremaining
    exact absurd hremaining (Int.not_lt.mpr hbudget)
  · refine (c.makes_begin clock event e).mono fun x hx => ?_
    cases hx with
    | refill _ hremaining =>
      rintro rfl
      unfold begin at hbudget
      dsimp only at hbudget
      rw [remainingLive_energyUpdate] at hbudget
      exact absurd hremaining (Int.not_lt.mpr hbudget)
    | wake _ _ => exact absurd rfl hwake
    | command hd hx => exact hcommand hd x hx
    | _ => exact id

/-! ## Accounting periods -/

/-- The state of the slot agrees with its budget. -/
def IsSquare (c : Coordinator) (s : Slot) : Prop :=
  ((c.modules.get s).state = .enabled → 0 < (c.accounts.get (.module s)).remaining)
    ∧ ((c.modules.get s).state = .disabledEnergy → (c.accounts.get (.module s)).remaining ≤ 0)

omit [Link W] [Metered W] [Wired W] in
theorem isSquare_modify_of_ne (c : Coordinator) {r s : Slot} (f : ModuleRecord → ModuleRecord)
    (hrs : s ≠ r) : (c.modify r f).IsSquare s ↔ c.IsSquare s := by
  rw [IsSquare, modify, ModuleTable.get_modify_of_ne _ _ hrs]
  rfl

omit [Link W] [Metered W] [Wired W] in
theorem isSquare_applyBudget_self (c : Coordinator) (s : Slot) (w : W) :
    (c.applyBudget s w).1.IsSquare s := by
  unfold applyBudget
  dsimp only
  split
  · next hstate =>
    split
    · next hbudget => simp [IsSquare, disable, modify, hbudget]
    · next hbudget => simpa [IsSquare, hstate] using hbudget
  · next hstate =>
    split
    · next hbudget => simpa [IsSquare, enable, modify] using hbudget
    · next hbudget => simpa [IsSquare, hstate] using hbudget
  · next henabled hdenied => exact ⟨fun h => absurd h henabled, fun h => absurd h hdenied⟩

omit [Link W] [Metered W] [Wired W] in
theorem isSquare_applyBudget (c : Coordinator) (r : Slot) {s : Slot} (w : W) (h : c.IsSquare s) :
    (c.applyBudget r w).1.IsSquare s := by
  by_cases hrs : s = r
  · rw [hrs]
    exact isSquare_applyBudget_self c r w
  · unfold applyBudget
    dsimp only
    split
    · split
      · exact (isSquare_modify_of_ne c _ hrs).mpr h
      · exact h
    · split
      · exact (isSquare_modify_of_ne c _ hrs).mpr h
      · exact h
    · exact h

omit [Link W] [Metered W] [Wired W] in
/-- Every slot is seen to once, and what is done for others later does not undo it. -/
theorem isSquare_foldl_applyBudget (slots : List Slot) (c : Coordinator) (w : W) {s : Slot}
    (h : s ∈ slots ∨ c.IsSquare s) :
    (slots.foldl (fun (c, w) s => c.applyBudget s w) (c, w)).1.IsSquare s := by
  induction slots generalizing c w with
  | nil => exact h.resolve_left (List.not_mem_nil)
  | cons r rest ih =>
    refine ih _ _ ?_
    rcases h with hmem | hsquare
    · rcases List.mem_cons.mp hmem with rfl | hrest
      · exact .inr (isSquare_applyBudget_self c s w)
      · exact .inl hrest
    · exact .inr (isSquare_applyBudget c r w hsquare)

omit [Link W] [Metered W] [Wired W] in
theorem isSquare_energyUpdate (c : Coordinator) (now : Nat) (w : W) {s : Slot}
    (hs : s.isMetered = true) : (c.energyUpdate now w).1.IsSquare s := by
  unfold energyUpdate
  dsimp only
  exact isSquare_foldl_applyBudget _ _ _ (.inl (List.mem_filter.mpr ⟨Slot.mem_all s, hs⟩))

end Coordinator

namespace Moment

variable {W : Type} [Board W] [Link W] [Wired W]

/-- The rest of an event, from its first pause to its end. Other participants may act during a
pause, but the counters stand still. -/
inductive Finishes : Moment W → Moment W → Prop
  | done {m : Moment W} : m.pause = none → Finishes m m
  | resume {m m' : Moment W} {pause : Pause} {e : Endpoint W} (clock : Clock) :
      m.pause = some pause → Drifts m.endpoint e →
      Board.counter e.world = Board.counter m.endpoint.world →
      Finishes (resume { m with endpoint := e } clock pause) m' → Finishes m m'

theorem Finishes.eq_of_idle {m m' : Moment W} (h : Finishes m m') (hidle : m.pause = none) :
    m' = m := by
  cases h with
  | done _ => rfl
  | resume _ hpause =>
    rw [hidle] at hpause
    cases hpause

variable [Metered W] {m m' : Moment W} {s : Slot}

theorem meters_of_finishes (h : Finishes m m') :
    m'.coordinator.meters m'.endpoint.world = m.coordinator.meters m.endpoint.world := by
  induction h with
  | done _ => rfl
  | @resume m _ pause e clock _ _ hcounter _ ih =>
    have hresume := m.coordinator.meters_resume clock pause e
    exact ih.trans (hresume.trans (congrArg (Prod.mk _) hcounter))

omit [Metered W] in
/-- Only slots that are meant to be on get their power back after a pause. -/
theorem isDormant_of_finishes {powered : Bool} (h : Finishes m m') (hawaits : m.Awaits)
    (hcycling : ∀ timer, m.pause ≠ some (.cycling s timer))
    (hdormant : m.switchboard.IsDormant s powered) : m'.switchboard.IsDormant s powered := by
  induction h with
  | done _ => exact hdormant
  | @resume m _ pause e clock hpause hdrift _ _ ih =>
    rw [Awaits, hpause] at hawaits
    have hboard : m.coordinator.switchboard (some pause) e.world = m.switchboard := by
      rw [switchboard, hpause, Coordinator.switchboard, ModuleTable.switchboard, hdrift.rails]
      rfl
    have hfollows := m.coordinator.follows_resume clock pause e (P := fun x => ¬x.Raises s)
      (by
        rintro r timer hr rfl
        exact hcycling timer (hpause.trans (congrArg some hr)))
      (by
        -- A slot that waits for its power is enabled, which a dormant one is not.
        rintro r hr rfl
        refine hdormant.1 ?_
        cases pause with
        | pulsing _ others timer =>
          cases hr
          exact hawaits _ List.mem_cons_self
        | resetting _ timer =>
          cases hr
          exact hawaits
        | cycling | refusing => cases hr)
      (fun _ => id) hawaits
    rw [hboard] at hfollows
    exact ih hfollows.awaits (fun timer => m.coordinator.pause_resume clock pause e s timer)
      (hfollows.does.isDormant hdormant)

/-- **A slot without a budget stays off.** -/
theorem enabled_only_with_budget {settings : Settings} {now : Nat} {node : Dispatcher} {w : W}
    {m m' : Moment W} (hreaches : Reaches (fun _ _ => True) (boot settings now node w) m)
    (hidle : m.pause = none) (clock : Clock) (event : Event)
    (hfinishes : Finishes (m.begin clock event) m') {s : Slot} (hs : s.isMetered = true) :
    ((m.coordinator.modules.get s).state ≠ .enabled →
        (m'.coordinator.modules.get s).state = .enabled →
        0 < m'.coordinator.remainingLive m'.endpoint.world s)
      ∧ ((rails m.endpoint.world).power s = false → (rails m'.endpoint.world).power s = true →
        0 < m'.coordinator.remainingLive m'.endpoint.world s)
      ∧ (event = .period →
        ((m'.coordinator.modules.get s).state = .enabled →
            0 < (m'.coordinator.accounts.get (.module s)).remaining)
          ∧ ((m'.coordinator.modules.get s).state = .disabledEnergy →
            (m'.coordinator.accounts.get (.module s)).remaining ≤ 0)) := by
  have hawaits : m.Awaits := by
    rw [Awaits, hidle]
    trivial
  have hpower : (m.coordinator.modules.get s).state = .enabled →
      (rails m.endpoint.world).power s = true := by
    intro hon
    have hmodule : s ≠ Slot.controller := by
      rintro rfl
      cases hs
    have hsound : m.switchboard.IsInStep s ∨ m.switchboard.IsStranded s :=
      invariant_of_reaches (K := fun _ => True) (fun _ _ _ _ _ => trivial) (fun _ _ => trivial)
        (fun _ _ _ hallowed hb => Switchboard.isInStep_or_isStranded_apply hallowed hb)
        (.inl (isInStep_boot settings now node w hmodule)) hreaches
    rcases hsound with hstep | ⟨hstate, _⟩
    · exact ((isInStep_iff hidle s).mp hstep).mpr hon
    · cases hon.symm.trans hstate
  -- A slot without a budget that is off stays dormant to the end of the event.
  have hdormant (hoff : (m.coordinator.modules.get s).state ≠ .enabled)
      (hbudget : m'.coordinator.remainingLive m'.endpoint.world s ≤ 0) :
      m'.switchboard.IsDormant s ((rails m.endpoint.world).power s) := by
    rw [Coordinator.remainingLive_of_meters (meters_of_finishes hfinishes)] at hbudget
    have hfollows := m.coordinator.follows_begin_of_exhausted clock event m.endpoint hs hbudget
    refine isDormant_of_finishes hfinishes hfollows.awaits (fun timer htimer => ?_)
      (hfollows.does.isDormant ⟨hoff, id⟩)
    exact hoff (m.coordinator.enabled_of_begin clock event m.endpoint htimer)
  refine ⟨fun hoff hon => ?_, fun hoff hon => ?_, ?_⟩
  · by_contra hbudget
    exact (hdormant hoff (Int.not_lt.mp hbudget)).1 hon
  · by_contra hbudget
    have hstate : (m.coordinator.modules.get s).state ≠ .enabled := fun h => by
      rw [hpower h] at hoff
      cases hoff
    have hstill := (hdormant hstate (Int.not_lt.mp hbudget)).2 hon
    rw [hoff] at hstill
    cases hstill
  · -- A period has no pause, so that it ends with what its accounts say.
    rintro rfl
    have hsquare := m.coordinator.isSquare_energyUpdate clock.now m.endpoint.world hs
    have hidle' : (m.begin clock .period).pause = none := by
      unfold begin Coordinator.begin
      dsimp only
    have hcoordinator : m'.coordinator
        = (m.coordinator.energyUpdate clock.now m.endpoint.world).1 := by
      rw [hfinishes.eq_of_idle hidle']
      unfold begin Coordinator.begin
      dsimp only
    rw [hcoordinator]
    exact hsquare

/-- The module on the desk goes to sleep for a millisecond. -/
def napping : Moment DeskWorld := declared.begin ⟨0, 2⟩ sleepRequest

theorem reaches_napping : Reaches (fun _ _ => True) deskBoot napping :=
  reaches_declared.tail (.begin ⟨0, 2⟩ _ (by decide +kernel) trivial)

/-- The end of the sleep switches the module on, and a budget is left to it. -/
theorem napping_module_has_budget :
    (rails napping.endpoint.world).power Slot.last = false
      ∧ (rails (napping.begin ⟨1000, 3⟩ .wake).endpoint.world).power Slot.last = true
      ∧ 0 < (napping.begin ⟨1000, 3⟩ .wake).coordinator.remainingLive
        (napping.begin ⟨1000, 3⟩ .wake).endpoint.world Slot.last := by
  have hoff : (rails napping.endpoint.world).power Slot.last = false := by decide +kernel
  have hon : (rails (napping.begin ⟨1000, 3⟩ .wake).endpoint.world).power Slot.last = true := by
    decide +kernel
  have hbudget := enabled_only_with_budget reaches_napping (by decide +kernel) ⟨1000, 3⟩ .wake
    (.done (by decide +kernel)) (s := Slot.last) (by decide)
  exact ⟨hoff, hon, hbudget.2.1 hoff hon⟩

end Moment

end ModuleBus

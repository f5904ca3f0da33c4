import ModuleBus.Proofs.Controller.Switchboard

set_option autoImplicit false

/-! # What each event switches

Every function of the coordinator that handles an event is, on the switchboard, a sequence of
allowed switchings: routine ones, or such as a command from outside asks for. A message shows on
the switchboard by the command that it carries, or the sleep that it asks for, only. -/

namespace ModuleBus

open Wired (rails)
open Switchboard (Does)

variable {W : Type} [Board W] [Link W] [Wired W] {P : Switching → Prop}

namespace Coordinator

/-! ## Switching slots -/

theorem switchboard_disable (c : Coordinator) (s : Slot) (state : SlotPower) (w : W) :
    (c.disable s state w).1.switchboard none (c.disable s state w).2
      = (c.switchboard none w).apply (.off s state) := by
  refine ModuleTable.switchboard_off c.modules c.isolation.holder none w _ s _ ?_
  rw [disable, Wired.rails_setBus, Wired.rails_setPower]

theorem switchboard_enable (c : Coordinator) (s : Slot) (cause : Cause) (w : W) :
    (c.enable s w).1.switchboard none (c.enable s w).2
      = (c.switchboard none w).apply (.on s cause) := by
  simp only [enable, switchboard, modify, ModuleTable.switchboard, ModuleTable.states_modify]
  cases h : c.isolation.holder <;> simp [Switchboard.apply, Switchboard.record]

/-- A change of a record that leaves the state alone does not show. -/
theorem switchboard_modify (c : Coordinator) (pause : Option Pause) (s : Slot)
    (f : ModuleRecord → ModuleRecord) (w : W)
    (h : (f (c.modules.get s)).state = (c.modules.get s).state) :
    (c.modify s f).switchboard pause w = c.switchboard pause w :=
  ModuleTable.switchboard_modify_of_state c.modules _ _ w s f h

/-! ## Ticks -/

theorem switchboard_forgetKey (c : Coordinator) (s : Slot) (e : Endpoint W) :
    (c.forgetKey s e).1.switchboard none (c.forgetKey s e).2.world
      = c.switchboard none e.world := by
  have hworld : (c.forgetKey s e).2.world = e.world := by
    unfold forgetKey
    dsimp only
    split <;> rfl
  rw [hworld]
  exact switchboard_modify c none s _ e.world rfl

/-- Feeding the watchdog, or not, does not show. -/
theorem switchboard_feed (c : Coordinator) (stop : Bool) (e : Endpoint W) :
    c.switchboard none (if stop then e else { e with world := Board.feedWatchdog e.world }).world
      = c.switchboard none e.world := by
  cases stop with
  | true => rfl
  | false => simp [switchboard, ModuleTable.switchboard]

theorem switchboard_afterTick (c : Coordinator) (event : IsolationEvent) (e : Endpoint W) :
    (c.afterTick event e).1.switchboard none (c.afterTick event e).2.world
      = c.switchboard none e.world := by
  unfold afterTick
  split
  · next c' e' hevent =>
    rw [switchboard_feed]
    split at hevent
    · next s =>
      have hforget := switchboard_forgetKey c s e
      rw [hevent] at hforget
      exact hforget
    · cases hevent
      rfl

/-- A tick switches as the scheduler does. -/
theorem does_isolationTick (c : Coordinator) (e : Endpoint W)
    (hgrant : c.isolation.holder = none → ∀ s, P (.grant s))
    (hrelease : ∀ s, P (.release s)) (hoff : ∀ s, P (.off s .disabledIsolation)) :
    Does P (c.switchboard none e.world)
      ((c.isolationTick e).2.1.switchboard none (c.isolationTick e).2.2.world) := by
  have htick := Isolation.does_tick P c.isolation c.modules e.world hgrant hrelease hoff
  unfold isolationTick
  dsimp only
  split
  · rw [switchboard_afterTick]
    exact htick
  · exact htick

omit [Link W] [Wired W] in
/-- A tick that waits has taken the bus from everybody and recorded why the slot is off. -/
theorem awaits_isolationTick (c : Coordinator) (e : Endpoint W) {s : Slot} (timer : Timer)
    (h : (c.isolationTick e).1 = .cycling s) :
    (c.isolationTick e).2.1.Awaits (some (.cycling s timer)) := by
  have hcycling := Isolation.tick_cycling c.isolation c.modules e.world (s := s)
  unfold isolationTick at h ⊢
  dsimp only at h ⊢
  split at h
  · next hdone =>
    rw [hdone] at h
    cases h
  · next hpaused =>
    rw [hpaused]
    exact hcycling h

/-- The end of a tick that waited switches the slot on. -/
theorem does_finishTick (c : Coordinator) (s : Slot) (timer : Timer) (e : Endpoint W)
    (hon : P (.on s .cycle)) (h : c.Awaits (some (.cycling s timer))) :
    Does P (c.switchboard (some (.cycling s timer)) e.world)
      ((c.finishTick s e).2.1.switchboard none (c.finishTick s e).2.2.world) := by
  have hcycle := Isolation.does_finishCycle P c.isolation c.modules e.world s hon h.1 h.2
  unfold finishTick
  dsimp only
  rw [switchboard_afterTick]
  exact hcycle

/-! ## Energy -/

/-- The accounts do not show, nor does a write to the memory. -/
theorem switchboard_persist (c : Coordinator) (now : Nat) (w : W) :
    c.switchboard none (c.persist now w) = c.switchboard none w := by
  simp only [switchboard, ModuleTable.switchboard, persist, Wired.rails_writeMemory]

theorem does_applyBudget (c : Coordinator) (s : Slot) (w : W)
    (hoff : (c.accounts.get (.module s)).remaining ≤ 0 → P (.off s .disabledEnergy))
    (hon : 0 < (c.accounts.get (.module s)).remaining → P (.on s .budget)) :
    Does P (c.switchboard none w)
      ((c.applyBudget s w).1.switchboard none (c.applyBudget s w).2) := by
  unfold applyBudget
  dsimp only
  split
  · next hstate =>
    split
    · next hbudget =>
      rw [switchboard_disable]
      exact .single _ (hoff hbudget) (.offEnergy rfl hstate)
    · exact .refl _
  · next hstate =>
    split
    · next hbudget =>
      rw [switchboard_enable _ _ .budget]
      exact .single _ (hon hbudget) (.onBudget rfl hstate)
    · exact .refl _
  · exact .refl _

/-- Work on some slots, one after another, is a sequence of switchings if the work on one is, as
long as something holds that the work keeps. -/
theorem does_foldl (I : Coordinator → W → Prop) (work : Coordinator → Slot → W → Coordinator × W)
    (slots : List Slot)
    (h : ∀ c s w, s ∈ slots → I c w →
      Does P (c.switchboard none w) ((work c s w).1.switchboard none (work c s w).2)
        ∧ I (work c s w).1 (work c s w).2)
    (c : Coordinator) (w : W) (hI : I c w) :
    Does P (c.switchboard none w)
      ((slots.foldl (fun (c, w) s => work c s w) (c, w)).1.switchboard none
        (slots.foldl (fun (c, w) s => work c s w) (c, w)).2) := by
  induction slots generalizing c w with
  | nil => exact .refl _
  | cons s rest ih =>
    obtain ⟨hdoes, hkept⟩ := h c s w List.mem_cons_self hI
    exact hdoes.trans (ih (fun c r w hr => h c r w (List.mem_cons_of_mem s hr)) _ _ hkept)

omit [Link W] [Wired W] in
/-- Looking at a budget changes records of modules at most. -/
theorem applyBudget_frame (c : Coordinator) (s : Slot) (w : W) :
    ∃ modules, (c.applyBudget s w).1 = { c with modules := modules } := by
  unfold applyBudget
  dsimp only
  split
  · split
    · exact ⟨_, rfl⟩
    · exact ⟨_, rfl⟩
  · split
    · exact ⟨_, rfl⟩
    · exact ⟨_, rfl⟩
  · exact ⟨_, rfl⟩

/-- The accounts at the end of a period. -/
def billed (c : Coordinator) (now : Nat) (w : W) : Accounts :=
  (c.accounts.update (Board.counter w) (Board.charge? w) now).2

/-- The end of a period switches slots according to their budgets. -/
theorem does_energyUpdate (c : Coordinator) (now : Nat) (w : W)
    (hoff : ∀ s ∈ Slot.metered, ((c.billed now w).get (.module s)).remaining ≤ 0 →
      P (.off s .disabledEnergy))
    (hon : ∀ s ∈ Slot.metered, 0 < ((c.billed now w).get (.module s)).remaining →
      P (.on s .budget)) :
    Does P (c.switchboard none w)
      ((c.energyUpdate now w).1.switchboard none (c.energyUpdate now w).2) := by
  unfold energyUpdate
  dsimp only
  rw [switchboard_persist]
  have hreset : c.switchboard none w
      = ({ c with accounts := c.billed now w }).switchboard none (Board.resetCounters w) := by
    simp only [switchboard, ModuleTable.switchboard, Wired.rails_resetCounters]
  rw [hreset]
  refine does_foldl (fun c' _ => c'.accounts = c.billed now w) applyBudget Slot.metered ?_ _ _ rfl
  intro c' s w' hs haccounts
  refine ⟨does_applyBudget c' s w' ?_ ?_, ?_⟩
  · rw [haccounts]
    exact hoff s hs
  · rw [haccounts]
    exact hon s hs
  · obtain ⟨modules, hframe⟩ := applyBudget_frame c' s w'
    rw [hframe]
    exact haccounts

/-! ## Watchdog -/

theorem states_modify (c : Coordinator) (s : Slot) (f : ModuleRecord → ModuleRecord)
    (h : (f (c.modules.get s)).state = (c.modules.get s).state) :
    (c.modify s f).modules.states = c.modules.states :=
  ModuleTable.states_modify_of_state c.modules s f h

/-- Switching off the first of some enabled slots for a moment, while the others wait. -/
theorem follows_pulseNext (c : Coordinator) (clock : Clock) (slots : List Slot) (w : W)
    (hcut : ∀ s, P (.cut s)) (h : ∀ s ∈ slots, c.modules.states s = .enabled) :
    c.Follows P (c.switchboard none w) (c.pulseNext clock slots w).1
      (c.pulseNext clock slots w).2 := by
  cases slots with
  | nil => exact .of_eq rfl
  | cons s others =>
    have hboard : c.switchboard (c.pulseNext clock (s :: others) w).1
        (c.pulseNext clock (s :: others) w).2 = (c.switchboard none w).apply (.cut s) := by
      simp only [switchboard, ModuleTable.switchboard, pulseNext, Wired.rails_setPower]
      rfl
    refine ⟨?_, h⟩
    rw [hboard]
    exact .single _ (hcut s) (.cut rfl (h s List.mem_cons_self))

/-- The coordinator after a check, before it pulses any slot. -/
def checked (c : Coordinator) (slots : List Slot) : Coordinator :=
  slots.foldl
    (fun (c : Coordinator) s => c.modify s fun r =>
      if r.isWatched && r.state.isEnabled then { r with hasTickled := false } else r) c

theorem checked_frame (c : Coordinator) (slots : List Slot) :
    ∃ modules, c.checked slots = { c with modules := modules }
      ∧ modules.states = c.modules.states := by
  induction slots generalizing c with
  | nil => exact ⟨c.modules, rfl, rfl⟩
  | cons s rest ih =>
    obtain ⟨modules, hframe, hstates⟩ := ih (c.modify s fun r =>
      if r.isWatched && r.state.isEnabled then { r with hasTickled := false } else r)
    refine ⟨modules, hframe, hstates.trans (states_modify c s _ ?_)⟩
    split <;> rfl

/-- A check pulses enabled slots. -/
theorem follows_checkWatchdogs (c : Coordinator) (clock : Clock) (w : W)
    (hcut : ∀ s, P (.cut s)) :
    (c.checkWatchdogs clock w).2.1.Follows P (c.switchboard none w)
      (c.checkWatchdogs clock w).1 (c.checkWatchdogs clock w).2.2 := by
  obtain ⟨modules, hframe, hstates⟩ := checked_frame c Slot.all
  have hstale : ∀ s ∈ Slot.all.filter (fun s => isStale (c.modules.get s)),
      (c.checked Slot.all).modules.states s = .enabled := by
    intro s hs
    have hs := (List.mem_filter.mp hs).2
    simp only [isStale, SlotPower.isEnabled, Bool.and_eq_true, beq_iff_eq] at hs
    rw [hframe, hstates]
    exact hs.1.2
  have hsame : c.switchboard none w = (c.checked Slot.all).switchboard none w := by
    simp only [switchboard, ModuleTable.switchboard, hframe, hstates]
  rw [hsame]
  exact follows_pulseNext (c.checked Slot.all) clock _ w hcut hstale

/-! ## Sleeping slots -/

/-- Recording a slot as being without energy, or leaving it on while it is recorded so. -/
theorem switchboard_deny (c : Coordinator) (s : Slot) (w : W) :
    (c.modify s fun r => { r with state := .disabledEnergy }).switchboard none w
      = (c.switchboard none w).apply (.deny s) :=
  ModuleTable.switchboard_modify c.modules c.isolation.holder none w s _

/-- A slot that wakes up is switched on if it has energy. -/
theorem does_wake (c : Coordinator) (s : Slot) (w : W)
    (hdeny : c.modules.states s = .disabledDutyCycle → P (.deny s))
    (hon : c.modules.states s = .disabledDutyCycle → 0 < c.remainingLive w s → P (.on s .wake)) :
    Does P (c.switchboard none w)
      ((c.wake s w).1.switchboard none (c.wake s w).2) := by
  unfold wake
  dsimp only
  split
  · next hstate =>
    split
    · next hbudget =>
      rw [switchboard_enable _ _ .wake]
      exact .single _ (hon hstate hbudget) (.onWake rfl hstate)
    · rw [switchboard_deny]
      have hasleep : c.modules.states s = .disabledDutyCycle := hstate
      exact .single _ (hdeny hstate) (.deny rfl fun h => nomatch hasleep.symm.trans h)
  · exact .refl _

/-- The time has come at which the slot is to wake up. -/
def IsDue (c : Coordinator) (now : Nat) (s : Slot) : Prop :=
  ∃ due, c.wakes.get s = some due ∧ due ≤ now

/-- The slots whose time has come. -/
def due (c : Coordinator) (now : Nat) : List Slot :=
  Slot.all.filter fun s => (c.wakes.get s).any (· ≤ now)

omit [Board W] [Link W] [Wired W] in
theorem mem_due (c : Coordinator) (now : Nat) (s : Slot) : s ∈ c.due now ↔ c.IsDue now s := by
  simp [due, IsDue, Slot.mem_all, Option.any_eq_true]

omit [Link W] [Wired W] in
/-- Waking a slot puts none to sleep. -/
theorem states_wake_ne (c : Coordinator) (s : Slot) (w : W) {r : Slot}
    (h : c.modules.states r ≠ .disabledDutyCycle) :
    (c.wake s w).1.modules.states r = c.modules.states r := by
  unfold wake enable modify
  dsimp only
  split
  · next hasleep =>
    have hrs : r ≠ s := fun hrs => h (hrs ▸ hasleep)
    split
    · rw [ModuleTable.states_modify, Function.update_of_ne hrs]
    · rw [ModuleTable.states_modify, Function.update_of_ne hrs]
  · rfl

/-- The slots whose time has come wake up if they are asleep, as long as something holds that a
waking keeps. -/
theorem does_wakeDue (I : Coordinator → W → Prop) (c : Coordinator) (now : Nat) (w : W)
    (hdeny : ∀ s, c.IsDue now s → c.modules.states s = .disabledDutyCycle → P (.deny s))
    (hon : ∀ c' s w', I c' w' → c.IsDue now s → c.modules.states s = .disabledDutyCycle →
      0 < c'.remainingLive w' s → P (.on s .wake))
    (hwake : ∀ c s w, I c w → I (c.wake s w).1 (c.wake s w).2) (hI : I c w) :
    Does P (c.switchboard none w)
      ((c.wakeDue now w).1.switchboard none (c.wakeDue now w).2) := by
  have hasleep {c' : Coordinator} {s : Slot}
      (h : ∀ r, c.modules.states r ≠ .disabledDutyCycle →
        c'.modules.states r = c.modules.states r)
      (hs : c'.modules.states s = .disabledDutyCycle) :
      c.modules.states s = .disabledDutyCycle := by
    by_contra hawake
    exact hawake ((h s hawake).symm.trans hs)
  refine does_foldl (fun c' w' => I c' w' ∧ ∀ r, c.modules.states r ≠ .disabledDutyCycle →
    c'.modules.states r = c.modules.states r) wake (c.due now) ?_ c w ⟨hI, fun _ _ => rfl⟩
  intro c' s w' hs ⟨hI', hsame⟩
  have hdue := (c.mem_due now s).mp hs
  refine ⟨does_wake c' s w' (fun h => hdeny s hdue (hasleep hsame h))
      (fun h => hon c' s w' hI' hdue (hasleep hsame h)), hwake c' s w' hI', fun r hr => ?_⟩
  rw [states_wake_ne c' s w' (by rw [hsame r hr]; exact hr), hsame r hr]

/-- A slot that goes to sleep is switched off. -/
theorem does_sleep (c : Coordinator) (now : Nat) (s : Slot) (ms : Nat) (w : W)
    (hsleep : P (.off s .disabledDutyCycle)) :
    Does P (c.switchboard none w)
      ((c.sleep now s ms w).1.switchboard none (c.sleep now s ms w).2) := by
  unfold sleep
  split
  · exact .refl _
  · have hoff := switchboard_disable c s .disabledDutyCycle w
    exact hoff ▸ .single _ hsleep (.offSleep rfl)

/-! ## Commands from outside -/

/-- A command switches the slot that it names. Where the slot is to be switched on but has no
energy left, its state says so afterwards, even if it is on. -/
theorem follows_applyTo (c : Coordinator) (clock : Clock) (command : DownlinkCommand)
    (name : String) (s : Slot) (w : W) (hname : c.modules.findName? name = some s)
    (hcommand : command = .on name ∨ command = .off name ∨ command = .reset name)
    (hcommands : ∀ x, c.Commands w command x → P x) (hdeny : command = .on name → P (.deny s))
    (hcut : command = .reset name → P (.cut s)) :
    (c.applyTo clock command s w).2.1.Follows P (c.switchboard none w)
      (c.applyTo clock command s w).1 (c.applyTo clock command s w).2.2 := by
  rcases hcommand with rfl | rfl | rfl
  · unfold applyTo
    dsimp only
    split
    · next hmay =>
      refine ⟨?_, trivial⟩
      rw [switchboard_enable _ _ .command]
      refine .single _ (hcommands _ (.on hname ?_)) (.onCommand rfl)
      simpa using hmay
    · next hmay =>
      refine ⟨?_, trivial⟩
      simp only [gt_iff_lt, Bool.or_eq_true, decide_eq_true_eq, Bool.not_eq_true', not_or,
        Int.not_lt, Bool.not_eq_false] at hmay
      -- The state is overwritten whatever it was; the rails are not touched in either case.
      rw [switchboard_deny]
      by_cases hstate : c.modules.states s = .enabled
      · exact .single (.strand s) (hcommands _ (.strand hname hmay.1 hmay.2 hstate))
          (.strand rfl hstate)
      · exact .single (.deny s) (hdeny rfl) (.deny rfl hstate)
  · refine ⟨?_, trivial⟩
    have hoff := switchboard_disable c s .disabledOff w
    exact hoff ▸ .single _ (hcommands _ (.off hname)) (.offCommand rfl)
  · unfold applyTo
    dsimp only
    split
    · next hmay =>
      simp only [SlotPower.isEnabled, Bool.and_eq_true, beq_iff_eq] at hmay
      refine ⟨?_, hmay.2⟩
      have hboard : c.switchboard (some (.resetting s (clock.after c.watchdog.resetPulse)))
          (Board.setPower s false w) = (c.switchboard none w).apply (.cut s) := by
        simp only [switchboard, ModuleTable.switchboard, Wired.rails_setPower]
        rfl
      rw [hboard]
      exact .single _ (hcut rfl) (.cut rfl hmay.2)
    · exact ⟨.refl _, trivial⟩

theorem follows_applyDownlink (c : Coordinator) (clock : Clock) (command : DownlinkCommand)
    (w : W) (hcommands : ∀ x, c.Commands w command x → P x)
    (hdeny : ∀ name s, command = .on name → c.modules.findName? name = some s → P (.deny s))
    (hcut : ∀ name s, command = .reset name → c.modules.findName? name = some s → P (.cut s)) :
    (c.applyDownlink clock command w).2.1.Follows P (c.switchboard none w)
      (c.applyDownlink clock command w).1 (c.applyDownlink clock command w).2.2 := by
  have hnamed (name : String)
      (hcommand : command = .on name ∨ command = .off name ∨ command = .reset name)
      {s : Slot} (h : (c.modules.findName? name).filter (· != Slot.controller) = some s) :=
    have hfound := (Option.filter_eq_some_iff.mp h).1
    follows_applyTo c clock command name s w hfound hcommand hcommands
      (hdeny name s · hfound) (hcut name s · hfound)
  cases command with
  | hardReset => exact ⟨.refl _, trivial⟩
  | on name | off name | reset name =>
    unfold applyDownlink
    dsimp only
    split
    · exact ⟨.refl _, trivial⟩
    · next h => exact hnamed name (by simp) h

end Coordinator

end ModuleBus

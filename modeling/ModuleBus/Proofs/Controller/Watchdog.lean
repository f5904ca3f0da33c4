import ModuleBus.Proofs.Controller.Power
import ModuleBus.Proofs.Controller.Sleeps

set_option autoImplicit false

/-! # Watchdogs

A slot is watched from a Start of its module on, and is marked as heard of by each Start or Tickle.
A check clears the marks that it finds, and power-cycles the watched slots that it finds without
one. Everything that switches a slot off, and everything that takes its address away, ends the
watching, and nothing but a Start brings it back. So a mark that a check finds is of a sign of life
since the check before, and a mark that it misses was cleared by that check, with no sign of life
since: the marks tell exactly what the log of the run tells.

A check switches on what it has switched off. Of a module that is no news, since a slot that is
watched and enabled has power. The controller's own slot is the exception: the rail of that slot is
never switched on otherwise, but a sign of life from the controller's address has it watched too. -/

namespace ModuleBus

open Wired (rails)

/-! ## Marks

What each function leaves of them. -/

/-- Nothing was heard of a slot while its record changed: if it is watched now, it was watched
before, and it is marked as heard of only if it was. -/
def ModuleRecord.Unheard (r r' : ModuleRecord) : Prop :=
  r'.isWatched = true → r.isWatched = true ∧ r'.hasTickled = r.hasTickled

namespace ModuleTable

/-- Nothing was heard of the slot while the table changed. -/
def Unheard (t t' : ModuleTable) (s : Slot) : Prop := (t.get s).Unheard (t'.get s)

variable {t t' t'' : ModuleTable} {s : Slot}

theorem Unheard.refl (t : ModuleTable) (s : Slot) : t.Unheard t s := fun h => ⟨h, rfl⟩

theorem Unheard.trans (h : t.Unheard t' s) (h' : t'.Unheard t'' s) : t.Unheard t'' s := by
  intro hwatched
  obtain ⟨hwatched', hsame'⟩ := h' hwatched
  obtain ⟨hwatched'', hsame⟩ := h hwatched'
  exact ⟨hwatched'', hsame'.trans hsame⟩

theorem unheard_modify (t : ModuleTable) (s r : Slot) (f : ModuleRecord → ModuleRecord)
    (hf : (t.get r).Unheard (f (t.get r))) : t.Unheard (t.modify r f) s := by
  unfold Unheard
  by_cases hrs : s = r
  · rw [hrs, get_modify_self]
    exact hf
  · rw [get_modify_of_ne _ _ hrs]
    exact Unheard.refl t s

/-- A slot that loses its address is no longer watched. -/
theorem unheard_vacateOther (t : ModuleTable) (s r : Slot) (a : Address) :
    t.Unheard (t.vacateOther r a) s := by
  unfold vacateOther
  split
  · split
    · exact .refl t s
    · exact t.unheard_modify s _ _ nofun
  · exact .refl t s

theorem unheard_assign (t : ModuleTable) (s r : Slot) (a : Address) (name : String) :
    t.Unheard (t.assign r a name).2 s :=
  (t.unheard_vacateOther s r a).trans
    ((t.vacateOther r a).unheard_modify s r _ fun h => ⟨h, rfl⟩)

end ModuleTable

namespace Isolation

variable {W : Type} [Board W] (i : Isolation) (t : ModuleTable) (s : Slot) (w : W)

theorem unheard_check (r : Slot) : t.Unheard (i.check t r w).2.2.1 s := by
  have hcounted (f : Nat → Nat) :
      t.Unheard (t.modify r fun x => { x with failures := f x.failures }) s :=
    t.unheard_modify s r _ fun h => ⟨h, rfl⟩
  unfold check
  dsimp only
  split
  · exact hcounted fun _ => 0
  · split
    · exact .refl t s
    · split
      · exact hcounted (· + 1)
      · exact (hcounted (· + 1)).trans
          (ModuleTable.unheard_modify _ s r _ fun h => ⟨h, rfl⟩)

theorem unheard_tick : t.Unheard (i.tick t w).2.2.1 s := by
  unfold tick
  split
  · exact .refl t s
  · next r _ =>
    have hcheck := unheard_check i t s w r
    split
    · next h =>
      rw [h] at hcheck
      exact hcheck
    · exact hcheck

theorem unheard_finishCycle (r : Slot) : t.Unheard (i.finishCycle t r w).2.2.1 s := by
  have hreset : t.Unheard (t.modify r fun x => { x with failures := 0 }) s :=
    t.unheard_modify s r _ fun h => ⟨h, rfl⟩
  unfold finishCycle
  dsimp only
  split
  · exact hreset.trans (ModuleTable.unheard_modify _ s r _ fun h => ⟨h, rfl⟩)
  · exact hreset

end Isolation

namespace Coordinator

/-- Nothing was heard of the slot between two states of the coordinator. -/
def Unheard (c c' : Coordinator) (s : Slot) : Prop := c.modules.Unheard c'.modules s

/-- Work on some slots, one after another, if nothing is heard during the work on each. -/
theorem unheard_foldl {W : Type} (work : Coordinator → Slot → W → Coordinator × W) {s : Slot}
    (h : ∀ (c : Coordinator) r w, c.Unheard (work c r w).1 s) (slots : List Slot)
    (c : Coordinator) (w : W) :
    c.Unheard (slots.foldl (fun (c, w) r => work c r w) (c, w)).1 s := by
  induction slots generalizing c w with
  | nil => exact .refl _ s
  | cons r rest ih => exact (h c r w).trans (ih _ _)

section

variable {W : Type} [Board W] (c : Coordinator) (s r : Slot) (clock : Clock) (w : W)

/-- A slot that is switched off is no longer watched. -/
theorem unheard_disable (state : SlotPower) : c.Unheard (c.disable r state w).1 s :=
  c.modules.unheard_modify s r _ nofun

theorem unheard_enable : c.Unheard (c.enable r w).1 s :=
  c.modules.unheard_modify s r _ fun h => ⟨h, rfl⟩

theorem unheard_applyBudget : c.Unheard (c.applyBudget r w).1 s := by
  unfold applyBudget
  dsimp only
  split
  · split
    · exact unheard_disable c s r w _
    · exact .refl _ s
  · split
    · exact unheard_enable c s r w
    · exact .refl _ s
  · exact .refl _ s

theorem unheard_energyUpdate (now : Nat) : c.Unheard (c.energyUpdate now w).1 s := by
  have hbudgets (slots : List Slot) :=
    unheard_foldl applyBudget (fun c r w => unheard_applyBudget c s r w) slots
      { c with accounts := c.billed now w } (Board.resetCounters w)
  unfold energyUpdate
  dsimp only
  -- the fold is not to be unrolled
  generalize Slot.metered = slots
  exact hbudgets slots

theorem unheard_wake : c.Unheard (c.wake r w).1 s := by
  unfold wake
  dsimp only
  split
  · split
    · exact c.modules.unheard_modify s r _ fun h => ⟨h, rfl⟩
    · exact c.modules.unheard_modify s r _ fun h => ⟨h, rfl⟩
  · exact .refl _ s

theorem unheard_wakeDue (now : Nat) : c.Unheard (c.wakeDue now w).1 s :=
  unheard_foldl wake (fun c r w => unheard_wake c s r w) _ c w

theorem unheard_sleep (now ms : Nat) : c.Unheard (c.sleep now r ms w).1 s := by
  unfold sleep
  split
  · exact .refl _ s
  · exact unheard_disable c s r w .disabledDutyCycle

theorem unheard_applyTo (command : DownlinkCommand) :
    c.Unheard (c.applyTo clock command r w).2.1 s := by
  unfold applyTo
  dsimp only
  split
  · split
    · exact unheard_enable c s r w
    · exact c.modules.unheard_modify s r _ fun h => ⟨h, rfl⟩
  · exact unheard_disable c s r w _
  · split
    · exact .refl _ s
    · exact .refl _ s
  · exact .refl _ s

theorem unheard_applyDownlink (command : DownlinkCommand) :
    c.Unheard (c.applyDownlink clock command w).2.1 s := by
  cases command with
  | hardReset => exact .refl _ s
  | on name | off name | reset name =>
    unfold applyDownlink
    dsimp only
    split
    · exact .refl _ s
    · exact unheard_applyTo c s _ clock w _

theorem unheard_afterTick (event : IsolationEvent) (e : Endpoint W) :
    c.Unheard (c.afterTick event e).1 s := by
  cases event with
  | powerCycled r => exact c.modules.unheard_modify s r _ fun h => ⟨h, rfl⟩
  | _ => exact .refl _ s

theorem unheard_isolationTick (e : Endpoint W) : c.Unheard (c.isolationTick e).2.1 s := by
  have htick := Isolation.unheard_tick c.isolation c.modules s e.world
  unfold isolationTick
  dsimp only
  split
  · exact htick.trans (unheard_afterTick { c with modules := _, isolation := _ } s _ _)
  · exact htick

theorem unheard_finishTick (e : Endpoint W) : c.Unheard (c.finishTick r e).2.1 s := by
  have hcycle := Isolation.unheard_finishCycle c.isolation c.modules s e.world r
  unfold finishTick
  dsimp only
  exact hcycle.trans (unheard_afterTick { c with modules := _, isolation := _ } s _ _)

end

section

variable {W : Type} [Link W] (c : Coordinator) (s : Slot) (m : Message) (e : Endpoint W)

theorem unheard_declare : c.Unheard (c.declare m e).2.1 s := by
  unfold declare
  split
  · exact .refl _ s
  · next r _ =>
    dsimp only
    exact (c.modules.unheard_assign s r _ _).trans
      (ModuleTable.unheard_modify _ s r _ fun h => ⟨h, rfl⟩)

theorem unheard_exchangeKey : c.Unheard (c.exchangeKey m e).2.1 s := by
  unfold exchangeKey
  split
  · exact .refl _ s
  · next r _ =>
    dsimp only
    split
    · exact .refl _ s
    · split
      · next h => exact congrArg (·.2.1) h ▸ .refl _ s
      · next c' e' h =>
        have hsame : c' = c := (congrArg (·.2.1) h).symm
        rw [hsame]
        exact c.modules.unheard_modify s r _ fun h => ⟨h, rfl⟩

theorem unheard_handleInitialization : c.Unheard (c.handleInitialization m e).2.1 s := by
  unfold handleInitialization
  split
  · exact .refl _ s
  · exact unheard_declare c s m e
  · exact unheard_exchangeKey c s m e
  · exact .refl _ s
  · unfold reply
    dsimp only
    split
    · exact c.modules.unheard_modify s _ _ fun h => ⟨h, rfl⟩
    · exact .refl _ s
  · exact .refl _ s

theorem unheard_handleTimeLocation : c.Unheard (c.handleTimeLocation m e).2.1 s := by
  unfold handleTimeLocation
  dsimp only
  split <;> exact .refl _ s

/-- The slot that a message is a sign of life of. -/
def signOfLife? (m : Message) : Option Slot :=
  if m.service = .watchdog ∧ (WatchdogRequest.ofByte? m.type).isSome then
    c.modules.slotOf? m.source
  else none

theorem unheard_handleWatchdog (hservice : m.service = .watchdog) (h : c.signOfLife? m ≠ some s) :
    c.Unheard (c.handleWatchdog m e).2.1 s := by
  unfold handleWatchdog
  split
  · exact .refl _ s
  · next request htype =>
    split
    · exact .refl _ s
    · next r hslot =>
      have hsr : s ≠ r := by
        rintro rfl
        exact h (by rw [signOfLife?, if_pos ⟨hservice, by rw [htype]; rfl⟩, hslot])
      dsimp only [reply, Unheard, ModuleTable.Unheard, modify]
      rw [ModuleTable.get_modify_of_ne _ _ hsr]
      exact fun h => ⟨h, rfl⟩

/-- A sign of life marks its slot. -/
theorem hasTickled_handleWatchdog {m : Message} (h : c.signOfLife? m = some s) :
    ((c.handleWatchdog m e).2.1.modules.get s).hasTickled = true := by
  unfold signOfLife? at h
  split at h
  · next hsign =>
    obtain ⟨request, htype⟩ := Option.isSome_iff_exists.mp hsign.2
    simp only [handleWatchdog, htype, h, reply, modify, ModuleTable.get_modify_self]
  · cases h

variable [Board W] (clock : Clock)

omit [Link W] in
theorem unheard_handleNetworking : c.Unheard (c.handleNetworking clock m e).2.1 s := by
  unfold handleNetworking
  split
  · split
    · exact .refl _ s
    · split
      · exact .refl _ s
      · exact unheard_applyDownlink c s clock e.world _
  · exact .refl _ s

theorem unheard_handleEnergy : c.Unheard (c.handleEnergy clock m e).2.1 s := by
  unfold handleEnergy
  split
  · exact .refl _ s
  · next r entity _ =>
    dsimp only
    split
    · exact .refl _ s
    · exact .refl _ s
    · exact .refl _ s
    · split
      · obtain ⟨all, hreport⟩ :=
          applyReport_frame c entity (ReportEntry.decodeReport m.payload)
        rw [hreport]
        exact .refl _ s
      · exact .refl _ s
    · split
      · exact .refl _ s
      · exact unheard_sleep c s r e.world clock.now _

/-- A request that is no sign of life of the slot. -/
theorem unheard_handle (h : c.signOfLife? m ≠ some s) : c.Unheard (c.handle clock m e).2.1 s := by
  unfold handle
  split
  · exact unheard_handleInitialization c s m e
  · exact unheard_handleEnergy c s m e clock
  · exact unheard_handleTimeLocation c s m e
  · next hservice => exact unheard_handleWatchdog c s m e hservice h
  · exact unheard_handleNetworking c s m e clock
  · exact .refl _ s

/-- The part of an event that follows a pause. -/
theorem unheard_resume (pause : Pause) : c.Unheard (c.resume clock pause e).2.1 s := by
  cases pause with
  | cycling r timer => exact unheard_finishTick c s r e
  | pulsing | resetting | refusing => exact .refl _ s

end

end Coordinator

/-! ## Checks -/

/-- The record after a check. -/
def ModuleRecord.unmark (r : ModuleRecord) : ModuleRecord :=
  if r.isWatched && r.state.isEnabled then { r with hasTickled := false } else r

theorem ModuleRecord.unmark_unmark (r : ModuleRecord) : r.unmark.unmark = r.unmark := by
  unfold unmark
  split
  · simp
  · simp

/-- A watched and enabled slot is not marked any more. -/
theorem ModuleRecord.hasTickled_unmark {r : ModuleRecord} (hwatched : r.unmark.isWatched = true)
    (henabled : r.state = .enabled) : r.unmark.hasTickled = false := by
  unfold unmark at hwatched ⊢
  split
  · rfl
  · next h =>
    rw [if_neg h] at hwatched
    exact absurd (by rw [hwatched, henabled]; rfl) h

namespace Coordinator

theorem get_checked (c : Coordinator) (slots : List Slot) (s : Slot) :
    (c.checked slots).modules.get s
      = if s ∈ slots then (c.modules.get s).unmark else c.modules.get s := by
  induction slots generalizing c with
  | nil => rfl
  | cons r rest ih =>
    rw [checked, List.foldl_cons]
    refine (ih _).trans ?_
    by_cases hsr : s = r
    · subst hsr
      have hself : (c.modify s ModuleRecord.unmark).modules.get s = (c.modules.get s).unmark :=
        c.modules.get_modify_self s _
      rw [if_pos List.mem_cons_self]
      refine (congrArg (fun x => if s ∈ rest then ModuleRecord.unmark x else x) hself).trans ?_
      rw [ModuleRecord.unmark_unmark, ite_self]
    · have hother : (c.modify r ModuleRecord.unmark).modules.get s = c.modules.get s :=
        c.modules.get_modify_of_ne _ hsr
      simp only [List.mem_cons, hsr, false_or]
      exact congrArg (fun x => if s ∈ rest then ModuleRecord.unmark x else x) hother

theorem get_checkWatchdogs {W : Type} [Board W] (c : Coordinator) (clock : Clock) (w : W)
    (s : Slot) :
    (c.checkWatchdogs clock w).2.1.modules.get s = (c.modules.get s).unmark :=
  (get_checked c Slot.all s).trans (if_pos (Slot.mem_all s))

/-- The slots that a check finds without a mark. -/
def stale (c : Coordinator) : List Slot := Slot.all.filter fun s => isStale (c.modules.get s)

theorem mem_stale {c : Coordinator} {s : Slot} :
    s ∈ c.stale ↔ (c.modules.get s).state = .enabled ∧ (c.modules.get s).isWatched = true
      ∧ (c.modules.get s).hasTickled = false := by
  simp only [stale, isStale, List.mem_filter, Slot.mem_all, true_and, Bool.and_eq_true,
    Bool.not_eq_true', SlotPower.isEnabled, beq_iff_eq]
  constructor
  · rintro ⟨⟨hwatched, henabled⟩, hmark⟩
    exact ⟨henabled, hwatched, hmark⟩
  · rintro ⟨henabled, hwatched, hmark⟩
    exact ⟨⟨hwatched, henabled⟩, hmark⟩

end Coordinator

/-- The event is a check of the watchdogs. -/
def Event.isCheck : Event → Bool
  | check => true
  | _ => false

namespace Moment

variable {W : Type}

/-- The slot is enabled, and its module is watched. -/
structure IsOnWatch (m : Moment W) (s : Slot) : Prop where
  enabled : (m.coordinator.modules.get s).state = .enabled
  watched : (m.coordinator.modules.get s).isWatched = true

/-- The event is a sign of life from the address that the slot has. -/
def Hears (m : Moment W) (event : Event) (s : Slot) : Prop :=
  ∃ request, event = .message request ∧ m.coordinator.signOfLife? request = some s

variable [Board W] [Link W] {m m' : Moment W} {event : Event} {s : Slot}

/-- Checks and signs of life of the slot apart, no event marks it. -/
theorem unheard_begin (clock : Clock) (hcheck : event.isCheck = false)
    (hsilent : ¬m.Hears event s) :
    m.coordinator.Unheard (m.begin clock event).coordinator s := by
  unfold begin Coordinator.begin
  cases event with
  | tick =>
    have htick := Coordinator.unheard_isolationTick m.coordinator s m.endpoint
    dsimp only
    split
    · next h =>
      rw [h] at htick
      exact htick
    · next h =>
      rw [h] at htick
      exact htick
  | period =>
    dsimp only
    exact Coordinator.unheard_energyUpdate m.coordinator s m.endpoint.world clock.now
  | check => cases hcheck
  | wake =>
    dsimp only
    exact Coordinator.unheard_wakeDue m.coordinator s m.endpoint.world clock.now
  | command d =>
    dsimp only
    exact Coordinator.unheard_applyDownlink m.coordinator s clock m.endpoint.world d
  | message request =>
    dsimp only
    rw [Coordinator.coordinator_receive]
    exact Coordinator.unheard_handle m.coordinator s request m.endpoint clock
      fun hsign => hsilent ⟨request, rfl, hsign⟩
  | fix fix => exact .refl _ s

/-- A sign of life marks its slot. -/
theorem hasTickled_of_hears (clock : Clock) (h : m.Hears event s) :
    ((m.begin clock event).coordinator.modules.get s).hasTickled = true := by
  obtain ⟨request, rfl, hsign⟩ := h
  have hservice : request.service = .watchdog := by
    unfold Coordinator.signOfLife? at hsign
    split at hsign
    · next hwatchdog => exact hwatchdog.1
    · cases hsign
  unfold begin Coordinator.begin
  dsimp only
  rw [Coordinator.coordinator_receive, Coordinator.handle, hservice]
  exact Coordinator.hasTickled_handleWatchdog m.coordinator s m.endpoint hsign

/-- Nor is a slot marked between the beginnings of events. -/
theorem unheard_of_never [Wired W] (h : Step (fun _ _ => False) m m') :
    m.coordinator.Unheard m'.coordinator s := by
  cases h with
  | drift _ => exact .refl _ s
  | begin _ _ _ hnever => exact hnever.elim
  | resume clock _ => exact Coordinator.unheard_resume m.coordinator s m.endpoint clock _

end Moment

/-! ## What the log tells -/

/-- The event was a sign of life from the address that the slot had. -/
def PastEvent.Hears {W : Type} (p : PastEvent W) (s : Slot) : Prop := p.before.Hears p.event s

/-- The events since the last check, in a log that begins with the last event. -/
def sinceCheck {W : Type} (log : List (PastEvent W)) : List (PastEvent W) :=
  log.takeWhile (!·.event.isCheck)

/-- The last check. -/
def lastCheck? {W : Type} (log : List (PastEvent W)) : Option (PastEvent W) :=
  log.find? (·.event.isCheck)

namespace Moment

variable {W : Type} [Board W] [Link W] [Wired W] {start m : Moment W} {log : List (PastEvent W)}
  {s : Slot}

/-- A watched slot that was heard of since the last check is marked. -/
theorem hasTickled_of_heard (h : Records start log m) (hheard : ∃ p ∈ sinceCheck log, p.Hears s)
    (hwatched : (m.coordinator.modules.get s).isWatched = true) :
    (m.coordinator.modules.get s).hasTickled = true := by
  induction h with
  | start =>
    obtain ⟨p, hp, _⟩ := hheard
    cases hp
  | @handle log m clock event _ _ ih =>
    obtain ⟨p, hp, hhears⟩ := hheard
    cases hcheck : event.isCheck with
    | true => simp [sinceCheck, hcheck] at hp
    | false =>
      by_cases hsign : m.Hears event s
      · exact hasTickled_of_hears clock hsign
      · -- The sign of life came before, and nothing has ended the watching since.
        have hp : p ∈ sinceCheck log := by
          rw [sinceCheck, List.takeWhile_cons_of_pos (by simp [hcheck])] at hp
          rcases List.mem_cons.mp hp with rfl | hp
          · exact absurd hhears hsign
          · exact hp
        obtain ⟨hwatched, hsame⟩ := unheard_begin clock hcheck hsign hwatched
        rw [hsame]
        exact ih ⟨p, hp, hhears⟩ hwatched
  | other _ hstep ih =>
    obtain ⟨hwatched, hsame⟩ := unheard_of_never hstep hwatched
    rw [hsame]
    exact ih hheard hwatched

/-- A slot that was enabled at the last check, and not heard of since, is not marked. -/
theorem not_hasTickled_of_silent (h : Records start log m) {p : PastEvent W}
    (hlast : lastCheck? log = some p)
    (henabled : (p.before.coordinator.modules.get s).state = .enabled)
    (hsilent : ∀ q ∈ sinceCheck log, ¬q.Hears s)
    (hwatched : (m.coordinator.modules.get s).isWatched = true) :
    (m.coordinator.modules.get s).hasTickled = false := by
  induction h with
  | start => cases hlast
  | @handle log m clock event _ _ ih =>
    cases hcheck : event.isCheck with
    | true =>
      cases event with
      | check =>
        -- The check itself has cleared the mark.
        obtain rfl : ⟨m, clock, .check⟩ = p := Option.some.inj hlast
        have hget := m.coordinator.get_checkWatchdogs clock m.endpoint.world s
        unfold begin Coordinator.begin at hwatched ⊢
        dsimp only at hwatched ⊢
        rw [hget] at hwatched ⊢
        exact ModuleRecord.hasTickled_unmark hwatched henabled
      | _ => cases hcheck
    | false =>
      rw [sinceCheck, List.takeWhile_cons_of_pos (by simp [hcheck])] at hsilent
      rw [lastCheck?, List.find?_cons_of_neg (by simp [hcheck])] at hlast
      obtain ⟨hwatched, hsame⟩ :=
        unheard_begin clock hcheck (hsilent _ List.mem_cons_self) hwatched
      rw [hsame]
      exact ih hlast (fun q hq => hsilent q (List.mem_cons_of_mem _ hq)) hwatched
  | other _ hstep ih =>
    obtain ⟨hwatched, hsame⟩ := unheard_of_never hstep hwatched
    rw [hsame]
    exact ih hlast hsilent hwatched

/-! ## The course of a check -/

/-- The slot that is off for a moment, if one is. -/
def down (m : Moment W) : List Slot := (m.pause.bind Pause.down?).toList

/-- A check from its beginning on, with the slots whose power it has cut, in this order. -/
inductive Checks (m : Moment W) (clock : Clock) : List Slot → Moment W → Prop
  | begin : Checks m clock (m.begin clock .check).down (m.begin clock .check)
  | resume {cuts : List Slot} {m' : Moment W} {pause : Pause} (clock' : Clock) :
      Checks m clock cuts m' → m'.pause = some pause →
      Checks m clock (cuts ++ (m'.resume clock' pause).down) (m'.resume clock' pause)
  | drift {cuts : List Slot} {m' : Moment W} {e : Endpoint W} :
      Checks m clock cuts m' → Drifts m'.endpoint e →
      Checks m clock cuts { m' with endpoint := e }

/-- Every run of a check is recorded so. -/
theorem reaches_iff_exists_checks {clock : Clock} {m' : Moment W} :
    Reaches (fun _ _ => False) (m.begin clock .check) m' ↔ ∃ cuts, m.Checks clock cuts m' := by
  constructor
  · intro h
    induction h with
    | refl => exact ⟨_, .begin⟩
    | tail _ hstep ih =>
      obtain ⟨cuts, hcuts⟩ := ih
      cases hstep with
      | drift hdrift => exact ⟨cuts, hcuts.drift hdrift⟩
      | begin _ _ _ hnever => exact hnever.elim
      | resume clock' hpause => exact ⟨_, hcuts.resume clock' hpause⟩
  · rintro ⟨cuts, h⟩
    induction h with
    | begin => exact .refl
    | resume clock' _ hpause ih => exact ih.tail (.resume clock' hpause)
    | drift _ hdrift ih => exact ih.tail (.drift hdrift)

/-- How far a check has come: some slots are pulsed, the first of the others is off, and the rest is
to follow. -/
structure Pulsing (m : Moment W) (done others : List Slot) (m' : Moment W) : Prop where
  stale : m.coordinator.stale = done ++ others
  pause : (m'.pause = none ∧ others = []) ∨
    ∃ s rest timer, m'.pause = some (.pulsing s rest timer) ∧ others = s :: rest
  power (r : Slot) : (rails m'.endpoint.world).power r
    = if others.head? = some r then false
      else (rails m.endpoint.world).power r || decide (r ∈ done)

/-- The power of the first slot that is left is cut, or the check is over. -/
theorem pulsing_pulseNext {done others : List Slot} (c : Coordinator) (clock : Clock)
    (node : Dispatcher) (w : W) (hstale : m.coordinator.stale = done ++ others)
    (hpower : ∀ r, (rails w).power r = ((rails m.endpoint.world).power r || decide (r ∈ done))) :
    m.Pulsing done others
      ⟨(c.pulseNext clock others w).1, c, ⟨node, (c.pulseNext clock others w).2⟩⟩ := by
  cases others with
  | nil => exact ⟨hstale, .inl ⟨rfl, rfl⟩, hpower⟩
  | cons s rest =>
    refine ⟨hstale, .inr ⟨s, rest, _, rfl, rfl⟩, fun r => ?_⟩
    dsimp only [Coordinator.pulseNext]
    rw [Wired.rails_setPower, Rails.setPower, List.head?_cons]
    dsimp only
    by_cases hr : s = r
    · rw [hr, Function.update_self, if_pos rfl]
    · rw [Function.update_of_ne (Ne.symm hr), if_neg (by simpa using hr)]
      exact hpower r

/-- The slot that is off gets its power back, and is done with. -/
theorem Pulsing.resume {done others : List Slot} {m' : Moment W} {pause : Pause}
    (h : m.Pulsing done others m') (hpause : m'.pause = some pause) (clock : Clock) :
    ∃ s rest, others = s :: rest ∧ m'.down = [s]
      ∧ m.Pulsing (done ++ [s]) rest (m'.resume clock pause) := by
  obtain ⟨hstale, ⟨hnone, _⟩ | ⟨s, rest, timer, hpulsing, rfl⟩, hpower⟩ := h
  · exact nomatch hnone.symm.trans hpause
  · obtain rfl : .pulsing s rest timer = pause := Option.some.inj (hpulsing.symm.trans hpause)
    refine ⟨s, rest, rfl, by rw [down, hpulsing]; rfl, ?_⟩
    refine pulsing_pulseNext m'.coordinator clock m'.endpoint.node
      (Board.setPower s true m'.endpoint.world) (by rw [hstale]; simp) fun r => ?_
    rw [Wired.rails_setPower, Rails.setPower]
    dsimp only
    by_cases hr : s = r
    · simp [hr]
    · rw [Function.update_of_ne (Ne.symm hr), hpower r, List.head?_cons,
        if_neg (by simpa using hr)]
      simp [Ne.symm hr]

/-- At every moment of a check, what was cut is what is done and what is off. -/
theorem exists_pulsing {clock : Clock} {cuts : List Slot} {m' : Moment W}
    (h : m.Checks clock cuts m') :
    ∃ done others, m.Pulsing done others m' ∧ cuts = done ++ m'.down := by
  induction h with
  | begin =>
    exact ⟨[], m.coordinator.stale, pulsing_pulseNext (m.coordinator.checked Slot.all) clock
      m.endpoint.node m.endpoint.world rfl (by simp), rfl⟩
  | resume clock' _ hpause ih =>
    obtain ⟨done, others, hpulsing, rfl⟩ := ih
    obtain ⟨s, rest, rfl, hdown, hnext⟩ := hpulsing.resume hpause clock'
    exact ⟨done ++ [s], rest, hnext, by rw [hdown]⟩
  | drift _ hdrift ih =>
    obtain ⟨done, others, ⟨hstale, hpause, hpower⟩, hcuts⟩ := ih
    exact ⟨done, others, ⟨hstale, hpause, fun r => hdrift.rails ▸ hpower r⟩, hcuts⟩

/-- A check comes to its end. -/
theorem exists_end {clock : Clock} {done others cuts : List Slot} {m' : Moment W}
    (h : m.Checks clock cuts m') (hpulsing : m.Pulsing done others m') :
    ∃ cuts' m'', m.Checks clock cuts' m'' ∧ m''.pause = none := by
  induction others generalizing done cuts m' with
  | nil =>
    rcases hpulsing.pause with ⟨hnone, _⟩ | ⟨_, _, _, _, hothers⟩
    · exact ⟨cuts, m', h, hnone⟩
    · cases hothers
  | cons s rest ih =>
    rcases hpulsing.pause with ⟨_, hothers⟩ | ⟨_, _, _, hpause, _⟩
    · cases hothers
    · obtain ⟨_, _, hothers, _, hnext⟩ := hpulsing.resume hpause clock
      cases hothers
      exact ih (h.resume clock hpause) hnext

/-- **Checks pulse the silent.** In every run, a check that begins between two events comes to its
end, and:
- it cuts the power of a slot only if the slot is enabled and watched, and no sign of life from the
  address that the slot had at the time was handled since the check before;
- if the slot was enabled at the check before too, and no sign of life from its address was handled
  since, the check does cut its power; nothing that happens in between excuses the slot, since
  whatever disables or displaces it also ends the watching;
- the slot whose power is cut is without it until it is the next one's turn; at the end of the
  check the slots that were cut have power, and the others what they had before;
- so no slot without power has it after the check, except the controller's own. -/
theorem checks_pulse_the_silent {settings : Settings} {now : Nat} {node : Dispatcher} {w : W}
    (h : Records (boot settings now node w) log m) (hidle : m.pause = none) (clock : Clock) :
    (∃ cuts m', m.Checks clock cuts m' ∧ m'.pause = none)
    ∧ ∀ cuts m', m.Checks clock cuts m' →
      (∀ s ∈ cuts, m.IsOnWatch s ∧ ∀ p ∈ sinceCheck log, ¬p.Hears s)
      ∧ (∀ s ∈ m'.down, (rails m'.endpoint.world).power s = false)
      ∧ (m'.pause = none →
        (∀ s p, lastCheck? log = some p →
          (p.before.coordinator.modules.get s).state = .enabled → m.IsOnWatch s →
          (∀ q ∈ sinceCheck log, ¬q.Hears s) → s ∈ cuts)
        ∧ (∀ s, (rails m'.endpoint.world).power s = true ↔
          s ∈ cuts ∨ (rails m.endpoint.world).power s = true)
        ∧ ∀ s, (rails m.endpoint.world).power s = false →
          (rails m'.endpoint.world).power s = true → s = Slot.controller) := by
  constructor
  · have hbegin : m.Checks clock (m.begin clock .check).down (m.begin clock .check) := .begin
    obtain ⟨done, others, hpulsing, _⟩ := exists_pulsing hbegin
    exact exists_end hbegin hpulsing
  · intro cuts m' hchecks
    obtain ⟨done, others, ⟨hstale, hpause, hpower⟩, rfl⟩ := exists_pulsing hchecks
    have hdown : m'.down = others.take 1 := by
      rcases hpause with ⟨hnone, rfl⟩ | ⟨s, rest, timer, hpulsing, rfl⟩
      · rw [down, hnone]
        rfl
      · rw [down, hpulsing]
        rfl
    have hsubset {s : Slot} (hs : s ∈ done ++ m'.down) : s ∈ m.coordinator.stale := by
      rw [hstale]
      rw [hdown] at hs
      exact List.mem_append.mpr ((List.mem_append.mp hs).imp_right List.mem_of_mem_take)
    refine ⟨fun s hs => ?_, fun s hs => ?_, fun hnone => ?_⟩
    · obtain ⟨henabled, hwatched, hmark⟩ := Coordinator.mem_stale.mp (hsubset hs)
      refine ⟨⟨henabled, hwatched⟩, fun p hp hhears => ?_⟩
      exact nomatch hmark.symm.trans (hasTickled_of_heard h ⟨p, hp, hhears⟩ hwatched)
    · rw [hpower, if_pos]
      rw [hdown] at hs
      cases others with
      | nil => cases hs
      | cons r rest => rw [List.mem_singleton.mp hs, List.head?_cons]
    · have hend : others = [] := by
        rcases hpause with ⟨_, hend⟩ | ⟨_, _, _, hpulsing, _⟩
        · exact hend
        · exact nomatch hnone.symm.trans hpulsing
      subst hend
      rw [hdown, List.take_nil, List.append_nil] at hsubset ⊢
      have hafter (s : Slot) : (rails m'.endpoint.world).power s = true ↔
          s ∈ done ∨ (rails m.endpoint.world).power s = true := by
        simp [hpower, or_comm]
      refine ⟨fun s p hlast hbefore hnow hsilent => ?_, hafter, fun s hoff hon => ?_⟩
      · rw [List.append_nil] at hstale
        rw [← hstale]
        exact Coordinator.mem_stale.mpr ⟨hnow.enabled, hnow.watched,
          not_hasTickled_of_silent h hlast hbefore hsilent hnow.watched⟩
      · by_contra hmodule
        have hcut := ((hafter s).mp hon).resolve_right (by simp [hoff])
        obtain ⟨henabled, _, _⟩ := Coordinator.mem_stale.mp (hsubset hcut)
        have hreaches := reaches_iff_exists_records.mpr ⟨log, h⟩
        -- The slot is enabled; a module's slot has power then, and is not stranded.
        rcases isInStep_or_isStranded_of_reaches hmodule hreaches with hin | ⟨hstate, _⟩
        · exact nomatch hoff.symm.trans (((isInStep_iff hidle s).mp hin).mpr henabled)
        · exact nomatch henabled.symm.trans hstate

/-- A sign of life from the controller's own address. -/
def ownSign : Event := .message ⟨.controller, .controller, .command, .watchdog, 0, []⟩

/-- The controller was asked to watch itself, and a check has found it alive. -/
def selfWatched : Moment DeskWorld :=
  (deskBoot.begin ⟨0, 0⟩ ownSign).begin ⟨0, 1⟩ .check

/-- The next check switches the controller's own slot on. -/
theorem check_powers_own_slot :
    (rails selfWatched.endpoint.world).power Slot.controller = false
      ∧ ∃ cuts m', selfWatched.Checks ⟨0, 2⟩ cuts m' ∧ m'.pause = none
        ∧ (rails m'.endpoint.world).power Slot.controller = true := by
  have hsigned : Records deskBoot _ (deskBoot.begin ⟨0, 0⟩ ownSign) :=
    Records.start.handle ⟨0, 0⟩ ownSign rfl
  have hlog : Records deskBoot _ selfWatched :=
    hsigned.handle ⟨0, 1⟩ .check (by decide +kernel)
  obtain ⟨⟨cuts, m', hchecks, hnone⟩, hcheck⟩ :=
    checks_pulse_the_silent hlog (by decide +kernel) ⟨0, 2⟩
  obtain ⟨_, _, hend⟩ := hcheck cuts m' hchecks
  obtain ⟨hcomplete, hpower, _⟩ := hend hnone
  have hcut : Slot.controller ∈ cuts :=
    hcomplete _ _ rfl (by decide +kernel) ⟨by decide +kernel, by decide +kernel⟩
      fun q hq => nomatch hq
  exact ⟨by decide +kernel, cuts, m', hchecks, hnone, (hpower _).mpr (.inl hcut)⟩

end Moment

end ModuleBus

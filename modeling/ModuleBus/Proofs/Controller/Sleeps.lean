import ModuleBus.Proofs.Controller.Budgets
import ModuleBus.Proofs.Controller.SwitchedOff

set_option autoImplicit false

/-! # Sleeps

A slot that goes to sleep is recorded as asleep, and the time at which it is to wake up is noted
apart from that. A command ends the sleep in the record and leaves the note, so that notes outlive
the sleeps that they were made for. They do no harm: a note counts only for a slot that is asleep,
and whoever falls asleep again overwrites the old note. -/

namespace ModuleBus

open Wired (rails)
open Switchboard (Does)

/-! ## Falling asleep -/

/-- The switching puts a slot to sleep. -/
def Switching.Sedates (s : Slot) : Switching → Prop
  | .off r .disabledDutyCycle => r = s
  | _ => False

/-- A slot that is awake stays awake unless it is put to sleep. -/
theorem Switchboard.awake_apply {b : Switchboard} {s : Slot} {x : Switching} (hx : ¬x.Sedates s)
    (hallowed : b.Allowed x) (h : b.state s ≠ .disabledDutyCycle) :
    (b.apply x).state s ≠ .disabledDutyCycle := by
  have hrecord {r : Slot} {state : SlotPower} (hstate : r = s → state ≠ .disabledDutyCycle) :
      (b.record r state).state s ≠ .disabledDutyCycle :=
    state_record (Q := (· ≠ .disabledDutyCycle)) hstate h
  cases hallowed with
  | offSleep _ => exact hrecord fun hrs => absurd hrs hx
  | grant _ _ _ _ | release _ _ | cut _ _ | restore _ _ => exact h
  | _ => exact hrecord fun _ => by decide

theorem Switching.IsSequel.not_sedates {x : Switching} (h : x.IsSequel) (s : Slot) :
    ¬x.Sedates s := by
  cases h <;> exact id

/-- Only a request of its own puts a slot to sleep. -/
theorem Moment.putsToSleep_of_sedates {W : Type} [Board W] {m : Moment W} {clock : Clock}
    {event : Event} {x : Switching} {s : Slot}
    (h : m.coordinator.Makes clock m.endpoint.world event x) (hx : x.Sedates s) :
    m.PutsToSleep event s := by
  cases h with
  | sleep hnap =>
    cases hx
    exact ⟨_, _, rfl, hnap⟩
  | command _ hd => cases hd <;> exact hx.elim
  | _ => exact hx.elim

/-! ## The notes

Only the end of sleeps and a request to sleep touch the notes. -/

namespace Coordinator

variable {W : Type}

/-- What the work on one slot after another leaves alone, if the work on each of them does. -/
theorem foldl_frame {β : Type} (view : Coordinator → β)
    (work : Coordinator → Slot → W → Coordinator × W) (slots : List Slot)
    (h : ∀ c s w, s ∈ slots → view (work c s w).1 = view c) (c : Coordinator) (w : W) :
    view (slots.foldl (fun (c, w) s => work c s w) (c, w)).1 = view c := by
  induction slots generalizing c w with
  | nil => rfl
  | cons s rest ih =>
    exact (ih (fun c r w hr => h c r w (List.mem_cons_of_mem s hr)) _ _).trans
      (h c s w List.mem_cons_self)

variable [Board W]

theorem wakes_energyUpdate (c : Coordinator) (now : Nat) (w : W) :
    (c.energyUpdate now w).1.wakes = c.wakes := by
  have hwork (c : Coordinator) (s : Slot) (w : W) : (c.applyBudget s w).1.wakes = c.wakes := by
    obtain ⟨modules, hframe⟩ := applyBudget_frame c s w
    rw [hframe]
  unfold energyUpdate
  dsimp only
  rw [foldl_frame (·.wakes) applyBudget Slot.metered fun c s w _ => hwork c s w]

theorem wakes_isolationTick (c : Coordinator) (e : Endpoint W) :
    (c.isolationTick e).2.1.wakes = c.wakes := by
  unfold isolationTick
  dsimp only
  split
  · next event _ =>
    unfold afterTick
    cases event <;> rfl
  · rfl

theorem wakes_checkWatchdogs (c : Coordinator) (clock : Clock) (w : W) :
    (c.checkWatchdogs clock w).2.1.wakes = c.wakes := by
  obtain ⟨modules, hframe, _⟩ := checked_frame c Slot.all
  exact congrArg (·.wakes) hframe

theorem wakes_applyDownlink (c : Coordinator) (clock : Clock) (command : DownlinkCommand) (w : W) :
    (c.applyDownlink clock command w).2.1.wakes = c.wakes := by
  cases command with
  | hardReset => rfl
  | on name | off name | reset name =>
    unfold applyDownlink
    dsimp only
    split
    · rfl
    · unfold applyTo
      dsimp only
      try split
      all_goals rfl

/-- A slot that goes to sleep is noted, and no other. -/
theorem get_wakes_sleep_of_ne (c : Coordinator) (now : Nat) {r s : Slot} (ms : Nat) (w : W)
    (hrs : s ≠ r) : (c.sleep now r ms w).1.wakes.get s = c.wakes.get s := by
  unfold sleep
  split
  · rfl
  · exact PerSlot.get_set_of_ne c.wakes _ hrs

theorem wakes_handleNetworking (c : Coordinator) (clock : Clock) (m : Message) (e : Endpoint W) :
    (c.handleNetworking clock m e).2.1.wakes = c.wakes := by
  unfold handleNetworking
  split
  · split
    · rfl
    · split
      · rfl
      · exact wakes_applyDownlink c clock _ e.world
  · rfl

variable [Link W]

omit [Board W] in
theorem wakes_handleInitialization (c : Coordinator) (m : Message) (e : Endpoint W) :
    (c.handleInitialization m e).2.1.wakes = c.wakes := by
  unfold handleInitialization
  split
  · rfl
  · unfold declare
    split <;> rfl
  · unfold exchangeKey
    split
    · rfl
    · dsimp only
      split
      · rfl
      · split
        · next h => exact congrArg (·.2.1.wakes) h.symm
        · next h => exact congrArg (·.2.1.wakes) h.symm
  · rfl
  · unfold reply
    dsimp only
    split <;> rfl
  · rfl

theorem get_wakes_handleEnergy (c : Coordinator) (clock : Clock) (m : Message) (e : Endpoint W)
    {s : Slot} (hservice : m.service = .energy) (hnap : ∀ ms, c.nap? m ≠ some (s, ms)) :
    (c.handleEnergy clock m e).2.1.wakes.get s = c.wakes.get s := by
  unfold handleEnergy
  split
  · rfl
  · next r entity hentity =>
    dsimp only
    split
    · rfl
    · rfl
    · rfl
    · split
      · obtain ⟨all, hreport⟩ :=
          applyReport_frame c entity (ReportEntry.decodeReport m.payload)
        rw [hreport]
        rfl
      · rfl
    · next htype =>
      split
      · rfl
      · next ms hms =>
        by_cases hrs : s = r
        · -- The slot asks to sleep, but is not metered.
          subst hrs
          have hunmetered : ¬s.isMetered = true := fun hmetered => hnap ms
            (nap?_eq_some.mpr ⟨hservice, htype, (slotOf?_of_entityOf hentity).1, hms, hmetered⟩)
          simp [sleep, hunmetered]
        · exact get_wakes_sleep_of_ne c clock.now ms e.world hrs

theorem get_wakes_handle (c : Coordinator) (clock : Clock) (m : Message) (e : Endpoint W)
    {s : Slot} (hnap : ∀ ms, c.nap? m ≠ some (s, ms)) :
    (c.handle clock m e).2.1.wakes.get s = c.wakes.get s := by
  unfold handle
  split
  · exact congrArg (PerSlot.get · s) (wakes_handleInitialization c m e)
  · next hservice => exact get_wakes_handleEnergy c clock m e hservice hnap
  · unfold handleTimeLocation
    dsimp only
    split <;> rfl
  · unfold handleWatchdog
    split
    · rfl
    · split <;> rfl
  · exact congrArg (PerSlot.get · s) (wakes_handleNetworking c clock m e)
  · rfl

/-- An event that neither ends sleeps nor puts the slot to sleep leaves its note alone. -/
theorem get_wakes_begin (c : Coordinator) (clock : Clock) (event : Event) (e : Endpoint W)
    {s : Slot} (hwake : event ≠ .wake)
    (hnap : ∀ m ms, event = .message m → c.nap? m ≠ some (s, ms)) :
    (c.begin clock event e).2.1.wakes.get s = c.wakes.get s := by
  cases event with
  | tick =>
    have htick := wakes_isolationTick c e
    unfold begin
    dsimp only
    split
    · next h =>
      rw [h] at htick
      exact congrArg (PerSlot.get · s) htick
    · next h =>
      rw [h] at htick
      exact congrArg (PerSlot.get · s) htick
  | period =>
    unfold begin
    dsimp only
    rw [wakes_energyUpdate]
  | check =>
    unfold begin
    dsimp only
    rw [wakes_checkWatchdogs]
  | wake => exact absurd rfl hwake
  | command d =>
    unfold begin
    dsimp only
    rw [wakes_applyDownlink]
  | message m =>
    unfold begin
    dsimp only
    rw [coordinator_receive]
    exact get_wakes_handle c clock m e fun ms => hnap m ms rfl
  | fix fix => rfl

/-- Nor does what follows a pause touch the notes. -/
theorem wakes_resume (c : Coordinator) (clock : Clock) (pause : Pause) (e : Endpoint W) :
    (c.resume clock pause e).2.1.wakes = c.wakes := by
  cases pause with
  | cycling s timer =>
    unfold resume finishTick afterTick
    dsimp only [Isolation.finishCycle]
    rfl
  | pulsing | resetting | refusing => rfl

/-! ## Waking up -/

omit [Link W] in
/-- A slot that is woken up is not asleep. -/
theorem states_wake_self (c : Coordinator) (s : Slot) (w : W) :
    (c.wake s w).1.modules.states s ≠ .disabledDutyCycle := by
  unfold wake enable modify
  dsimp only
  split
  · split
    · simp [ModuleTable.states]
    · simp [ModuleTable.states]
  · next hawake => exact hawake

omit [Link W] in
/-- Waking up one slot leaves the others as they are. -/
theorem wake_frame (c : Coordinator) (r : Slot) (w : W) {s : Slot} (hrs : s ≠ r) :
    (c.wake r w).1.modules.states s = c.modules.states s
      ∧ (c.wake r w).1.wakes.get s = c.wakes.get s := by
  have hwakes : (c.wakes.set r none).get s = c.wakes.get s := PerSlot.get_set_of_ne _ _ hrs
  unfold wake enable modify
  dsimp only
  split
  · split
    · exact ⟨by rw [ModuleTable.states_modify, Function.update_of_ne hrs], hwakes⟩
    · exact ⟨by rw [ModuleTable.states_modify, Function.update_of_ne hrs], hwakes⟩
  · exact ⟨rfl, hwakes⟩

omit [Link W] in
/-- A slot whose time has not come is left alone. -/
theorem wakeDue_of_not_isDue (c : Coordinator) (now : Nat) (w : W) {s : Slot}
    (hs : ¬c.IsDue now s) : (c.wakeDue now w).1.modules.states s = c.modules.states s
      ∧ (c.wakeDue now w).1.wakes.get s = c.wakes.get s := by
  have hother {r : Slot} (hr : r ∈ c.due now) : s ≠ r := by
    rintro rfl
    exact hs ((c.mem_due now s).mp hr)
  exact ⟨foldl_frame (·.modules.states s) wake (c.due now)
      (fun c' r w' hr => (wake_frame c' r w' (hother hr)).1) c w,
    foldl_frame (·.wakes.get s) wake (c.due now)
      (fun c' r w' hr => (wake_frame c' r w' (hother hr)).2) c w⟩

omit [Link W] in
/-- A slot whose time has come is awake afterwards. -/
theorem wakeDue_of_isDue (c : Coordinator) (now : Nat) (w : W) {s : Slot} (hs : c.IsDue now s) :
    (c.wakeDue now w).1.modules.states s ≠ .disabledDutyCycle := by
  -- Once the slot is awake, the waking of those after it leaves it so.
  have hwoken (slots : List Slot) (c : Coordinator) (w : W)
      (h : s ∈ slots ∨ c.modules.states s ≠ .disabledDutyCycle) :
      (slots.foldl (fun (c, w) s => wake c s w) (c, w)).1.modules.states s
        ≠ .disabledDutyCycle := by
    induction slots generalizing c w with
    | nil => exact h.resolve_left List.not_mem_nil
    | cons r rest ih =>
      refine ih (c.wake r w).1 (c.wake r w).2 ?_
      by_cases hrs : s = r
      · exact .inr (hrs ▸ states_wake_self c s w)
      · rcases h with hmem | hawake
        · exact .inl ((List.mem_cons.mp hmem).resolve_left hrs)
        · exact .inr fun hasleep => hawake ((wake_frame c r w hrs).1.symm.trans hasleep)
  exact hwoken (c.due now) c w (.inl ((c.mem_due now s).mpr hs))

end Coordinator

/-! ## One step -/

namespace Moment

variable {W : Type}

/-- The slot is asleep. -/
def IsAsleep (m : Moment W) (s : Slot) : Prop :=
  (m.coordinator.modules.get s).state = .disabledDutyCycle

variable [Board W] [Link W]

/-- A request to sleep is noted. -/
theorem get_wakes_of_nap {m : Moment W} (clock : Clock) {request : Message} {s : Slot} {ms : Nat}
    (h : m.coordinator.nap? request = some (s, ms)) :
    (m.begin clock (.message request)).coordinator.wakes.get s
      = some (clock.now + ofMillis ms) := by
  have hmetered := (Coordinator.nap?_eq_some.mp h).2.2.2.2
  rw [begin, Coordinator.begin_nap _ clock m.endpoint h]
  exact (Coordinator.sleep_self _ clock.now ms m.endpoint.world hmetered).2

/-- The end of sleeps wakes a slot whose time has come. -/
theorem not_isAsleep_wake {m : Moment W} {clock : Clock} {s : Slot}
    (h : m.coordinator.IsDue clock.now s) : ¬(m.begin clock .wake).IsAsleep s := by
  unfold begin Coordinator.begin
  dsimp only
  exact m.coordinator.wakeDue_of_isDue clock.now m.endpoint.world h

/-- A slot that is still asleep after an event that did not put it to sleep has kept its note. -/
theorem get_wakes_of_isAsleep {m : Moment W} {clock : Clock} {event : Event} {s : Slot}
    (hsleeps : ¬m.PutsToSleep event s) (hasleep : (m.begin clock event).IsAsleep s) :
    (m.begin clock event).coordinator.wakes.get s = m.coordinator.wakes.get s := by
  by_cases hwake : event = .wake
  · subst hwake
    have hdue : ¬m.coordinator.IsDue clock.now s := fun hdue => not_isAsleep_wake hdue hasleep
    unfold begin Coordinator.begin
    dsimp only
    exact (m.coordinator.wakeDue_of_not_isDue clock.now m.endpoint.world hdue).2
  · exact m.coordinator.get_wakes_begin clock event m.endpoint hwake
      fun request ms hevent hnap => hsleeps ⟨request, ms, hevent, hnap⟩

variable [Wired W] {m m' : Moment W} {event : Event} {s : Slot}

/-- An event that leaves a slot asleep found it so, unless it put it to sleep. -/
theorem isAsleep_of_begin {clock : Clock} (hsleeps : ¬m.PutsToSleep event s)
    (hasleep : (m.begin clock event).IsAsleep s) : m.IsAsleep s := by
  by_contra hawake
  refine (m.coordinator.makes_begin clock event m.endpoint).does.preserves
    (I := fun b => b.state s ≠ .disabledDutyCycle) (fun b x hx hallowed => ?_) hawake hasleep
  exact Switchboard.awake_apply (fun hx' => hsleeps (putsToSleep_of_sedates hx hx')) hallowed

/-- A sleep ends when its time has come, or by a command. -/
theorem cases_of_not_isAsleep {clock : Clock} (hasleep : m.IsAsleep s)
    (hawake : ¬(m.begin clock event).IsAsleep s) :
    (event = .wake ∧ m.coordinator.IsDue clock.now s) ∨ m.SwitchesOn event s
      ∨ m.SwitchesOff event s := by
  by_contra hnever
  refine hawake ((m.coordinator.makes_begin clock event m.endpoint).does.preserves
    (I := fun b => b.state s = .disabledDutyCycle) (fun b x hx hallowed hb => ?_) hasleep)
  refine Switchboard.state_apply_of_lasting trivial (fun hends => hnever ?_) hallowed hb
  rcases cases_of_ends hasleep hx hends with ⟨hwake, hdue, _⟩ | hon | ⟨hoff, _⟩ | ⟨_, hawake⟩
  · exact .inl ⟨hwake, hdue⟩
  · exact .inr (.inl hon)
  · exact .inr (.inr hoff)
  · exact absurd rfl hawake

/-- Between the beginnings of events nobody falls asleep or wakes up. -/
theorem isAsleep_iff_of_sequel (h : Step (fun _ _ => False) m m') (hawaits : m.Awaits) :
    (m'.IsAsleep s ↔ m.IsAsleep s)
      ∧ m'.coordinator.wakes = m.coordinator.wakes := by
  have hdoes := does_of_never h hawaits
  refine ⟨⟨fun hasleep => ?_, fun hasleep => ?_⟩, ?_⟩
  · by_contra hawake
    exact hdoes.preserves (I := fun b => b.state s ≠ .disabledDutyCycle)
      (fun b x hx hallowed => Switchboard.awake_apply (hx.not_sedates s) hallowed) hawake hasleep
  · exact hdoes.preserves (I := fun b => b.state s = .disabledDutyCycle)
      (fun b x hx hallowed => Switchboard.state_apply_of_lasting trivial (hx.not_ends s _) hallowed)
      hasleep
  · cases h with
    | drift _ => rfl
    | begin _ _ _ hnever => exact hnever.elim
    | resume clock _ => exact m.coordinator.wakes_resume clock _ m.endpoint

end Moment

/-! ## Runs -/

/-- An event that was handled, and when. -/
structure PastEvent (W : Type) where
  before : Moment W
  clock : Clock
  event : Event

/-- The time up to which the event puts the slot to sleep. -/
def PastEvent.due? {W : Type} (h : PastEvent W) (s : Slot) : Option Nat :=
  match h.event with
  | .message m =>
    match h.before.coordinator.nap? m with
    | some (r, ms) => if r = s then some (h.clock.now + ofMillis ms) else none
    | none => none
  | _ => none

theorem PastEvent.due?_eq_none {W : Type} {m : Moment W} {clock : Clock} {event : Event} {s : Slot}
    (h : ¬m.PutsToSleep event s) : (⟨m, clock, event⟩ : PastEvent W).due? s = none := by
  unfold due?
  split
  · next request hevent =>
    split
    · next r ms hnap =>
      refine if_neg ?_
      rintro rfl
      exact h ⟨request, ms, hevent, hnap⟩
    · rfl
  · rfl

/-- The time up to which the slot went to sleep when it did so last, in a log that begins with the
last event. -/
def lastDue? {W : Type} (log : List (PastEvent W)) (s : Slot) : Option Nat :=
  log.findSome? (·.due? s)

namespace Moment

variable {W : Type} [Board W] [Link W] [Wired W]

/-- A run, with a log of the events that were handled in it, the last one first. -/
inductive Records (start : Moment W) : List (PastEvent W) → Moment W → Prop
  | start : Records start [] start
  | handle {log : List (PastEvent W)} {m : Moment W} (clock : Clock) (event : Event) :
      Records start log m → m.pause = none →
      Records start (⟨m, clock, event⟩ :: log) (m.begin clock event)
  | other {log : List (PastEvent W)} {m m' : Moment W} :
      Records start log m → Step (fun _ _ => False) m m' → Records start log m'

variable {start m : Moment W} {log : List (PastEvent W)} {s : Slot}

/-- Every run has a log. -/
theorem reaches_iff_exists_records :
    Reaches (fun _ _ => True) start m ↔ ∃ log, Records start log m := by
  constructor
  · intro h
    induction h with
    | refl => exact ⟨[], .start⟩
    | tail _ hstep ih =>
      obtain ⟨log, hlog⟩ := ih
      rcases hstep.begins_or_not with ⟨clock, event, hidle, _, rfl⟩ | hnever
      · exact ⟨_, hlog.handle clock event hidle⟩
      · exact ⟨log, hlog.other hnever⟩
  · rintro ⟨log, h⟩
    induction h with
    | start => exact .refl
    | handle clock event _ hidle ih => exact ih.tail (.begin clock event hidle trivial)
    | other _ hstep ih => exact ih.tail hstep.of_never

/-- The note of a slot that is asleep is of the last request that put it to sleep. -/
theorem exists_lastDue (h : Records start log m) (hawaits : start.Awaits)
    (hstart : ¬start.IsAsleep s) (hasleep : m.IsAsleep s) :
    ∃ due, lastDue? log s = some due ∧ m.coordinator.wakes.get s = some due := by
  -- Between two requests of the slot neither the note nor what the log says of it changes.
  induction h with
  | start => exact absurd hasleep hstart
  | @handle log m clock event hlog _ ih =>
    by_cases hsleeps : m.PutsToSleep event s
    · obtain ⟨request, ms, rfl, hnap⟩ := hsleeps
      refine ⟨clock.now + ofMillis ms, ?_, get_wakes_of_nap clock hnap⟩
      simp [lastDue?, PastEvent.due?, hnap]
    · obtain ⟨due, hlast, hnote⟩ := ih (isAsleep_of_begin hsleeps hasleep)
      refine ⟨due, ?_, (get_wakes_of_isAsleep hsleeps hasleep).trans hnote⟩
      rw [lastDue?, List.findSome?_cons, PastEvent.due?_eq_none hsleeps]
      exact hlast
  | @other log m m' hlog hstep ih =>
    have hawaits' := awaits_of_reaches (reaches_iff_exists_records.mpr ⟨log, hlog⟩) hawaits
    obtain ⟨hsame, hwakes⟩ := isAsleep_iff_of_sequel (s := s) hstep hawaits'
    rw [hwakes]
    exact ih (hsame.mp hasleep)

/-- **Sleeps are neither lost nor cut short.** In every run, a slot that is asleep is noted to wake
up when its last request to sleep said: the time at which that was handled and the milliseconds that
it asked for. The sleep ends at an event only, and only if that is the end of sleeps at that time or
later, or a command that switches the slot on or off. The end of sleeps at that time or later does
end it. -/
theorem sleeps_until_due {settings : Settings} {now : Nat} {node : Dispatcher} {w : W}
    (h : Records (boot settings now node w) log m) (hasleep : m.IsAsleep s) :
    ∃ due, lastDue? log s = some due ∧ m.coordinator.wakes.get s = some due
      ∧ (∀ clock event, ¬(m.begin clock event).IsAsleep s →
        (event = .wake ∧ due ≤ clock.now) ∨ m.SwitchesOn event s ∨ m.SwitchesOff event s)
      ∧ (∀ m', Step (fun _ _ => False) m m' → m'.IsAsleep s)
      ∧ ∀ clock, due ≤ clock.now → ¬(m.begin clock .wake).IsAsleep s := by
  have hawake : ¬(boot settings now node w).IsAsleep s := by
    have hboot : (boot settings now node w).switchboard.state s = .enabled := by
      rw [switchboard_boot]
    exact fun hasleep => nomatch hboot.symm.trans hasleep
  obtain ⟨due, hlast, hnote⟩ := exists_lastDue h trivial hawake hasleep
  have hawaits := awaits_of_reaches (reaches_iff_exists_records.mpr ⟨log, h⟩) trivial
  refine ⟨due, hlast, hnote, fun clock event hends => ?_,
    fun m' hstep => (isAsleep_iff_of_sequel hstep hawaits).1.mpr hasleep,
    fun clock hdue => not_isAsleep_wake ⟨due, hnote, hdue⟩⟩
  rcases cases_of_not_isAsleep hasleep hends with ⟨hwake, due', hnote', hdue⟩ | hcommand
  · -- The end of sleeps goes by the note, and there is one note for each slot.
    rw [hnote] at hnote'
    cases hnote'
    exact .inl ⟨hwake, hdue⟩
  · exact .inr hcommand

/-- The module that sleeps until 1000 is switched on at 500 and goes to sleep again at 600. -/
def nappingAgain : Moment DeskWorld :=
  (napping.begin ⟨500, 3⟩ (.command (.on "m"))).begin ⟨600, 4⟩ sleepRequest

/-- The note that the first sleep has left does not end the second. -/
theorem interrupted_sleep_leaves_next_alone :
    napping.coordinator.wakes.get Slot.last = some 1000 ∧ nappingAgain.IsAsleep Slot.last
      ∧ (nappingAgain.begin ⟨1000, 5⟩ .wake).IsAsleep Slot.last := by
  obtain ⟨log, hnapping⟩ := reaches_iff_exists_records.mp reaches_napping
  have hawake := hnapping.handle ⟨500, 3⟩ (.command (.on "m")) (by decide +kernel)
  have hagain : Records deskBoot _ nappingAgain :=
    hawake.handle ⟨600, 4⟩ sleepRequest (by decide +kernel)
  have hasleep : nappingAgain.IsAsleep Slot.last := by
    unfold IsAsleep
    decide +kernel
  have hwakes : nappingAgain.coordinator.wakes.get Slot.last = some 1600 := by decide +kernel
  obtain ⟨due, _, hnote, hends, _⟩ := sleeps_until_due hagain hasleep
  have hdue : due = 1600 := Option.some.inj (hnote.symm.trans hwakes)
  refine ⟨by decide +kernel, hasleep, ?_⟩
  by_contra hearly
  rcases hends ⟨1000, 5⟩ .wake hearly with ⟨_, hover⟩ | ⟨_, hcommand, _⟩ | ⟨_, hcommand, _⟩
  · rw [hdue] at hover
    exact absurd hover (by decide)
  · cases hcommand
  · cases hcommand

end Moment

end ModuleBus

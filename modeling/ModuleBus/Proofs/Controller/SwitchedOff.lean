import ModuleBus.Proofs.Controller.Power

set_option autoImplicit false

/-! # What was switched off from outside

A module that a command from outside has switched off is to stay off until another command switches
it on. Periods, ticks and checks look at the state of a slot first and leave such a slot alone, and
so does the end of a sleep. A request to sleep does not look: the module may have written it before
it lost its power. The slot is then recorded as asleep, no longer as switched off, and the end of
the sleep gives it power again. -/

namespace ModuleBus

open Wired (rails)
open Switchboard (Does)

/-! ## Lasting states

Asleep and switched off are the states that a slot keeps until somebody ends them. -/

/-- A slot keeps the state until it wakes up or something comes from outside. -/
def SlotPower.IsLasting : SlotPower → Prop
  | .disabledDutyCycle | .disabledOff => True
  | _ => False

/-- The switching can end a lasting state of a slot. -/
def Switching.Ends (s : Slot) (state : SlotPower) : Switching → Prop
  | .on r .wake => r = s ∧ state = .disabledDutyCycle
  | .on r .command | .deny r => r = s
  | .off r next => r = s ∧ next.IsLasting ∧ next ≠ state
  | _ => False

/-- Every other switching keeps a slot in a lasting state. -/
theorem Switchboard.state_apply_of_lasting {b : Switchboard} {x : Switching} {s : Slot}
    {state : SlotPower} (hstate : state.IsLasting) (hx : ¬x.Ends s state) (hallowed : b.Allowed x)
    (h : b.state s = state) : (b.apply x).state s = state := by
  have hrecord {r : Slot} {next : SlotPower} (hnext : r = s → next = state) :
      (b.record r next).state s = state :=
    state_record (Q := (· = state)) hnext h
  -- A switching that asks for another state is not about the slot.
  have hlooks {r : Slot} {required : SlotPower} (hr : b.state r = required)
      (hrequired : ¬required.IsLasting) : r ≠ s := by
    rintro rfl
    exact hrequired (hr.symm.trans h ▸ hstate)
  cases hallowed with
  | offEnergy _ hr | offCycle _ _ hr | onBudget _ hr | onCycle _ _ hr | strand _ hr =>
    exact hrecord fun hrs => absurd hrs (hlooks hr id)
  | offSleep _ | offCommand _ =>
    refine hrecord fun hrs => ?_
    by_contra hnext
    exact hx ⟨hrs, trivial, hnext⟩
  | onWake _ hr => exact hrecord fun hrs => absurd ⟨hrs, (h.symm.trans (hrs ▸ hr))⟩ hx
  | onCommand _ | deny _ _ => exact hrecord fun hrs => absurd hrs hx
  | grant _ _ _ _ | release _ _ | cut _ _ | restore _ _ => exact h

/-- What follows a pause ends no such state. -/
theorem Switching.IsSequel.not_ends {x : Switching} (h : x.IsSequel) (s : Slot)
    (state : SlotPower) : ¬x.Ends s state := by
  cases h <;> exact id

namespace Moment

section

variable {W : Type}

/-- The slot is switched off from outside. -/
def IsOff (m : Moment W) (s : Slot) : Prop :=
  (m.coordinator.modules.get s).state = .disabledOff

/-- The event is a command from outside to switch the slot on. -/
def SwitchesOn (m : Moment W) (event : Event) (s : Slot) : Prop :=
  ∃ name, event.command? = some (.on name) ∧ m.coordinator.modules.findName? name = some s

/-- The event is a command from outside to switch the slot off. -/
def SwitchesOff (m : Moment W) (event : Event) (s : Slot) : Prop :=
  ∃ name, event.command? = some (.off name) ∧ m.coordinator.modules.findName? name = some s

/-- The event is a request to put the slot to sleep. -/
def PutsToSleep (m : Moment W) (event : Event) (s : Slot) : Prop :=
  ∃ request ms, event = .message request ∧ m.coordinator.nap? request = some (s, ms)

end

section

variable {W : Type} {m : Moment W} {event : Event} {s : Slot}

/-- A request to sleep carries no command. -/
theorem PutsToSleep.not_switchesOn {r : Slot} (h : m.PutsToSleep event s) :
    ¬m.SwitchesOn event r := by
  obtain ⟨request, ms, rfl, hnap⟩ := h
  rintro ⟨name, hcommand, -⟩
  exact nomatch (Coordinator.command?_of_nap? hnap).symm.trans hcommand

end

variable {W : Type} [Board W] {m m' : Moment W} {event : Event} {s : Slot}

/-- A lasting state ends with a sleep, by a command, or by a request to sleep. -/
theorem cases_of_ends {clock : Clock} {x : Switching} {state : SlotPower}
    (hstate : (m.coordinator.modules.get s).state = state)
    (h : m.coordinator.Makes clock m.endpoint.world event x) (hx : x.Ends s state) :
    (event = .wake ∧ m.coordinator.IsDue clock.now s ∧ state = .disabledDutyCycle)
      ∨ m.SwitchesOn event s ∨ (m.SwitchesOff event s ∧ state ≠ .disabledOff)
      ∨ (m.PutsToSleep event s ∧ state ≠ .disabledDutyCycle) := by
  cases h with
  | grant _ | release | pulse | reset _ _ | refill _ _ => exact hx.elim
  | cycle | exhaust _ _ => exact hx.2.1.elim
  | wake hdue _ =>
    obtain ⟨rfl, hasleep⟩ := hx
    exact .inl ⟨rfl, hdue, hasleep⟩
  | tire hdue hasleep =>
    cases hx
    exact .inl ⟨rfl, hdue, hstate.symm.trans hasleep⟩
  | sleep hnap =>
    obtain ⟨rfl, _, hawake⟩ := hx
    exact .inr (.inr (.inr ⟨⟨_, _, rfl, hnap⟩, hawake.symm⟩))
  | command hcommand hd =>
    cases hd with
    | off hname =>
      obtain ⟨rfl, _, hon⟩ := hx
      exact .inr (.inr (.inl ⟨⟨_, hcommand, hname⟩, hon.symm⟩))
    | on hname _ =>
      cases hx
      exact .inr (.inl ⟨_, hcommand, hname⟩)
    | strand _ _ _ _ => exact hx.elim
  | refuse hcommand hname =>
    cases hx
    exact .inr (.inl ⟨_, hcommand, hname⟩)

variable [Link W]

/-- Whatever the state of the slot was, it is asleep afterwards. -/
theorem PutsToSleep.state_begin (clock : Clock) (h : m.PutsToSleep event s) :
    ((m.begin clock event).coordinator.modules.get s).state = .disabledDutyCycle := by
  obtain ⟨request, ms, rfl, hnap⟩ := h
  have hmetered := (Coordinator.nap?_eq_some.mp hnap).2.2.2.2
  rw [begin, Coordinator.begin_nap _ clock m.endpoint hnap]
  exact (m.coordinator.sleep_self clock.now ms m.endpoint.world hmetered).1

variable [Wired W] {may : Moment W → Event → Prop}

/-- A step that neither switches the slot on nor puts it to sleep keeps it switched off. -/
theorem IsOff.step (h : Step may m m') (hawaits : m.Awaits) (hoff : m.IsOff s)
    (hmay : ∀ event, m.pause = none → may m event →
      ¬m.SwitchesOn event s ∧ ¬m.PutsToSleep event s) : m'.IsOff s := by
  refine (makes_of_step (K := fun x => ¬x.Ends s .disabledOff)
    (fun clock event hidle hevent x hx hends => ?_) (fun _ hx => hx.not_ends s _) h
    hawaits).1.preserves (I := fun b => b.state s = .disabledOff)
    (fun _ _ => Switchboard.state_apply_of_lasting trivial) hoff
  obtain ⟨hon, hsleeps⟩ := hmay event hidle hevent
  rcases cases_of_ends hoff hx hends with ⟨_, _, hasleep⟩ | hon' | ⟨_, hawake⟩ | ⟨hsleeps', _⟩
  · cases hasleep
  · exact hon hon'
  · exact hawake rfl
  · exact hsleeps hsleeps'

/-- A slot that is switched off stays so through a run in which nothing switches it on or puts it
to sleep. -/
theorem IsOff.of_reaches (h : Reaches may m m') (hawaits : m.Awaits) (hoff : m.IsOff s)
    (hmay : ∀ m'' event, Reaches may m m'' → m''.pause = none → may m'' event → m''.IsOff s →
      ¬m''.SwitchesOn event s ∧ ¬m''.PutsToSleep event s) : m'.IsOff s := by
  induction h with
  | refl => exact hoff
  | tail hreaches hstep ih =>
    exact ih.step hstep (awaits_of_reaches hreaches hawaits) fun event hidle hevent =>
      hmay _ event hreaches hidle hevent ih

/-- **What is switched off from outside stays off** through every run in which no command switches
it on, if and only if no event of a run puts it to sleep while it is switched off: a request to
sleep records it as asleep, whatever it was before. While it is switched off it has no power. -/
theorem stays_off_iff {settings : Settings} {now : Nat} {node : Dispatcher} {w : W}
    (may : Moment W → Event → Prop) {s : Slot} (hs : s ≠ Slot.controller) :
    ((∀ m m', Reaches may (boot settings now node w) m → m.IsOff s →
        Reaches (fun m event => may m event ∧ ¬m.SwitchesOn event s) m m' → m'.IsOff s)
      ↔ ∀ m event, Reaches may (boot settings now node w) m → m.pause = none → may m event →
        m.IsOff s → ¬m.PutsToSleep event s)
    ∧ (∀ m, Reaches may (boot settings now node w) m → m.IsOff s →
      (rails m.endpoint.world).power s = false)
    ∧ ∀ (m : Moment W) event clock, m.PutsToSleep event s →
      ((m.begin clock event).coordinator.modules.get s).state = .disabledDutyCycle := by
  refine ⟨⟨fun hstays m event hm hidle hmay hoff hsleeps => ?_, fun hnever m m' hm hoff hrun => ?_⟩,
    fun m hm hoff => ?_, fun m event clock hsleeps => hsleeps.state_begin clock⟩
  · have hrun : Reaches (fun m event => may m event ∧ ¬m.SwitchesOn event s) m
        (m.begin ⟨0, 0⟩ event) :=
      .single (.begin ⟨0, 0⟩ event hidle ⟨hmay, hsleeps.not_switchesOn⟩)
    have hstill : ((m.begin ⟨0, 0⟩ event).coordinator.modules.get s).state = .disabledOff :=
      hstays m _ hm hoff hrun
    rw [hsleeps.state_begin ⟨0, 0⟩] at hstill
    cases hstill
  · refine hoff.of_reaches hrun (awaits_of_reaches hm trivial)
      fun m'' event hreaches hidle hevent hoff'' =>
        ⟨hevent.2, hnever m'' event ?_ hidle hevent.1 hoff''⟩
    exact hm.trans (reaches_mono hreaches fun _ _ _ _ h => h.1)
  · rcases isInStep_or_isStranded_of_reaches hs hm with hin | ⟨hstate, _⟩
    · by_contra hpower
      cases hoff.symm.trans (hin.mp (Bool.of_not_eq_false hpower)).1
    · cases hoff.symm.trans hstate

/-- The module "m" is switched off. -/
def switchedOff : Moment DeskWorld := declared.begin ⟨0, 2⟩ (.command (.off "m"))

/-- A request to sleep that is handled after the module was switched off gives it power again. -/
theorem late_request_to_sleep_revives :
    switchedOff.IsOff Slot.last ∧ (rails switchedOff.endpoint.world).power Slot.last = false
      ∧ ∃ m, Reaches (fun m event => True ∧ ¬m.SwitchesOn event Slot.last) switchedOff m
        ∧ (m.coordinator.modules.get Slot.last).state = .enabled
        ∧ (rails m.endpoint.world).power Slot.last = true := by
  have hmodule : Slot.last ≠ Slot.controller := by decide
  have hreaches : Reaches (fun _ _ => True) deskBoot switchedOff :=
    reaches_declared.tail (.begin ⟨0, 2⟩ _ (by decide +kernel) trivial)
  have hoff : switchedOff.IsOff Slot.last := by
    unfold IsOff
    decide +kernel
  have hpower := (stays_off_iff (fun _ _ => True) hmodule).2.1 switchedOff hreaches hoff
  have hsleeps : switchedOff.PutsToSleep sleepRequest Slot.last :=
    ⟨_, 1, rfl, by decide +kernel⟩
  have hrun : Reaches (fun m event => True ∧ ¬m.SwitchesOn event Slot.last) switchedOff
      ((switchedOff.begin ⟨0, 3⟩ sleepRequest).begin ⟨1000, 4⟩ .wake) :=
    (Relation.ReflTransGen.single
      (.begin ⟨0, 3⟩ sleepRequest (by decide +kernel) ⟨trivial, hsleeps.not_switchesOn⟩)).tail
      (.begin ⟨1000, 4⟩ .wake (by decide +kernel) ⟨trivial, fun ⟨_, h, _⟩ => nomatch h⟩)
  exact ⟨hoff, hpower, _, hrun, by decide +kernel, by decide +kernel⟩

end Moment

end ModuleBus

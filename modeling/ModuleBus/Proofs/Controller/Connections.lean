import ModuleBus.Proofs.Controller.Budgets

set_option autoImplicit false

/-! # Who is connected

While nobody holds the bus every module that is on is connected, and while a module holds it that
module is. A slot that is switched on while somebody holds the bus is not connected at once: the
release of the bus connects it. That is right while another slot holds the bus. But the holder
itself may be switched off and on again before the scheduler looks at it, and then it runs, holds
the bus, and is not connected.

A slot whose stranding takes its state away keeps its connection, as it keeps its power. There is
no third way to bring the two out of step. -/

namespace ModuleBus

open Wired (rails)
open Switchboard (Does)

/-- The switching moves the bus to or from a slot. -/
def Switching.Moves : Switching → Prop
  | .grant _ | .release _ => True
  | _ => False

/-- The switching switches a slot on. -/
def Switching.Starts (s : Slot) : Switching → Prop
  | .on r _ => r = s
  | _ => False

/-- The switching switches a slot off. -/
def Switching.Stops (s : Slot) : Switching → Prop
  | .off r _ => r = s
  | _ => False

namespace Switchboard

variable {b b' : Switchboard} {s : Slot} {x : Switching} {P : Switching → Prop}

/-- Nobody else holds the bus. -/
def IsFreeFor (b : Switchboard) (s : Slot) : Prop := b.holder = none ∨ b.holder = some s

/-- Unless somebody else holds the bus, the slot is connected exactly if it is enabled. -/
def IsJoined (b : Switchboard) (s : Slot) : Prop :=
  b.IsFreeFor s → (b.rails.bus s = true ↔ b.state s = .enabled)

/-- A slot that is switched on is connected if nobody holds the bus. -/
theorem bus_apply_on (b : Switchboard) (r s : Slot) (cause : Cause) :
    (b.apply (.on r cause)).rails.bus s
      = if s = r ∧ b.holder = none then true else b.rails.bus s := by
  cases hholder : b.holder with
  | none =>
    by_cases hrs : s = r
    · simp [apply, record, Rails.setBus, hholder, hrs]
    · simp [apply, record, Rails.setBus, Rails.setPower, hholder, hrs]
  | some q => simp [apply, record, Rails.setPower, hholder]

/-- Every switching but a stranding keeps a slot joined, as long as the holder of the bus is not
switched on. -/
theorem isJoined_apply (hs : s ≠ Slot.controller) (hallowed : b.Allowed x) (hstrand : x ≠ .strand s)
    (hstarts : x.Starts s → b.holder = some s → b.state s = .enabled) (h : b.IsJoined s) :
    (b.apply x).IsJoined s := by
  intro hfree
  cases x with
  | off r state =>
    by_cases hrs : s = r
    · simp [apply, record, Rails.setBus, hrs, hallowed.ne_enabled]
    · simpa [apply, record, Rails.setBus, Rails.setPower, hrs] using h hfree
  | on r cause =>
    rw [bus_apply_on]
    by_cases hrs : s = r
    · subst hrs
      obtain (hnone : b.holder = none) | (hholds : b.holder = some s) := hfree
      · simp [apply, record, hnone]
      · simp [apply, record, hholds, (h (.inr hholds)).mpr (hstarts rfl hholds)]
    · simpa [apply, record, hrs] using h hfree
  | deny r =>
    cases hallowed with
    | deny _ hstate =>
      -- The slot was not enabled before either, so it was not connected.
      by_cases hrs : s = r
      · subst hrs
        simpa [apply, record, hstate] using h hfree
      · simpa [apply, record, hrs] using h hfree
  | strand r =>
    have hrs : s ≠ r := fun hrs => hstrand (by rw [hrs])
    simpa [apply, record, hrs] using h hfree
  | grant r =>
    cases hallowed with
    | grant _ _ _ hstate =>
      have hsr : r = s := Option.some.inj (hfree.resolve_left (Option.some_ne_none r))
      subst hsr
      simp [apply, Rails.setBuses, Rails.setGrant, hs, hstate]
  | release r => simp [apply, Rails.setBuses, Rails.setGrant, hs, isEnabled, SlotPower.isEnabled]
  | cut r => exact h hfree
  | restore r => exact h hfree

/-- What follows a pause keeps every slot joined: a slot that was power-cycled is switched on while
nobody holds the bus. -/
theorem isJoined_apply_of_sequel (hs : s ≠ Slot.controller) (hallowed : b.Allowed x)
    (hx : x.IsSequel) (h : b.IsJoined s) : (b.apply x).IsJoined s := by
  refine isJoined_apply hs hallowed ?_ (fun hstarts hholds => ?_) h
  · rintro rfl
    cases hx
  · cases hx with
    | on =>
      cases hallowed with
      | onCycle _ hnone _ => cases hnone.symm.trans hholds
    | restore | cut => exact hstarts.elim

/-- Unless the bus is granted or taken, its holder stays. -/
theorem Does.holder_eq (h : Does P b b') (hmoves : ∀ x, P x → ¬x.Moves) : b'.holder = b.holder := by
  refine h.preserves (I := fun b'' => b''.holder = b.holder) (fun b'' x hx _ hsame => ?_) rfl
  have hmoves := hmoves x hx
  cases x with
  | grant r | release r => exact absurd trivial hmoves
  | _ => exact hsame

/-- While a slot holds the bus, nothing connects it. -/
theorem Does.bus_eq_false (h : Does P b b') (hmoves : ∀ x, P x → ¬x.Moves)
    (hholds : b.holder = some s) (hbus : b.rails.bus s = false) : b'.rails.bus s = false := by
  refine (h.preserves (I := fun b'' => b''.holder = some s ∧ b''.rails.bus s = false)
    (fun b'' x hx _ ⟨hholds, hbus⟩ => ?_) ⟨hholds, hbus⟩).2
  have hmoves := hmoves x hx
  cases x with
  | grant r | release r => exact absurd trivial hmoves
  | off r state =>
    refine ⟨hholds, ?_⟩
    by_cases hrs : s = r
    · simp [apply, Rails.setBus, hrs]
    · simpa [apply, record, Rails.setBus, Rails.setPower, hrs] using hbus
  | on r cause =>
    refine ⟨hholds, ?_⟩
    rw [bus_apply_on, hholds]
    simpa using hbus
  | _ => exact ⟨hholds, hbus⟩

/-- A slot that is off stays off unless it is switched on. -/
theorem Does.state_ne_enabled (h : Does P b b') (hstarts : ∀ x, P x → ¬x.Starts s)
    (hoff : b.state s ≠ .enabled) : b'.state s ≠ .enabled := by
  refine h.preserves (I := fun b'' => b''.state s ≠ .enabled)
    (fun b'' x hx hallowed hoff => ?_) hoff
  have hstarts := hstarts x hx
  cases x with
  | off r state => exact state_record (Q := (· ≠ .enabled)) (fun _ => hallowed.ne_enabled) hoff
  | on r cause => exact state_record (Q := (· ≠ .enabled)) (fun hrs => absurd hrs hstarts) hoff
  | deny r | strand r => exact state_record (Q := (· ≠ .enabled)) (fun _ => by decide) hoff
  | _ => exact hoff

/-- A slot that is on stays on unless it is switched off, or stranded. -/
theorem state_apply_of_enabled (hallowed : b.Allowed x) (hstops : ¬x.Stops s)
    (hstrand : x ≠ .strand s) (hon : b.state s = .enabled) : (b.apply x).state s = .enabled := by
  cases x with
  | off r state => exact state_record (Q := (· = .enabled)) (fun hrs => absurd hrs hstops) hon
  | on r cause => exact state_record (Q := (· = .enabled)) (fun _ => rfl) hon
  | deny r =>
    cases hallowed with
    | deny _ hoff =>
      exact state_record (Q := (· = .enabled)) (fun hrs => absurd (hrs ▸ hon) hoff) hon
  | strand r =>
    refine state_record (Q := (· = .enabled)) (fun hrs => ?_) hon
    exact absurd (congrArg Switching.strand hrs) hstrand
  | _ => exact hon

/-- Switchings that either never switch a slot on or never switch it off keep it joined, unless
they strand it, or it holds the bus and comes back. -/
theorem Does.isJoined (hs : s ≠ Slot.controller) (h : Does P b b') (hmoves : ∀ x, P x → ¬x.Moves)
    (hstrand : b.IsFreeFor s → ¬P (.strand s))
    (honce : (∀ x, P x → ¬x.Starts s) ∨ ∀ x, P x → ¬x.Stops s)
    (hback : b.holder = some s → b.state s ≠ .enabled → b'.state s ≠ .enabled)
    (hb : b.IsJoined s) : b'.IsJoined s := by
  intro hfree
  have hfree' : b.IsFreeFor s := by
    rw [IsFreeFor, h.holder_eq hmoves] at hfree
    exact hfree
  have hne {x : Switching} (hx : P x) : x ≠ .strand s := fun hx' => hstrand hfree' (hx' ▸ hx)
  by_cases hholds : b.holder = some s
  · by_cases hon : b.state s = .enabled
    · rcases honce with hstarts | hstops
      · refine h.preserves (I := fun b'' => b''.IsJoined s)
          (fun b'' x hx hallowed hb => ?_) hb hfree
        exact isJoined_apply hs hallowed (hne hx) (fun hx' => absurd hx' (hstarts x hx)) hb
      · refine (h.preserves (I := fun b'' => b''.state s = .enabled ∧ b''.IsJoined s)
          (fun b'' x hx hallowed ⟨hon, hb⟩ => ⟨?_, ?_⟩) ⟨hon, hb⟩).2 hfree
        · exact state_apply_of_enabled hallowed (hstops x hx) (hne hx) hon
        · exact isJoined_apply hs hallowed (hne hx) (fun _ _ => hon) hb
    · -- It was not connected, and as nothing connects it, it must not come back.
      have hbus : b.rails.bus s = false := by
        rw [Bool.eq_false_iff, ne_eq, hb hfree']
        exact hon
      simp [h.bus_eq_false hmoves hholds hbus, hback hholds hon]
  · refine (h.preserves (I := fun b'' => b''.holder = b.holder ∧ b''.IsJoined s)
      (fun b'' x hx hallowed ⟨hsame, hb⟩ => ⟨?_, ?_⟩) ⟨rfl, hb⟩).2 hfree
    · exact ((Does.single x hx hallowed).holder_eq hmoves).trans hsame
    · have hother : b''.holder ≠ some s := fun hholds' => hholds (hsame.symm.trans hholds')
      exact isJoined_apply hs hallowed (hne hx) (fun _ hholds' => absurd hholds' hother) hb

/-- What is right about the connection of a slot in all cases: a slot that is on is connected if
nobody holds the bus, and a slot that is connected though nobody else holds the bus is on, or
stranded. -/
structure IsLinked (b : Switchboard) (s : Slot) : Prop where
  bus : b.holder = none → b.state s = .enabled → b.rails.bus s = true
  state : b.IsFreeFor s → b.rails.bus s = true →
    b.state s = .enabled ∨ b.state s = .disabledEnergy

theorem IsLinked.apply (hs : s ≠ Slot.controller) (hallowed : b.Allowed x) (h : b.IsLinked s) :
    (b.apply x).IsLinked s := by
  obtain ⟨hbus, hstate⟩ := h
  cases x with
  | off r state =>
    by_cases hrs : s = r
    · constructor <;>
        simp [Switchboard.apply, record, Rails.setBus, hrs, hallowed.ne_enabled]
    · constructor
      · simpa [Switchboard.apply, record, Rails.setBus, Rails.setPower, hrs] using hbus
      · intro hfree
        simpa [Switchboard.apply, record, Rails.setBus, Rails.setPower, hrs] using hstate hfree
  | on r cause =>
    by_cases hrs : s = r
    · subst hrs
      constructor
      · intro (hnone : b.holder = none) _
        simp [bus_apply_on, hnone]
      · intro _ _
        simp [Switchboard.apply, record]
    · constructor
      · intro (hnone : b.holder = none)
        rw [bus_apply_on]
        simpa [Switchboard.apply, record, hrs] using hbus hnone
      · intro hfree
        rw [bus_apply_on]
        simpa [Switchboard.apply, record, hrs] using hstate hfree
  | deny r | strand r =>
    by_cases hrs : s = r
    · constructor <;> simp [Switchboard.apply, record, hrs]
    · constructor
      · simpa [Switchboard.apply, record, hrs] using hbus
      · intro hfree
        simpa [Switchboard.apply, record, hrs] using hstate hfree
  | grant r =>
    cases hallowed with
    | grant _ _ _ henabled =>
      refine ⟨fun hnone => absurd hnone (Option.some_ne_none r), fun hfree _ => ?_⟩
      have hrs : r = s := Option.some.inj (hfree.resolve_left (Option.some_ne_none r))
      exact .inl (hrs ▸ henabled)
  | release r =>
    constructor <;>
      simp +contextual [Switchboard.apply, Rails.setBuses, Rails.setGrant, hs, isEnabled,
        SlotPower.isEnabled]
  | cut r => exact ⟨hbus, hstate⟩
  | restore r => exact ⟨hbus, hstate⟩

end Switchboard

/-! ## What one event can switch -/

namespace Coordinator

variable {W : Type} [Board W] {c : Coordinator} {clock : Clock} {w : W} {event : Event}
  {s : Slot} {x : Switching}

/-- Only a tick moves the bus. -/
theorem Makes.not_moves (h : c.Makes clock w event x) (hevent : event ≠ .tick) : ¬x.Moves := by
  cases h with
  | grant _ | release => exact absurd rfl hevent
  | command _ hd => cases hd <;> exact id
  | _ => exact id

/-- A tick switches no slot on, and strands none. -/
theorem Makes.of_tick (h : c.Makes clock w .tick x) : ¬x.Starts s ∧ x ≠ .strand s := by
  cases h with
  | grant _ | release | cycle => simp [Switching.Starts]
  | command hcommand _ | refuse hcommand _ | reset hcommand _ => cases hcommand

/-- Three kinds of events switch a slot on. -/
theorem Makes.cases_of_starts (h : c.Makes clock w event x) (hx : x.Starts s) :
    (event = .period ∧ 0 < ((c.billed clock.now w).get (.module s)).remaining) ∨ event = .wake
      ∨ ∃ name, event.command? = some (.on name) := by
  cases h with
  | refill _ hremaining =>
    cases hx
    exact .inl ⟨rfl, hremaining⟩
  | wake _ _ => exact .inr (.inl rfl)
  | command hcommand hd =>
    cases hd with
    | on _ _ => exact .inr (.inr ⟨_, hcommand⟩)
    | off _ | strand _ _ _ _ => exact hx.elim
  | _ => exact hx.elim

/-- An event does not switch the same slot on and off. -/
theorem Makes.not_stops {y : Switching} (hx : c.Makes clock w event x) (hstarts : x.Starts s)
    (hy : c.Makes clock w event y) : ¬y.Stops s := by
  intro hstops
  rcases hx.cases_of_starts hstarts with ⟨rfl, hremaining⟩ | rfl | ⟨name, hcommand⟩
  · cases hy with
    | exhaust _ hexhausted =>
      cases hstops
      exact absurd hremaining (Int.not_lt.mpr hexhausted)
    | refill _ _ => exact hstops
    | command hnone _ | refuse hnone _ | reset hnone _ => cases hnone
  · cases hy with
    | wake _ _ | tire _ _ => exact hstops
    | command hnone _ | refuse hnone _ | reset hnone _ => cases hnone
  · cases hy with
    | command hcommand' hd =>
      cases Option.some.inj (hcommand.symm.trans hcommand')
      cases hd <;> exact hstops
    | cycle => cases hcommand
    | exhaust _ _ => cases hcommand
    | sleep hnap =>
      rw [Event.command?, command?_of_nap? hnap] at hcommand
      cases hcommand
    | _ => exact hstops

/-- An event that can switch a slot on has no pause. -/
theorem pause_begin_of_starts [Link W] (c : Coordinator) (clock : Clock) (e : Endpoint W)
    (h : event = .period ∨ event = .wake ∨ ∃ name, event.command? = some (.on name)) :
    (c.begin clock event e).1 = none := by
  rcases h with rfl | rfl | ⟨name, hcommand⟩
  · rfl
  · rfl
  · rw [begin_of_command c clock event e hcommand]
    unfold begin applyDownlink
    dsimp only
    split
    · rfl
    · unfold applyTo
      dsimp only
      split <;> rfl

end Coordinator

/-! ## All runs -/

namespace Moment

variable {W : Type}

/-- Nobody else holds the bus. -/
def IsFreeFor (m : Moment W) (s : Slot) : Prop :=
  m.coordinator.isolation.holder = none ∨ m.coordinator.isolation.holder = some s

variable [Board W] [Link W]

/-- The event switches a slot on that holds the bus and is off. -/
def Revives (m : Moment W) (event : Event) (s : Slot) : Prop :=
  m.coordinator.isolation.holder = some s ∧ (m.coordinator.modules.get s).state ≠ .enabled
    ∧ ∃ clock, ((m.begin clock event).coordinator.modules.get s).state = .enabled

variable [Wired W] {may : Moment W → Event → Prop} {m m' : Moment W} {event : Event} {s : Slot}

/-- The first part of an event keeps a slot joined unless it revives or strands the slot. -/
theorem isJoined_begin (hs : s ≠ Slot.controller) (hidle : m.pause = none) (clock : Clock)
    (hrevives : ¬m.Revives event s) (hstrands : m.Strands event s → ¬m.IsFreeFor s)
    (h : m.switchboard.IsJoined s) : (m.begin clock event).switchboard.IsJoined s := by
  have hdoes := (m.coordinator.makes_begin clock event m.endpoint).does
  rw [switchboard, hidle] at h
  by_cases hevent : event = .tick
  · subst hevent
    exact hdoes.preserves (fun b x hx hallowed hb =>
      Switchboard.isJoined_apply hs hallowed hx.of_tick.2 (fun hx' => absurd hx' hx.of_tick.1) hb) h
  · refine hdoes.isJoined hs (fun x hx => hx.not_moves hevent) ?_ ?_ ?_ h
    · exact fun hfree hx => hstrands (strands_of_admits hx.admits) hfree
    · by_cases hstarts : ∃ x, m.coordinator.Makes clock m.endpoint.world event x ∧ x.Starts s
      · obtain ⟨x, hx, hx'⟩ := hstarts
        exact .inr fun y hy => hx.not_stops hx' hy
      · exact .inl fun x hx hx' => hstarts ⟨x, hx, hx'⟩
    · exact fun hholds hoff hon => hrevives ⟨hholds, hoff, clock, hon⟩

/-- A step keeps a slot joined unless an event that revives or strands it begins. -/
theorem isJoined_step (hs : s ≠ Slot.controller) (h : Step may m m') (hawaits : m.Awaits)
    (hmay : ∀ event, m.pause = none → may m event →
      ¬m.Revives event s ∧ (m.Strands event s → ¬m.IsFreeFor s))
    (hm : m.switchboard.IsJoined s) : m'.switchboard.IsJoined s := by
  rcases h.begins_or_not with ⟨clock, event, hidle, hevent, rfl⟩ | hnever
  · obtain ⟨hrevives, hstrands⟩ := hmay event hidle hevent
    exact isJoined_begin hs hidle clock hrevives hstrands hm
  · exact (does_of_never hnever hawaits).preserves
      (fun _ _ hx hallowed => Switchboard.isJoined_apply_of_sequel hs hallowed hx) hm

theorem isJoined_of_reaches (hs : s ≠ Slot.controller) (h : Reaches may m m') (hawaits : m.Awaits)
    (hmay : ∀ m'' event, Reaches may m m'' → m''.pause = none → may m'' event →
      ¬m''.Revives event s ∧ (m''.Strands event s → ¬m''.IsFreeFor s))
    (hm : m.switchboard.IsJoined s) : m'.switchboard.IsJoined s := by
  induction h with
  | refl => exact hm
  | tail hreaches hstep ih =>
    exact isJoined_step hs hstep (awaits_of_reaches hreaches hawaits)
      (fun event => hmay _ event hreaches) ih

omit [Wired W] in
/-- A stranding takes the state of the slot, and leaves its connection. -/
theorem holder_begin_of_strands (clock : Clock) (h : m.Strands event s) :
    (m.begin clock event).coordinator.isolation.holder = m.coordinator.isolation.holder := by
  rw [begin_eq_of_strands clock h]
  rfl

/-- An event that revives a slot ends at once and leaves the slot with the bus, but not connected if
it was not. -/
theorem begin_of_revives (clock : Clock)
    (hholds : m.coordinator.isolation.holder = some s)
    (hoff : (m.coordinator.modules.get s).state ≠ .enabled)
    (hon : ((m.begin clock event).coordinator.modules.get s).state = .enabled)
    (hbus : (rails m.endpoint.world).bus s = false) :
    (m.begin clock event).pause = none
      ∧ (m.begin clock event).coordinator.isolation.holder = some s
      ∧ (rails (m.begin clock event).endpoint.world).bus s = false := by
  have hdoes := (m.coordinator.makes_begin clock event m.endpoint).does
  have hstarts : ∃ x, m.coordinator.Makes clock m.endpoint.world event x ∧ x.Starts s := by
    by_contra hnever
    exact hdoes.state_ne_enabled (fun x hx hx' => hnever ⟨x, hx, hx'⟩) hoff hon
  obtain ⟨x, hx, hx'⟩ := hstarts
  have hkind : event = .period ∨ event = .wake ∨ ∃ name, event.command? = some (.on name) :=
    (hx.cases_of_starts hx').imp_left And.left
  have hevent : event ≠ .tick := by
    rintro rfl
    exact hx.of_tick.1 hx'
  have hmoves := fun y (hy : m.coordinator.Makes clock m.endpoint.world event y) =>
    hy.not_moves hevent
  exact ⟨m.coordinator.pause_begin_of_starts clock m.endpoint hkind,
    (hdoes.holder_eq hmoves).trans hholds, hdoes.bus_eq_false hmoves hholds hbus⟩

theorem isLinked_of_reaches {settings : Settings} {now : Nat} {node : Dispatcher} {w : W}
    (hs : s ≠ Slot.controller) (h : Reaches may (boot settings now node w) m) :
    m.switchboard.IsLinked s := by
  refine invariant_of_reaches (I := (·.IsLinked s)) (K := fun _ => True) (fun _ _ _ _ _ => trivial)
    (fun _ _ => trivial) (fun _ _ _ hallowed hb => hb.apply hs hallowed) ?_ h
  rw [switchboard_boot]
  constructor <;> simp [hs]

/-- **Who is connected.** Between the events of all runs, whenever nobody else holds the bus, a
module is connected exactly while its state is enabled, if and only if no event of such a run does
one of two things: it switches the module on while the module itself holds the bus and is off, or
it strands the module while nobody else holds the bus. Whatever happens, an enabled module is
connected while nobody holds the bus, and a module that is connected though nobody else holds the
bus is enabled or recorded as being without energy. -/
theorem connected_while_enabled_iff {settings : Settings} {now : Nat} {node : Dispatcher} {w : W}
    (may : Moment W → Event → Prop) {s : Slot} (hs : s ≠ Slot.controller) :
    ((∀ m, Reaches may (boot settings now node w) m → m.pause = none → m.IsFreeFor s →
        ((rails m.endpoint.world).bus s = true ↔ (m.coordinator.modules.get s).state = .enabled))
      ↔ ∀ m event, Reaches may (boot settings now node w) m → m.pause = none → may m event →
        ¬m.Revives event s ∧ (m.Strands event s → ¬m.IsFreeFor s))
    ∧ ∀ m, Reaches may (boot settings now node w) m →
      (m.coordinator.isolation.holder = none → (m.coordinator.modules.get s).state = .enabled →
          (rails m.endpoint.world).bus s = true)
        ∧ (m.IsFreeFor s → (rails m.endpoint.world).bus s = true →
          (m.coordinator.modules.get s).state = .enabled
            ∨ (m.coordinator.modules.get s).state = .disabledEnergy) := by
  refine ⟨⟨fun hjoined m event hm hidle hmay => ⟨?_, fun hstrands hfree => ?_⟩,
    fun hnever m hm _ hfree => ?_⟩, fun m hm => ?_⟩
  · rintro ⟨hholds, hoff, clock, hon⟩
    have hbus : (rails m.endpoint.world).bus s = false := by
      rw [Bool.eq_false_iff, ne_eq, hjoined m hm hidle (.inr hholds)]
      exact hoff
    obtain ⟨hidle', hholds', hbus'⟩ := begin_of_revives clock hholds hoff hon hbus
    have hm' : Reaches may (boot settings now node w) (m.begin clock event) :=
      hm.tail (.begin clock event hidle hmay)
    rw [(hjoined _ hm' hidle' (.inr hholds')).mpr hon] at hbus'
    cases hbus'
  · obtain ⟨hidle', hstate', hendpoint⟩ := begin_of_strands ⟨0, 0⟩ hstrands
    have hfree' : (m.begin ⟨0, 0⟩ event).IsFreeFor s := by
      rw [IsFreeFor, holder_begin_of_strands ⟨0, 0⟩ hstrands]
      exact hfree
    have hm' : Reaches may (boot settings now node w) (m.begin ⟨0, 0⟩ event) :=
      hm.tail (.begin ⟨0, 0⟩ event hidle hmay)
    obtain ⟨_, _, _, _, _, hstate⟩ := hstrands
    have hbus := (hjoined m hm hidle hfree).mpr hstate
    rw [← hendpoint, hjoined _ hm' hidle' hfree', hstate'] at hbus
    cases hbus
  · refine isJoined_of_reaches hs hm trivial hnever ?_ hfree
    rw [switchboard_boot]
    simp [Switchboard.IsJoined, hs]
  · have hlinked := isLinked_of_reaches hs hm
    exact ⟨hlinked.bus, hlinked.state⟩

/-- A module that goes to sleep while it holds the bus is not connected when it wakes up. -/
theorem sleeping_holder_wakes_disconnected :
    (napping.begin ⟨1000, 3⟩ .wake).coordinator.isolation.holder = some Slot.last
      ∧ ((napping.begin ⟨1000, 3⟩ .wake).coordinator.modules.get Slot.last).state = .enabled
      ∧ ¬∀ m, Reaches (fun _ _ => True) deskBoot m → m.pause = none → m.IsFreeFor Slot.last →
        ((rails m.endpoint.world).bus Slot.last = true ↔
          (m.coordinator.modules.get Slot.last).state = .enabled) := by
  have hidle : napping.pause = none := by decide +kernel
  have hholds : napping.coordinator.isolation.holder = some Slot.last := by decide +kernel
  have hoff : (napping.coordinator.modules.get Slot.last).state ≠ .enabled := by decide +kernel
  have hon : ((napping.begin ⟨1000, 3⟩ .wake).coordinator.modules.get Slot.last).state
      = .enabled := by
    decide +kernel
  refine ⟨by decide +kernel, hon, fun hjoined => ?_⟩
  have hnever := (connected_while_enabled_iff (fun _ _ => True) (by decide)).1.mp hjoined
  exact (hnever napping .wake reaches_napping hidle trivial).1 ⟨hholds, hoff, ⟨1000, 3⟩, hon⟩

end Moment

end ModuleBus

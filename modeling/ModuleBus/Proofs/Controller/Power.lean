import ModuleBus.Proofs.Controller.Run

set_option autoImplicit false

/-! # Power follows the state

A slot is powered while its state says that it is enabled, the moments of a power cycle aside, with
one exception. A command to switch a slot on is refused if the slot has no energy left; the refusal
records the slot as being without energy, and where the slot is on already, it stays on. Such a
slot is stranded: it draws power that its state denies. Nothing else brings power and state out of
step. -/

namespace ModuleBus

open Wired (rails)

namespace Switchboard

variable {b : Switchboard} {s : Slot} {x : Switching}

/-- The slot has power if it is enabled, and not off for a moment. -/
def IsInStep (b : Switchboard) (s : Slot) : Prop :=
  b.rails.power s = true ↔ b.state s = .enabled ∧ b.down ≠ some s

/-- The slot has power though it is recorded as being without energy. -/
def IsStranded (b : Switchboard) (s : Slot) : Prop :=
  b.state s = .disabledEnergy ∧ b.rails.power s = true

theorem Allowed.ne_enabled {state : SlotPower} (h : b.Allowed (.off s state)) :
    state ≠ .enabled := by
  cases h <;> exact nofun

theorem Allowed.down_of_on {cause : Cause} (h : b.Allowed (.on s cause)) : b.down = none := by
  cases h <;> assumption

/-- A slot that is switched on has power, whether or not it is connected. -/
theorem power_apply_on (b : Switchboard) (s : Slot) (cause : Cause) :
    (b.apply (.on s cause)).rails.power = (b.rails.setPower s true).power := by
  unfold apply
  dsimp only
  split <;> rfl

/-- Every switching but a stranding keeps the power of a slot in step. -/
theorem isInStep_apply (hallowed : b.Allowed x) (hx : x ≠ .strand s) (h : b.IsInStep s) :
    (b.apply x).IsInStep s := by
  unfold IsInStep at h ⊢
  cases x with
  | off r state =>
    by_cases hrs : s = r
    · simp [apply, record, Rails.setBus, Rails.setPower, hrs, hallowed.ne_enabled]
    · simpa [apply, record, Rails.setBus, Rails.setPower, hrs] using h
  | on r cause =>
    rw [power_apply_on]
    by_cases hrs : s = r
    · simp [apply, record, Rails.setPower, hrs, hallowed.down_of_on]
    · simpa [apply, record, Rails.setPower, hrs] using h
  | deny r =>
    cases hallowed with
    | deny _ hstate =>
      -- The slot was not enabled before either, so it had no power.
      by_cases hrs : s = r
      · subst hrs
        simpa [apply, record, hstate] using h
      · simpa [apply, record, hrs] using h
  | strand r =>
    have hrs : s ≠ r := fun hrs => hx (by rw [hrs])
    simpa [apply, record, hrs] using h
  | grant r => exact h
  | release r => exact h
  | cut r =>
    cases hallowed with
    | cut hdown _ =>
      by_cases hrs : s = r
      · simp [apply, Rails.setPower, hrs]
      · simpa [apply, Rails.setPower, hrs, hdown, Ne.symm hrs] using h
  | restore r =>
    cases hallowed with
    | restore hdown hstate =>
      by_cases hrs : s = r
      · simp [apply, Rails.setPower, hrs, hstate]
      · simpa [apply, Rails.setPower, hrs, hdown, Ne.symm hrs] using h

/-- A stranding strands a slot. -/
theorem isStranded_strand (hallowed : b.Allowed (.strand s)) (h : b.IsInStep s) :
    (b.apply (.strand s)).IsStranded s := by
  cases hallowed with
  | strand hdown hstate =>
    have hpower : b.rails.power s = true := h.mpr ⟨hstate, by simp [hdown]⟩
    exact ⟨Function.update_self _ _ _, hpower⟩

/-- A stranded slot stays so until it is switched off or on. -/
theorem isStranded_apply (hallowed : b.Allowed x) (h : b.IsStranded s) :
    (b.apply x).IsInStep s ∨ (b.apply x).IsStranded s := by
  obtain ⟨hstate, hpower⟩ := h
  unfold IsInStep IsStranded
  cases x with
  | off r state =>
    by_cases hrs : s = r
    · simp [apply, record, Rails.setBus, Rails.setPower, hrs, hallowed.ne_enabled]
    · simp [apply, record, Rails.setBus, Rails.setPower, hrs, hstate, hpower]
  | on r cause =>
    rw [power_apply_on]
    by_cases hrs : s = r
    · simp [apply, record, Rails.setPower, hrs, hallowed.down_of_on]
    · simp [apply, record, Rails.setPower, hrs, hstate, hpower]
  | deny r | strand r =>
    by_cases hrs : s = r
    · simp [apply, record, hrs, hrs ▸ hpower]
    · simp [apply, record, hrs, hstate, hpower]
  | grant r => exact .inr ⟨hstate, hpower⟩
  | release r => exact .inr ⟨hstate, hpower⟩
  -- Only enabled slots are power-cycled, and the slot is not one of them.
  | cut r =>
    cases hallowed with
    | cut _ henabled =>
      have hrs : s ≠ r := fun hrs => by rw [hrs, henabled] at hstate; cases hstate
      simp [apply, Rails.setPower, hrs, hstate, hpower]
  | restore r =>
    cases hallowed with
    | restore _ henabled =>
      have hrs : s ≠ r := fun hrs => by rw [hrs, henabled] at hstate; cases hstate
      simp [apply, Rails.setPower, hrs, hstate, hpower]

/-- Whatever is switched, a slot is in step or stranded. -/
theorem isInStep_or_isStranded_apply (hallowed : b.Allowed x)
    (h : b.IsInStep s ∨ b.IsStranded s) : (b.apply x).IsInStep s ∨ (b.apply x).IsStranded s := by
  rcases h with hin | hstranded
  · by_cases hx : x = .strand s
    · subst hx
      exact .inr (isStranded_strand hallowed hin)
    · exact .inl (isInStep_apply hallowed hx hin)
  · exact isStranded_apply hallowed hstranded

end Switchboard

/-! ## Strandings -/

namespace Coordinator

variable {W : Type} [Board W]

/-- Refusing to switch a slot on records the refusal, and no more. -/
theorem applyDownlink_strand (c : Coordinator) (clock : Clock) {name : String} {s : Slot} {w : W}
    (hname : c.modules.findName? name = some s) (hmetered : s.isMetered = true)
    (henergy : c.remainingLive w s ≤ 0) :
    c.applyDownlink clock (.on name) w
      = (none, c.modify s fun r => { r with state := .disabledEnergy }, w) := by
  have hfound : (c.modules.findName? name).filter (· != Slot.controller) = some s := by
    simp only [Slot.isMetered, Bool.and_eq_true] at hmetered
    rw [hname, Option.filter_some, if_pos hmetered.1]
  have hmay : ¬(decide (c.remainingLive w s > 0) || !s.isMetered) = true := by
    simp [hmetered, henergy]
  rw [applyDownlink, hfound]
  dsimp only
  rw [applyTo]
  exact if_neg hmay

variable [Link W]

/-- A message that carries a command does what the command does. -/
theorem begin_of_command (c : Coordinator) (clock : Clock) (event : Event) (e : Endpoint W)
    {d : DownlinkCommand} (h : event.command? = some d) :
    c.begin clock event e = c.begin clock (.command d) e := by
  cases event with
  | command d' => rw [Option.some.inj h]
  | message m =>
    have hcommand : m.command? = some d := h
    unfold Message.command? at hcommand
    split at hcommand
    · next hnetworking =>
      obtain ⟨hservice, htype⟩ := hnetworking
      cases hparse : TopicMessage.parse m.payload with
      | error code => simp [hparse, Except.toOption] at hcommand
      | ok downlink =>
        have hdownlink : DownlinkCommand.parse? downlink = some d := by
          simpa [hparse, Except.toOption] using hcommand
        simp only [begin, receive, handle, hservice, handleNetworking, htype, hparse, hdownlink]
    · cases hcommand
  | tick | period | check | wake | fix _ => cases h

end Coordinator

namespace Moment

variable {W : Type} [Board W]

/-- The event asks to switch a slot on that is on, but has no energy left. -/
def Strands (m : Moment W) (event : Event) (s : Slot) : Prop :=
  ∃ name, event.command? = some (.on name) ∧ m.coordinator.modules.findName? name = some s
    ∧ s.isMetered = true ∧ m.coordinator.remainingLive m.endpoint.world s ≤ 0
    ∧ (m.coordinator.modules.get s).state = .enabled

/-- A stranding is what an event with such a command admits. -/
theorem strands_of_admits {m : Moment W} {event : Event} {s : Slot}
    (h : m.coordinator.Admits m.endpoint.world event.command? (.strand s)) : m.Strands event s := by
  rcases h with hroutine | ⟨d, hcommand, hd⟩
  · exact hroutine.elim
  · cases hd with
    | strand hname henergy hmetered hstate =>
      exact ⟨_, hcommand, hname, hmetered, henergy, hstate⟩

variable [Link W]

/-- A stranding changes the record of the slot and no more. -/
theorem begin_eq_of_strands {m : Moment W} {event : Event} {s : Slot} (clock : Clock)
    (h : m.Strands event s) :
    m.begin clock event = {
      pause := none
      coordinator := m.coordinator.modify s fun r => { r with state := .disabledEnergy }
      endpoint := m.endpoint } := by
  obtain ⟨name, hcommand, hname, hmetered, henergy, _⟩ := h
  rw [begin, Coordinator.begin_of_command _ _ _ _ hcommand, Coordinator.begin,
    Coordinator.applyDownlink_strand _ clock hname hmetered henergy]

/-- A stranding changes the state of the slot, and leaves the rails alone. -/
theorem begin_of_strands {m : Moment W} {event : Event} {s : Slot} (clock : Clock)
    (h : m.Strands event s) :
    (m.begin clock event).pause = none
      ∧ ((m.begin clock event).coordinator.modules.get s).state = .disabledEnergy
      ∧ (m.begin clock event).endpoint = m.endpoint := by
  rw [begin_eq_of_strands clock h]
  refine ⟨rfl, ?_, rfl⟩
  rw [Coordinator.modify, ModuleTable.get_modify_self]

variable [Wired W]

/-! ## All runs -/

/-- Between events, a slot in step has power exactly while it is enabled. -/
theorem isInStep_iff {m : Moment W} (hidle : m.pause = none) (s : Slot) :
    m.switchboard.IsInStep s ↔
      ((rails m.endpoint.world).power s = true ↔
        (m.coordinator.modules.get s).state = .enabled) := by
  have hdown : m.switchboard.down = none := by
    rw [switchboard, Coordinator.switchboard, hidle]
    rfl
  rw [Switchboard.IsInStep, hdown]
  simp only [ne_eq, reduceCtorEq, not_false_eq_true, and_true]
  rfl

/-- At boot the power of every module is in step. -/
theorem isInStep_boot (settings : Settings) (now : Nat) (node : Dispatcher) (w : W) {s : Slot}
    (hs : s ≠ Slot.controller) : (boot settings now node w).switchboard.IsInStep s := by
  rw [switchboard_boot]
  simp [Switchboard.IsInStep, hs]

/-- At every moment the power of a module is in step, or the module is stranded. -/
theorem isInStep_or_isStranded_of_reaches {settings : Settings} {now : Nat} {node : Dispatcher}
    {w : W} {may : Moment W → Event → Prop} {m : Moment W} {s : Slot} (hs : s ≠ Slot.controller)
    (h : Reaches may (boot settings now node w) m) :
    m.switchboard.IsInStep s ∨ m.switchboard.IsStranded s :=
  invariant_of_reaches (K := fun _ => True) (fun _ _ _ _ _ => trivial) (fun _ _ => trivial)
    (fun _ _ _ hallowed hb => Switchboard.isInStep_or_isStranded_apply hallowed hb)
    (.inl (isInStep_boot settings now node w hs)) h

/-- **Power follows the state.** The power rail of a module is on exactly while its state is
enabled, between the events of all runs, if and only if no event of such a run strands the slot:
asks to switch it on while it is on and has no energy left. Even where one does, an enabled slot
has power, and the only other state in which a slot may have power between events is that of being
without energy. -/
theorem power_follows_state {settings : Settings} {now : Nat} {node : Dispatcher} {w : W}
    (may : Moment W → Event → Prop) {s : Slot} (hs : s ≠ Slot.controller) :
    ((∀ m, Reaches may (boot settings now node w) m → m.pause = none →
        ((rails m.endpoint.world).power s = true ↔ (m.coordinator.modules.get s).state = .enabled))
      ↔ ∀ m event, Reaches may (boot settings now node w) m → m.pause = none → may m event →
        ¬m.Strands event s)
    ∧ ∀ m, Reaches may (boot settings now node w) m → m.pause = none →
      ((m.coordinator.modules.get s).state = .enabled → (rails m.endpoint.world).power s = true)
        ∧ ((rails m.endpoint.world).power s = true →
          (m.coordinator.modules.get s).state = .enabled
            ∨ (m.coordinator.modules.get s).state = .disabledEnergy) := by
  have hboot := isInStep_boot settings now node w hs
  refine ⟨⟨fun hstep m event hm hidle hmay hstrands => ?_, fun hnever m hm hidle => ?_⟩,
    fun m hm hidle => ?_⟩
  · -- One stranding is enough: the slot keeps the power that it has.
    obtain ⟨hidle', hstate', hendpoint⟩ := begin_of_strands ⟨0, 0⟩ hstrands
    obtain ⟨_, _, _, _, _, hstate⟩ := hstrands
    have hm' : Reaches may (boot settings now node w) (m.begin ⟨0, 0⟩ event) :=
      hm.tail (.begin ⟨0, 0⟩ event hidle hmay)
    have hpower := (hstep m hm hidle).mpr hstate
    rw [← hendpoint, hstep _ hm' hidle', hstate'] at hpower
    cases hpower
  · have hm' : Reaches (fun m event => ¬m.Strands event s) (boot settings now node w) m :=
      reaches_mono hm hnever
    rw [← isInStep_iff hidle]
    refine invariant_of_reaches (I := fun b => b.IsInStep s) (K := fun x => x ≠ .strand s) ?_ ?_ ?_
      hboot hm'
    · rintro m' event hevent _ hadmits rfl
      exact hevent (strands_of_admits hadmits)
    · rintro _ hroutine rfl
      exact hroutine
    · exact fun b x hx hallowed hb => Switchboard.isInStep_apply hallowed hx hb
  · have hsound : m.switchboard.IsInStep s ∨ m.switchboard.IsStranded s :=
      invariant_of_reaches (K := fun _ => True) (fun _ _ _ _ _ => trivial) (fun _ _ => trivial)
        (fun _ _ _ hallowed hb => Switchboard.isInStep_or_isStranded_apply hallowed hb)
        (.inl hboot) hm
    rw [isInStep_iff hidle] at hsound
    rcases hsound with hin | ⟨hstate, hpower⟩
    · exact ⟨hin.mpr, fun hpower => .inl (hin.mp hpower)⟩
    · exact ⟨fun _ => hpower, fun _ => .inr hstate⟩

/-- The module on the desk has used more than its budget since the last period. -/
def exhausted : Moment DeskWorld := declared.onBoard (·.setCounter (.module Slot.last) 10000000)

/-- A command to switch the exhausted module on brings its power and its state out of step. -/
theorem exhausted_module_is_stranded :
    ¬∀ m, Reaches (fun _ _ => True) deskBoot m → m.pause = none →
      ((rails m.endpoint.world).power Slot.last = true ↔
        (m.coordinator.modules.get Slot.last).state = .enabled) := by
  intro hstep
  have hmodule : Slot.last ≠ Slot.controller := by decide
  have hnever := (power_follows_state (fun _ _ => True) hmodule).1.mp hstep
  have hexhausted : Reaches (fun _ _ => True) deskBoot exhausted :=
    reaches_declared.tail (.drift ⟨rfl, rfl, rfl⟩)
  have hidle : exhausted.pause = none := by decide +kernel
  have hname : exhausted.coordinator.modules.findName? "m" = some Slot.last := by decide +kernel
  have henergy : exhausted.coordinator.remainingLive exhausted.endpoint.world Slot.last ≤ 0 := by
    decide +kernel
  have hstate : (exhausted.coordinator.modules.get Slot.last).state = .enabled := by
    decide +kernel
  exact hnever exhausted (.command (.on "m")) hexhausted hidle trivial
    ⟨"m", rfl, hname, by decide, henergy, hstate⟩

end Moment

end ModuleBus

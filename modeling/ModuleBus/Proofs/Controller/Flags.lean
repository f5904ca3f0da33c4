import ModuleBus.Proofs.Controller.Keys

set_option autoImplicit false

/-! # What flags a slot

A slot is flagged as having a key by one thing only: a request for a key from the address of its
module that the controller agrees to (`Moment.isKeyed_begin_iff`). Everything else leaves a slot
without a flag as it is (`StaysBare`), and a declaration, a revocation and the end of a power cycle
take the flag away. -/

namespace ModuleBus

/-! ## Flags that are not set -/

namespace ModuleTable

/-- A slot that was not flagged is not flagged now. -/
def StaysBare (t t' : ModuleTable) (s : Slot) : Prop :=
  (t'.get s).hasKey = true → (t.get s).hasKey = true

variable {t t' t'' : ModuleTable} {s : Slot}

theorem StaysBare.refl (t : ModuleTable) (s : Slot) : t.StaysBare t s := id

theorem StaysBare.trans (h : t.StaysBare t' s) (h' : t'.StaysBare t'' s) : t.StaysBare t'' s :=
  fun hkey => h (h' hkey)

theorem StaysBare.of_plates (h : t'.plates = t.plates) : t.StaysBare t' s := fun hkey => by
  have hflag : (t'.get s).hasKey = (t.get s).hasKey := congrArg (·.2.2) (congrFun h s)
  rw [← hflag]
  exact hkey

theorem staysBare_modify (t : ModuleTable) (s r : Slot) (f : ModuleRecord → ModuleRecord)
    (hf : s = r → (f (t.get r)).hasKey = true → (t.get r).hasKey = true) :
    t.StaysBare (t.modify r f) s := by
  unfold StaysBare
  by_cases hrs : s = r
  · rw [hrs, get_modify_self]
    exact hf hrs
  · rw [get_modify_of_ne _ _ hrs]
    exact id

theorem staysBare_assign (t : ModuleTable) (s r : Slot) (a : Address) (name : String) :
    t.StaysBare (t.assign r a name).2 s := by
  have hvacated : t.StaysBare (t.vacateOther r a) s := by
    unfold vacateOther
    split
    · split
      · exact .refl t s
      · exact t.staysBare_modify s _ _ fun _ => nofun
    · exact .refl t s
  exact hvacated.trans ((t.vacateOther r a).staysBare_modify s r _ fun _ => id)

end ModuleTable

namespace Coordinator

/-- A slot without a flag has none in the second state either. -/
def StaysBare (c c' : Coordinator) (s : Slot) : Prop := c.modules.StaysBare c'.modules s

section

variable {W : Type} [Link W] (c : Coordinator) (s : Slot) (m : Message) (e : Endpoint W)

/-- The message is a request for a key, which is agreed on with the module in the slot. -/
def Agrees : Prop :=
  m.service = .initialization ∧ InitializationRequest.ofByte? m.type = some .exchangeKey
    ∧ c.modules.slotOf? m.source = some s ∧ (c.exchangeKey m e).1 = .ok none

theorem staysBare_declare : c.StaysBare (c.declare m e).2.1 s := by
  unfold declare
  split
  · exact .refl _ s
  · next r _ =>
    dsimp only
    exact (c.modules.staysBare_assign s r _ _).trans
      (ModuleTable.staysBare_modify _ s r _ fun _ => nofun)

/-- A request for a key sets no flag but that of its sender, and that only if it succeeds. -/
theorem staysBare_exchangeKey
    (h : c.modules.slotOf? m.source = some s → (c.exchangeKey m e).1 ≠ .ok none) :
    c.StaysBare (c.exchangeKey m e).2.1 s := by
  revert h
  unfold exchangeKey
  split
  · exact fun _ => .refl _ s
  · next r hr =>
    dsimp only
    split
    · exact fun _ => .refl _ s
    · split
      · next hwritten => exact fun _ => congrArg (·.2.1) hwritten ▸ .refl _ s
      · next c' e' hwritten =>
        intro h
        have hsame : c' = c := (congrArg (·.2.1) hwritten).symm
        rw [hsame]
        exact c.modules.staysBare_modify s r _ fun hsr => absurd rfl (h (hsr ▸ hr))

theorem staysBare_handleInitialization (hservice : m.service = .initialization)
    (h : ¬c.Agrees s m e) : c.StaysBare (c.handleInitialization m e).2.1 s := by
  unfold handleInitialization
  split
  · exact .refl _ s
  · exact staysBare_declare c s m e
  · next htype =>
    exact staysBare_exchangeKey c s m e fun hslot hok => h ⟨hservice, htype, hslot, hok⟩
  · exact .refl _ s
  · unfold reply
    dsimp only
    split
    · exact c.modules.staysBare_modify s _ _ fun _ => nofun
    · exact .refl _ s
  · exact .refl _ s

theorem staysBare_handle [Board W] (clock : Clock) (h : ¬c.Agrees s m e) :
    c.StaysBare (c.handle clock m e).2.1 s := by
  by_cases hservice : m.service = .initialization
  · rw [handle, hservice]
    exact staysBare_handleInitialization c s m e hservice h
  · exact .of_plates (plates_handle c clock m e hservice)

end

section

variable {W : Type} [Board W] (c : Coordinator) (s : Slot) (e : Endpoint W)

theorem staysBare_afterTick (event : IsolationEvent) : c.StaysBare (c.afterTick event e).1 s := by
  cases event with
  | powerCycled r => exact c.modules.staysBare_modify s r _ fun _ => nofun
  | _ => exact .refl _ s

theorem staysBare_isolationTick : c.StaysBare (c.isolationTick e).2.1 s := by
  have htick : c.modules.StaysBare (c.isolation.tick c.modules e.world).2.2.1 s :=
    .of_plates (Isolation.plates_tick c.isolation c.modules e.world)
  unfold isolationTick
  dsimp only
  split
  · exact htick.trans (staysBare_afterTick { c with modules := _, isolation := _ } s _ _)
  · exact htick

/-- The slot that was power-cycled is not flagged any more. -/
theorem hasKey_finishTick : ((c.finishTick s e).2.1.modules.get s).hasKey = false := by
  simp only [finishTick, Isolation.finishCycle, afterTick, forgetKey, modify,
    ModuleTable.get_modify_self]

theorem staysBare_resume [Link W] (clock : Clock) (pause : Pause) :
    c.StaysBare (c.resume clock pause e).2.1 s := by
  cases pause with
  | cycling r _ =>
    have hcycle : c.modules.StaysBare (c.isolation.finishCycle c.modules r e.world).2.2.1 s :=
      .of_plates (Isolation.plates_finishCycle c.isolation c.modules e.world r)
    unfold resume finishTick
    dsimp only
    exact hcycle.trans (staysBare_afterTick { c with modules := _, isolation := _ } s _ _)
  | pulsing | resetting | refusing => exact .refl _ s

end

end Coordinator

/-! ## Events -/

namespace Moment

variable {W : Type}

/-- The slot is flagged as having a key. -/
def IsKeyed (m : Moment W) (s : Slot) : Prop := (m.coordinator.modules.get s).hasKey = true

/-- The slot is flagged as having a key, and the dispatcher has one for its address. -/
def HoldsKey (m : Moment W) (s : Slot) : Prop :=
  m.IsKeyed s
    ∧ ∃ a, (m.coordinator.modules.get s).address = some a ∧ m.endpoint.node.hasKey a = true

variable [Link W]

/-- The event is a request for a key that is agreed on with the module in the slot. -/
def Agrees (m : Moment W) (event : Event) (s : Slot) : Prop :=
  ∃ request, event = .message request ∧ m.coordinator.Agrees s request m.endpoint

variable [Board W] {m : Moment W} {clock : Clock} {event : Event} {s : Slot}

/-- No event but an agreement with the module in a slot flags the slot. -/
theorem IsKeyed.of_begin (hagrees : ¬m.Agrees event s) (h : (m.begin clock event).IsKeyed s) :
    m.IsKeyed s := by
  have hbare : m.coordinator.StaysBare (m.begin clock event).coordinator s := by
    unfold begin Coordinator.begin
    cases event with
    | tick =>
      have htick := m.coordinator.staysBare_isolationTick s m.endpoint
      dsimp only
      split
      · next h =>
        rw [h] at htick
        exact htick
      · next h =>
        rw [h] at htick
        exact htick
    | period =>
      dsimp only
      exact .of_plates (Coordinator.plates_energyUpdate m.coordinator clock.now m.endpoint.world)
    | check =>
      dsimp only
      exact .of_plates (Coordinator.plates_checkWatchdogs m.coordinator clock m.endpoint.world)
    | wake =>
      dsimp only
      exact .of_plates (Coordinator.plates_wakeDue m.coordinator clock.now m.endpoint.world)
    | command d =>
      dsimp only
      exact .of_plates (Coordinator.plates_applyDownlink m.coordinator clock d m.endpoint.world)
    | message request =>
      dsimp only
      rw [Coordinator.coordinator_receive]
      exact Coordinator.staysBare_handle m.coordinator s request m.endpoint clock
        fun h => hagrees ⟨request, rfl, h⟩
    | fix _ => exact .refl _ s
  exact hbare h

/-- A slot that is not flagged becomes so by such an agreement, and by nothing else. -/
theorem isKeyed_begin_iff (hbare : ¬m.IsKeyed s) :
    (m.begin clock event).IsKeyed s ↔ m.Agrees event s := by
  refine ⟨fun hkeyed => by_contra fun hagrees => hbare (hkeyed.of_begin hagrees), ?_⟩
  rintro ⟨request, rfl, hservice, htype, hslot, hok⟩
  unfold IsKeyed begin Coordinator.begin
  dsimp only
  rw [Coordinator.coordinator_receive, Coordinator.handle, hservice]
  dsimp only
  rw [Coordinator.handleInitialization, htype]
  dsimp only
  revert hok
  unfold Coordinator.exchangeKey
  rw [hslot]
  dsimp only
  split
  · exact fun hok => by cases hok
  · split
    · exact fun hok => by cases hok
    · intro _
      rw [Coordinator.modify, ModuleTable.get_modify_self]

end Moment

end ModuleBus

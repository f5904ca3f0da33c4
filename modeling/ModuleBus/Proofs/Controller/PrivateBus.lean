import ModuleBus.Proofs.Controller.Run

set_option autoImplicit false

/-! # The bus is private

A module that is granted the bus can talk to the controller without any other module hearing it or
breaking in: its grant line is the only one that is driven, and the bus switches of all others are
open. On the backplane, then, no other module can write a packet, and no packet reaches one. -/

namespace ModuleBus

open Wired (rails)

/-- One slot at most holds the bus, not the controller's, and it holds it alone. -/
structure Switchboard.IsExclusive (b : Switchboard) : Prop where
  grant_iff (s : Slot) : b.rails.grant s = true ↔ b.holder = some s
  holder_ne : b.holder ≠ some Slot.controller
  alone {s : Slot} : b.holder = some s → ∀ r, r ≠ s → r ≠ Slot.controller → b.rails.bus r = false

namespace Switchboard.IsExclusive

variable {b : Switchboard}

/-- While nobody holds the bus, the grant lines are all that matters. -/
theorem of_none (h : b.holder = none) (hgrant : ∀ s, b.rails.grant s = false) : b.IsExclusive where
  grant_iff s := by simp [h, hgrant s]
  holder_ne := by simp [h]
  alone hs := by simp [h] at hs

/-- While somebody holds the bus, switching another slot off or on only opens bus switches. -/
theorem of_le {b' : Switchboard} (h : b.IsExclusive) (hholder : b'.holder = b.holder)
    (hgrant : b'.rails.grant = b.rails.grant)
    (hbus : b.holder.isSome → ∀ s, b'.rails.bus s = true → b.rails.bus s = true) :
    b'.IsExclusive where
  grant_iff s := by rw [hgrant, hholder]; exact h.grant_iff s
  holder_ne := by rw [hholder]; exact h.holder_ne
  alone {s} hs r hr hcontroller := by
    rw [hholder] at hs
    have hopen := h.alone hs r hr hcontroller
    by_contra hclosed
    have hclosed := hbus (by simp [hs]) r (by simpa using hclosed)
    rw [hopen] at hclosed
    exact Bool.false_ne_true hclosed

/-- Every allowed switching leaves the bus private. -/
theorem apply {x : Switching} (hallowed : b.Allowed x) (h : b.IsExclusive) :
    (b.apply x).IsExclusive := by
  cases x with
  | off s state =>
    refine h.of_le rfl rfl fun _ r hr => ?_
    by_cases hrs : r = s
    · simp [Switchboard.apply, Rails.setBus, hrs] at hr
    · simpa [Switchboard.apply, Rails.setBus, Rails.setPower, hrs] using hr
  | on s cause =>
    -- While somebody holds the bus, a slot that is switched on is not connected.
    refine h.of_le rfl ?_ fun hsome r hr => ?_
    · unfold Switchboard.apply
      dsimp only
      split <;> rfl
    · have hnone : b.holder.isNone = false := by simpa using hsome
      simpa [Switchboard.apply, hnone, Rails.setPower] using hr
  | deny s => exact h.of_le rfl rfl fun _ _ hr => hr
  | strand s => exact h.of_le rfl rfl fun _ _ hr => hr
  | cut s => exact h.of_le rfl rfl fun _ _ hr => hr
  | restore s => exact h.of_le rfl rfl fun _ _ hr => hr
  | grant s =>
    cases hallowed with
    | grant _ hnone hcontroller _ =>
      have hlow (r : Slot) : b.rails.grant r = false := by
        rw [Bool.eq_false_iff, ne_eq, h.grant_iff, hnone]
        exact (Option.some_ne_none r).symm
      refine ⟨fun r => ?_, ?_, fun hs r hr hrc => ?_⟩
      · by_cases hrs : r = s
        · simp [Switchboard.apply, Rails.setGrant, hrs]
        · simp [Switchboard.apply, Rails.setGrant, Rails.setBuses, hrs, hlow, Ne.symm hrs]
      · exact fun hc => hcontroller (Option.some.inj hc)
      · cases hs
        simp [Switchboard.apply, Rails.setGrant, Rails.setBuses, hr, hrc]
  | release s =>
    cases hallowed with
    | release _ hholder =>
      refine of_none rfl fun r => ?_
      by_cases hrs : r = s
      · simp [Switchboard.apply, Rails.setGrant, Rails.setBuses, hrs]
      · have hlow : ¬b.rails.grant r = true := by
          rw [h.grant_iff, hholder]
          exact fun hc => hrs (Option.some.inj hc).symm
        simpa [Switchboard.apply, Rails.setGrant, Rails.setBuses, hrs] using hlow

end Switchboard.IsExclusive

/-! ## The backplane -/

namespace Backplane

/-- One module and the controller have the backplane for themselves: another module's packets are
refused, and a packet that gets through goes to the inbox of one of the two. -/
structure IsPrivate (b : Backplane) (s : Slot) : Prop where
  refuses (p : Port) (a : Address) (packet : Bytes) :
    b.slotOf p ≠ s → b.slotOf p ≠ Slot.controller →
      Backplane.write p a packet b = (.error .busDisabled, b)
  delivers {p : Port} {a : Address} {packet : Bytes} {b' : Backplane} :
    Backplane.write p a packet b = (.ok (), b') →
      ∃ q port, b.ports[q]? = some port ∧ (port.slot = s ∨ port.slot = Slot.controller)
        ∧ b' = b.modifyPort q fun port => { port with inbox := port.inbox ++ [packet] }

variable {b : Backplane} {s : Slot}

/-- A packet goes to a connected port only. -/
theorem connected_of_route {a : Address} {q : Port} (h : b.route? a = some q) :
    ∃ port, b.ports[q]? = some port ∧ b.isConnected port.slot = true := by
  obtain ⟨hlt, hfound, _⟩ := List.findIdx?_eq_some_iff_getElem.mp h
  simp only [Bool.and_eq_true] at hfound
  exact ⟨b.ports[q], List.getElem?_eq_getElem hlt, hfound.2⟩

/-- The backplane is private if all other bus switches are open. -/
theorem isPrivate_of_bus (h : ∀ r, r ≠ s → r ≠ Slot.controller → b.bus.get r = false) :
    b.IsPrivate s where
  refuses p a packet hs hcontroller := by
    have hoff : b.isConnected (b.slotOf p) = false := by
      simp [isConnected, h _ hs hcontroller, hcontroller]
    simp [write, hoff]
  delivers {p a packet b'} hwrite := by
    unfold write at hwrite
    split at hwrite
    · cases hwrite
    · split at hwrite
      · cases hwrite
      · split at hwrite
        · cases hwrite
        · next q hroute =>
          split at hwrite
          · cases hwrite
          · cases hwrite
            obtain ⟨port, hport, hconnected⟩ := connected_of_route hroute
            refine ⟨q, port, hport, ?_, rfl⟩
            by_contra hother
            obtain ⟨hs, hcontroller⟩ := not_or.mp hother
            simp [isConnected, h _ hs hcontroller, hcontroller] at hconnected

end Backplane

/-! ## All runs -/

namespace Moment

variable {W : Type} [Board W] [Link W] [Wired W]

/-- **The bus is private.** At every moment of every run, in the middle of an event too, the grant
line of a slot is driven exactly while the slot holds the bus; the controller's slot never does;
and all other modules are off the bus then, so that a backplane with these rails carries packets of
the holder and the controller to the holder and the controller only. -/
theorem bus_is_private {may : Moment W → Event → Prop} {settings : Settings} {now : Nat}
    {node : Dispatcher} {w : W} {m : Moment W} (hlow : ∀ s, (rails w).grant s = false)
    (h : Reaches may (boot settings now node w) m) :
    (∀ s, (rails m.endpoint.world).grant s = true ↔ m.coordinator.isolation.holder = some s)
      ∧ m.coordinator.isolation.holder ≠ some Slot.controller
      ∧ ∀ s, m.coordinator.isolation.holder = some s →
        (∀ r, r ≠ s → r ≠ Slot.controller → (rails m.endpoint.world).bus r = false)
          ∧ ∀ b : Backplane, rails b = rails m.endpoint.world → b.IsPrivate s := by
  have hboot : (boot settings now node w).switchboard.IsExclusive := by
    rw [switchboard_boot]
    exact .of_none rfl hlow
  have hexclusive : m.switchboard.IsExclusive :=
    invariant_of_reaches (K := fun _ => True) (fun _ _ _ _ _ => trivial) (fun _ _ => trivial)
      (fun _ _ _ hallowed hb => hb.apply hallowed) hboot h
  refine ⟨hexclusive.grant_iff, hexclusive.holder_ne, fun s hs => ?_⟩
  have halone : ∀ r, r ≠ s → r ≠ Slot.controller → (rails m.endpoint.world).bus r = false :=
    hexclusive.alone hs
  refine ⟨halone, fun b hb => Backplane.isPrivate_of_bus fun r hr hcontroller => ?_⟩
  have hbus : b.bus.get = (rails m.endpoint.world).bus := congrArg Rails.bus hb
  rw [hbus]
  exact halone r hr hcontroller

/-- A post with the controller at port 0, the storage module at port 1 and another at port 2. -/
def twoModules : Backplane where
  power := PerSlot.constant false
  bus := PerSlot.constant false
  requests := PerSlot.constant false
  grants := PerSlot.constant false
  draw := PerEntity.constant 0.0
  counters := PerEntity.constant 0.0
  battery := 0.0
  capacity := 0.0
  gauge := false
  memory := []
  pulses := 0
  powerOffs := PerSlot.constant 0
  ports := [⟨Slot.controller, .controller, []⟩, ⟨Slot.storage, .storage, []⟩,
    ⟨Slot.last, Slot.last.assignedAddress, []⟩]

/-- The controller of two modules has booted. -/
def bootTwo : Moment Backplane :=
  boot {} 0 (.start 0 .controller {} Coordinator.services 0) twoModules

/-- The storage module asks for the bus. -/
def storageAsks : Moment Backplane :=
  { bootTwo with endpoint := ⟨bootTwo.endpoint.node,
      Lines.setRequest 1 true bootTwo.endpoint.world⟩ }

/-- The storage module is granted the bus, and the other module cannot write to it. -/
theorem other_module_is_refused :
    let m := storageAsks.begin ⟨0, 0⟩ .tick
    (∀ s, (rails twoModules).grant s = false) ∧ Reaches (fun _ _ => True) bootTwo m
      ∧ m.coordinator.isolation.holder = some Slot.storage
      ∧ Backplane.write 2 .controller [] m.endpoint.world
        = (.error .busDisabled, m.endpoint.world) := by
  intro m
  have hlow : ∀ s, (rails twoModules).grant s = false := fun s => PerSlot.get_constant false s
  have hasks : Step (fun _ _ => True) bootTwo storageAsks := .drift ⟨rfl, rfl, rfl⟩
  have hgranted : Step (fun _ _ => True) storageAsks m := .begin ⟨0, 0⟩ .tick rfl trivial
  have hrun : Reaches (fun _ _ => True) bootTwo m := .tail (.single hasks) hgranted
  have hholder : m.coordinator.isolation.holder = some Slot.storage := by decide +kernel
  have hprivate := ((bus_is_private hlow hrun).2.2 Slot.storage hholder).2 m.endpoint.world rfl
  have hslot : m.endpoint.world.slotOf 2 = Slot.last := by decide +kernel
  refine ⟨hlow, hrun, hholder, hprivate.refuses 2 .controller [] ?_ ?_⟩
  · rw [hslot]
    decide
  · rw [hslot]
    decide

end Moment

end ModuleBus

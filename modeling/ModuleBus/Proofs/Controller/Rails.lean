import Mathlib.Logic.Function.Basic
import Mathlib.Order.Fin.Basic
import ModuleBus.Bench.Desk
import ModuleBus.Proofs.Dispatch.Sending
import ModuleBus.Simulation.Backplane

set_option autoImplicit false

/-! # The rails of a board

What a controller drives for each slot: the power rail, the bus switch and the grant line. The
class `Board` only writes them; in a world that is `Wired` they can also be seen, and each
operation of the board does to them what its name says, while a packet on the link leaves them
alone. The simulated backplane and the board on the desk are wired. -/

namespace ModuleBus

/-- The lines that a controller drives, for every slot. -/
structure Rails where
  power : Slot → Bool
  bus : Slot → Bool
  grant : Slot → Bool

namespace Rails

/-- The rails with the power of one slot switched. -/
def setPower (r : Rails) (s : Slot) (on : Bool) : Rails :=
  { r with power := Function.update r.power s on }

/-- The rails with one slot connected to the bus, or taken off. -/
def setBus (r : Rails) (s : Slot) (on : Bool) : Rails :=
  { r with bus := Function.update r.bus s on }

/-- The rails with the grant line of one slot driven. -/
def setGrant (r : Rails) (s : Slot) (on : Bool) : Rails :=
  { r with grant := Function.update r.grant s on }

/-- The rails with the bus switch of every module set. -/
def setBuses (r : Rails) (on : Slot → Bool) : Rails :=
  { r with bus := fun s => if s = Slot.controller then r.bus s else on s }

end Rails

/-- A world in which the rails can be seen. -/
class Wired (W : Type) [Board W] [Link W] where
  rails : W → Rails
  rails_setPower (s : Slot) (on : Bool) (w : W) :
    rails (Board.setPower s on w) = (rails w).setPower s on
  rails_setBus (s : Slot) (on : Bool) (w : W) :
    rails (Board.setBus s on w) = (rails w).setBus s on
  rails_setGrant (s : Slot) (on : Bool) (w : W) :
    rails (Board.setGrant s on w) = (rails w).setGrant s on
  rails_feedWatchdog (w : W) : rails (Board.feedWatchdog w) = rails w
  rails_resetCounters (w : W) : rails (Board.resetCounters w) = rails w
  rails_writeMemory (offset : Nat) (data : Bytes) (w : W) :
    rails (Board.writeMemory offset data w).2 = rails w
  rails_write (p : Port) (a : Address) (packet : Bytes) (w : W) :
    rails (Link.write p a packet w).2 = rails w

open Wired (rails)

attribute [simp] Wired.rails_setPower Wired.rails_setBus Wired.rails_setGrant
  Wired.rails_feedWatchdog Wired.rails_resetCounters Wired.rails_writeMemory Wired.rails_write

/-! ## Worlds that are wired -/

theorem PerSlot.get_set {α : Type} (v : PerSlot α) (s : Slot) (a : α) :
    (v.set s a).get = Function.update v.get s a := by
  funext r
  by_cases h : r = s
  · rw [h, get_set_self, Function.update_self]
  · rw [get_set_of_ne v a h, Function.update_of_ne h]

/-- A packet on the backplane changes an inbox at most. -/
theorem Backplane.write_eq (p : Port) (a : Address) (packet : Bytes) (b : Backplane) :
    ∃ ports, (Backplane.write p a packet b).2 = { b with ports := ports } := by
  unfold Backplane.write
  split
  · exact ⟨b.ports, rfl⟩
  · split
    · exact ⟨b.ports, rfl⟩
    · split
      · exact ⟨b.ports, rfl⟩
      · split
        · exact ⟨b.ports, rfl⟩
        · exact ⟨_, rfl⟩

instance : Wired Backplane where
  rails b := ⟨b.power.get, b.bus.get, b.grants.get⟩
  rails_setPower s on b := congrArg (Rails.mk · _ _) (PerSlot.get_set b.power s on)
  rails_setBus s on b := congrArg (Rails.mk _ · _) (PerSlot.get_set b.bus s on)
  rails_setGrant s on b := congrArg (Rails.mk _ _) (PerSlot.get_set b.grants s on)
  rails_feedWatchdog _ := rfl
  rails_resetCounters _ := rfl
  rails_writeMemory _ _ _ := rfl
  rails_write p a packet b := by
    obtain ⟨ports, h⟩ := Backplane.write_eq p a packet b
    simp only [Link.write, h]

/-- A backplane that draws and stores nothing and on which no line is driven. Either all slots have
power and the bus, or none has. -/
def Backplane.quiet (isOn : Bool) (ports : List PortState) : Backplane where
  power := PerSlot.constant isOn
  bus := PerSlot.constant isOn
  requests := PerSlot.constant false
  grants := PerSlot.constant false
  draw := PerEntity.constant 0.0
  counters := PerEntity.constant 0.0
  battery := 0.0
  capacity := 0.0
  gauge := false
  memory := []
  pulses := 0
  powerOffs := PerSlot.constant 0
  ports := ports

instance : Wired DeskWorld where
  rails w := ⟨w.board.power.get, w.board.bus.get, w.board.grants.get⟩
  rails_setPower s on w := congrArg (Rails.mk · _ _) (PerSlot.get_set w.board.power s on)
  rails_setBus s on w := congrArg (Rails.mk _ · _) (PerSlot.get_set w.board.bus s on)
  rails_setGrant s on w := congrArg (Rails.mk _ _) (PerSlot.get_set w.board.grants s on)
  rails_feedWatchdog _ := rfl
  rails_resetCounters _ := rfl
  rails_writeMemory offset data w := by
    simp only [Board.writeMemory]
    split <;> rfl
  rails_write _ _ _ _ := rfl

/-! ## What the controller's operations do to the rails -/

variable {W : Type} [Board W] [Link W] [Wired W]

theorem mem_moduleSlots (s : Slot) : s ∈ Isolation.moduleSlots ↔ s ≠ Slot.controller := by
  simp [Isolation.moduleSlots, Slot.mem_all]

/-- A switch that is set first and those that are set after it are set together. -/
theorem ite_mem_update (on : Slot → Bool) (slots : List Slot) (r : Slot) (switches : Slot → Bool) :
    (fun s => if s ∈ slots then on s else Function.update switches r (on r) s)
      = fun s => if s ∈ r :: slots then on s else switches s := by
  funext s
  by_cases hs : s ∈ slots
  · simp [hs]
  · by_cases hr : s = r
    · simp [hr]
    · simp [hr, hs]

/-- Setting the bus switches of some slots one after another. -/
theorem rails_foldl_setBus (on : Slot → Bool) (slots : List Slot) (w : W) :
    rails (slots.foldl (fun w s => Board.setBus s (on s) w) w)
      = { rails w with bus := fun s => if s ∈ slots then on s else (rails w).bus s } := by
  induction slots generalizing w with
  | nil => simp
  | cons r rest ih =>
    rw [List.foldl_cons, ih, Wired.rails_setBus]
    simp only [Rails.setBus, ite_mem_update]

/-- Nobody holds the bus: every module is connected as its state says. -/
@[simp] theorem rails_restoreBuses (t : ModuleTable) (w : W) :
    rails (Isolation.restoreBuses t w)
      = (rails w).setBuses fun s => (t.get s).state.isEnabled := by
  rw [Isolation.restoreBuses, rails_foldl_setBus]
  simp only [Rails.setBuses, mem_moduleSlots, ne_eq, ite_not]

/-- One module holds the bus: it alone is connected. -/
@[simp] theorem rails_connectOnly {s : Slot} (h : s ≠ Slot.controller) (w : W) :
    rails (Isolation.connectOnly s w) = (rails w).setBuses (· == s) := by
  rw [Isolation.connectOnly, Wired.rails_setBus, rails_foldl_setBus (fun _ => false)]
  simp only [Rails.setBuses, Rails.setBus, mem_moduleSlots, ne_eq, ite_not, Rails.mk.injEq,
    true_and, and_true]
  funext r
  by_cases hr : r = s
  · rw [hr, Function.update_self, if_neg h, beq_self_eq_true]
  · rw [Function.update_of_ne hr, beq_eq_false_iff_ne.mpr hr]

/-- Switching some slots on and connecting them, one after another. -/
theorem rails_foldl_on (slots : List Slot) (w : W) :
    rails (slots.foldl (fun w s => Board.setBus s true (Board.setPower s true w)) w)
      = { rails w with
          power := fun s => if s ∈ slots then true else (rails w).power s
          bus := fun s => if s ∈ slots then true else (rails w).bus s } := by
  induction slots generalizing w with
  | nil => simp
  | cons r rest ih =>
    rw [List.foldl_cons, ih, Wired.rails_setBus, Wired.rails_setPower]
    simp only [Rails.setBus, Rails.setPower, ite_mem_update fun _ => true]

/-! ## Messages leave the rails alone -/

@[simp] theorem rails_reply (e : Endpoint W) (m : Message) (payload : Bytes) :
    rails (e.reply m payload).2.world = rails e.world :=
  view_sendEnvelope Wired.rails_write e _ _ _

@[simp] theorem rails_errorReply (r : ErrorReply) (clock : Clock) (e : Endpoint W) :
    rails (r.send clock e).2.world = rails e.world :=
  view_errorReply Wired.rails_write r clock e

end ModuleBus

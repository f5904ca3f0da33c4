import ModuleBus.Proofs.Accounts.Totals

set_option autoImplicit false

/-! # Conservation of energy

The accounts hold what the battery holds, up to a constant: whatever an accounting period takes
from the budgets and puts back into them adds up to the change of the battery, transfers move
energy from one budget to another, and resets touch no budget. So the difference between all
budgets together and the battery never changes in a run (`budgets_follow_battery`), and all use
together grows by what the counters read, except where a reset forgets use. -/

namespace ModuleBus

namespace Accounts

/-! ## Billing and charging -/

/-- Billing adds to the use of each entity and leaves budgets and battery alone. -/
theorem bill_totals (a : Accounts) (consumed : Entity → Int) (now : Nat) :
    (a.bill consumed now).totalRemaining = a.totalRemaining
      ∧ (a.bill consumed now).totalUsed = a.totalUsed + total (Entity.all.map consumed)
      ∧ (a.bill consumed now).battery = a.battery := by
  unfold bill
  generalize hstart : ({ a with updated := now } : Accounts) = start
  have hremaining : a.totalRemaining = start.totalRemaining := by rw [← hstart]; rfl
  have hused : a.totalUsed = start.totalUsed := by rw [← hstart]; rfl
  have hbattery : a.battery = start.battery := by rw [← hstart]
  rw [hremaining, hused, hbattery]
  clear hstart hremaining hused hbattery
  induction Entity.all generalizing start with
  | nil => simp
  | cons e rest ih =>
    rw [List.foldl_cons, List.map_cons, total_cons]
    obtain ⟨hr, hu, hb⟩ := ih (start.modify e _)
    refine ⟨hr.trans ?_, hu.trans ?_, hb⟩
    · rw [totalRemaining_eq, totalOf_modify, totalRemaining_eq]
      ring
    · rw [totalUsed_eq, totalOf_modify, totalUsed_eq]
      ring

/-- A sum may leave out what is zero. -/
theorem total_map_filter {α : Type} (p : α → Bool) (f : α → Int) (l : List α)
    (h : ∀ x ∈ l, p x = false → f x = 0) :
    total ((l.filter p).map f) = total (l.map f) := by
  induction l with
  | nil => rfl
  | cons x rest ih =>
    have hrest := ih fun y hy => h y (List.mem_cons_of_mem x hy)
    by_cases hx : p x = true
    · rw [List.filter_cons_of_pos hx, List.map_cons, List.map_cons, total_cons, total_cons, hrest]
    · have hzero : f x = 0 := h x (List.mem_cons_self ..) (Bool.eq_false_iff.mpr hx)
      rw [List.filter_cons_of_neg hx, List.map_cons, total_cons, hrest, hzero, zero_add]

theorem total_map_neg {α : Type} (f : α → Int) (l : List α) :
    total (l.map fun x => -f x) = -total (l.map f) := by
  induction l with
  | nil => rfl
  | cons x rest ih =>
    rw [List.map_cons, List.map_cons, total_cons, total_cons, ih]
    ring

/-- Charging takes from the budgets what was billed. Slots that are not metered have no budget, so
they must not have been billed. -/
theorem enriched_charge (a : Accounts) (consumed : Entity → Int)
    (hbilled : ∀ e, e.isBilled = false → consumed e = 0) :
    Enriched a (a.charge consumed) (-total (Entity.all.map consumed)) := by
  have hown := enriched_credit a .controller (-(consumed .controller + consumed .house))
  have hslots := enriched_foldl_credit (fun s => -consumed (.module s)) Slot.metered
    (a.credit .controller (-(consumed .controller + consumed .house)))
  have hmetered : total (Slot.metered.map fun s => consumed (.module s))
      = total (Slot.all.map fun s => consumed (.module s)) :=
    total_map_filter _ _ _ fun s _ hs => hbilled (.module s) hs
  have hall : total (Entity.all.map consumed) = consumed .controller
      + (consumed .house + total (Slot.all.map fun s => consumed (.module s))) := by
    simp only [Entity.all, List.map_cons, total_cons, List.map_map]
    rfl
  rw [total_map_neg, hmetered] at hslots
  exact (hown.trans hslots).of_eq (by rw [hall]; ring)

/-! ## Periods, transfers and resets -/

/-- The accounts after a surplus, or a shortfall if it is below zero. -/
def settle (a : Accounts) (surplus : Int) : Accounts :=
  if surplus > 0 then a.distribute surplus else a.credit .controller surplus

/-- A surplus is shared out and a shortfall is the controller's, so either way it changes the
budgets by its amount. -/
theorem enriched_settle (a : Accounts) (surplus : Int) : Enriched a (a.settle surplus) surplus := by
  by_cases h : surplus > 0
  · rw [settle, if_pos h]
    exact enriched_distribute surplus a (le_of_lt h)
  · rw [settle, if_neg h]
    exact enriched_credit a .controller surplus

/-- Energy that the billed counters read. -/
def billed (counter : Entity → Nat) (e : Entity) : Int :=
  if e.isBilled then (counter e : Int) else 0

theorem billed_of_not_isBilled (counter : Entity → Nat) (e : Entity) (h : e.isBilled = false) :
    billed counter e = 0 := by
  rw [billed, h]
  rfl

/-- The accounts when a period has taken from them what the counters read and has taken note of
the battery's charge. -/
def charged (a : Accounts) (counter : Entity → Nat) (charge : Int) (now : Nat) : Accounts :=
  { (a.bill (billed counter) now).charge (billed counter) with battery := charge }

theorem totalOf_battery (f : Account → Int) (a : Accounts) (charge : Int) :
    ({ a with battery := charge } : Accounts).totalOf f = a.totalOf f := rfl

theorem charged_totals (a : Accounts) (counter : Entity → Nat) (charge : Int) (now : Nat) :
    (a.charged counter charge now).totalRemaining
        = a.totalRemaining - total (Entity.all.map (billed counter))
      ∧ (a.charged counter charge now).totalUsed
        = a.totalUsed + total (Entity.all.map (billed counter)) := by
  obtain ⟨hbillRemaining, hbillUsed, _⟩ := bill_totals a (billed counter) now
  have hcharge := enriched_charge (a.bill (billed counter) now) (billed counter)
    (billed_of_not_isBilled counter)
  constructor
  · rw [totalRemaining_eq, charged, totalOf_battery, ← totalRemaining_eq, hcharge.remaining,
      hbillRemaining]
    ring
  · rw [totalUsed_eq, charged, totalOf_battery, ← totalUsed_eq, hcharge.used, hbillUsed]

/-- A period charges the accounts and settles the difference to what the battery lost. -/
theorem update_eq (a : Accounts) (counter : Entity → Nat) (charge? : Option Nat) (now : Nat) :
    (a.update counter charge? now).1.consumed = total (Entity.all.map (billed counter))
      ∧ ∃ charge : Int, (a.update counter charge? now).2 = (a.charged counter charge now).settle
        (total (Entity.all.map (billed counter)) - (a.battery - charge)) :=
  ⟨rfl, _, rfl⟩

/-- What an accounting period does to the sums: the budgets follow the battery, and the use grows
by what the period consumed, which is what the billed counters read. -/
theorem update_totals (a : Accounts) (counter : Entity → Nat) (charge? : Option Nat) (now : Nat) :
    (a.update counter charge? now).2.totalRemaining - (a.update counter charge? now).2.battery
        = a.totalRemaining - a.battery
      ∧ (a.update counter charge? now).2.totalUsed
        = a.totalUsed + (a.update counter charge? now).1.consumed
      ∧ (a.update counter charge? now).1.consumed
        = total (Entity.all.map (billed counter)) := by
  obtain ⟨hconsumed, charge, hupdate⟩ := update_eq a counter charge? now
  obtain ⟨hremaining, hused⟩ := charged_totals a counter charge now
  have hsettle := enriched_settle (a.charged counter charge now)
    (total (Entity.all.map (billed counter)) - (a.battery - charge))
  have hbattery : (a.charged counter charge now).battery = charge := rfl
  rw [hupdate, hconsumed, hsettle.remaining, hsettle.used, hsettle.battery, hremaining, hused,
    hbattery]
  exact ⟨by ring, rfl, rfl⟩

/-- A transfer leaves the sums of the budgets and of the use as they are, and the battery too. -/
theorem transfer_totals (a : Accounts) (reporter consumer : Entity) (energy : Nat) :
    (a.transfer reporter consumer energy).2.totalRemaining = a.totalRemaining
      ∧ (a.transfer reporter consumer energy).2.totalUsed = a.totalUsed
      ∧ (a.transfer reporter consumer energy).2.battery = a.battery := by
  by_cases h : energy > a.settings.reportCeiling
  · rw [transfer, if_pos h]
    exact ⟨rfl, rfl, rfl⟩
  · rw [transfer, if_neg h]
    refine ⟨?_, ?_, rfl⟩
    · rw [totalRemaining_eq, totalOf_modify, totalOf_modify, totalRemaining_eq]
      ring
    · rw [totalUsed_eq, totalOf_modify, totalOf_modify, totalUsed_eq]
      ring

theorem totalRemaining_reset (a : Accounts) (e : Entity) (reading now : Nat) :
    (a.reset e reading now).totalRemaining = a.totalRemaining := by
  rw [totalRemaining_eq, reset, totalOf_modify, totalRemaining_eq]
  ring

/-! ## Whole runs -/

/-- What can happen to the accounts after boot, with what is read from the board and told by
modules. -/
inductive AccountsEvent where
  | period (counter : Entity → Nat) (charge? : Option Nat) (now : Nat)
  | transfer (reporter consumer : Entity) (energy : Nat)
  | reset (e : Entity) (reading now : Nat)

/-- The accounts after an event. -/
def after (a : Accounts) : AccountsEvent → Accounts
  | .period counter charge? now => (a.update counter charge? now).2
  | .transfer reporter consumer energy => (a.transfer reporter consumer energy).2
  | .reset e reading now => a.reset e reading now

/-- The step: no event changes the difference between the budgets and the battery. -/
theorem budgets_sub_battery_after (a : Accounts) (event : AccountsEvent) :
    (a.after event).totalRemaining - (a.after event).battery = a.totalRemaining - a.battery := by
  cases event with
  | period counter charge? now => exact (update_totals a counter charge? now).1
  | transfer reporter consumer energy =>
    obtain ⟨hremaining, _, hbattery⟩ := transfer_totals a reporter consumer energy
    rw [after, hremaining, hbattery]
  | reset e reading now => rw [after, totalRemaining_reset]; rfl

/-- The run, by induction on its events. -/
theorem budgets_sub_battery_foldl (events : List AccountsEvent) (a : Accounts) :
    (events.foldl after a).totalRemaining - (events.foldl after a).battery
      = a.totalRemaining - a.battery := by
  induction events generalizing a with
  | nil => rfl
  | cons event rest ih => rw [List.foldl_cons, ih, budgets_sub_battery_after]

/-- **Energy is conserved.** In every run from boot, with or without a ledger and with or without a
gauge, the budgets together differ from the battery by what they differed at boot. Whatever state
a run has reached, a period then adds to the use exactly what it found consumed, that is, what the
billed counters read, and a transfer adds nothing. -/
theorem budgets_follow_battery (settings : EnergySettings) (charge : Option Nat)
    (persisted : Option Ledger) (now : Nat) (events : List AccountsEvent) :
    let start := boot settings charge persisted now
    let reached := events.foldl after start
    reached.totalRemaining - reached.battery = start.totalRemaining - start.battery
      ∧ (∀ (counter : Entity → Nat) (charge? : Option Nat) (later : Nat),
        let (summary, next) := reached.update counter charge? later
        next.totalUsed = reached.totalUsed + summary.consumed
          ∧ summary.consumed = total (Entity.all.map (billed counter)))
      ∧ ∀ (reporter consumer : Entity) (energy : Nat),
        (reached.transfer reporter consumer energy).2.totalUsed = reached.totalUsed := by
  intro start reached
  refine ⟨budgets_sub_battery_foldl events start, ?_, ?_⟩
  · intro counter charge? later
    exact (update_totals reached counter charge? later).2
  · intro reporter consumer energy
    exact (transfer_totals reached reporter consumer energy).2.1

end Accounts

end ModuleBus

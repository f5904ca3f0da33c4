import Mathlib.Algebra.BigOperators.Group.List.Basic
import Mathlib.Tactic.Linarith
import Mathlib.Tactic.Ring
import ModuleBus.Controller.Accounts

set_option autoImplicit false

/-! # What the budgets hold together

Every change of the accounts changes single accounts, one after another, so what it does to all
budgets together is a sum of single changes (`totalOf_modify`). Most changes only put energy into
budgets or take it out: `Enriched a b amount` says that the accounts `b` are the accounts `a` with
`amount` more in the budgets, nothing more used and the battery as it was. Such changes add up
(`Enriched.trans`), and the sharing of a surplus is one of them: what does not fit into the budgets
of some slots goes to others or is handed back (`enriched_pour`), so that in the end all of the
surplus has been given out, and not more (`enriched_distribute`). -/

namespace ModuleBus

namespace Accounts

/-! ## Sums over all accounts -/

/-- A value of each account, summed up. -/
def totalOf (f : Account → Int) (a : Accounts) : Int := total (a.all.toList.map f)

theorem totalRemaining_eq (a : Accounts) : a.totalRemaining = a.totalOf (·.remaining) := rfl

theorem totalUsed_eq (a : Accounts) : a.totalUsed = a.totalOf (·.used) := rfl

theorem total_eq_sum (amounts : List Int) : total amounts = amounts.sum := rfl

@[simp] theorem total_nil : total [] = 0 := rfl

@[simp] theorem total_cons (x : Int) (amounts : List Int) :
    total (x :: amounts) = x + total amounts := rfl

/-- A change of one account changes the sum by what it changes there. -/
theorem totalOf_modify (f : Account → Int) (a : Accounts) (e : Entity) (g : Account → Account) :
    (a.modify e g).totalOf f = a.totalOf f + (f (g (a.get e)) - f (a.get e)) := by
  have hlen : e.index.val < (a.all.toList.map f).length := by
    rw [List.length_map, Vector.length_toList]
    exact e.index.isLt
  have hold : (a.all.toList.map f)[e.index.val] = f (a.get e) := by
    simp [get, PerEntity.get]
  have hset : (a.modify e g).all.toList.map f
      = (a.all.toList.map f).set e.index.val (f (g (a.get e))) := by
    rw [modify, PerEntity.set, Vector.toList_set, List.map_set]
  rw [totalOf, totalOf, hset, total_eq_sum, total_eq_sum, List.sum_set', dif_pos hlen, hold]
  ring

@[simp] theorem battery_modify (a : Accounts) (e : Entity) (g : Account → Account) :
    (a.modify e g).battery = a.battery := rfl

@[simp] theorem settings_modify (a : Accounts) (e : Entity) (g : Account → Account) :
    (a.modify e g).settings = a.settings := rfl

/-! ## Changes that only move budgets -/

/-- The accounts `b` are the accounts `a` with `amount` more in the budgets together. -/
structure Enriched (a b : Accounts) (amount : Int) : Prop where
  remaining : b.totalRemaining = a.totalRemaining + amount
  used : b.totalUsed = a.totalUsed
  battery : b.battery = a.battery

namespace Enriched

variable {a b c : Accounts} {x y : Int}

theorem refl (a : Accounts) : Enriched a a 0 := ⟨by ring, rfl, rfl⟩

theorem trans (hab : Enriched a b x) (hbc : Enriched b c y) : Enriched a c (x + y) where
  remaining := by rw [hbc.remaining, hab.remaining]; ring
  used := hbc.used.trans hab.used
  battery := hbc.battery.trans hab.battery

theorem of_eq (h : Enriched a b x) (hxy : x = y) : Enriched a b y := hxy ▸ h

end Enriched

theorem enriched_credit (a : Accounts) (e : Entity) (amount : Int) :
    Enriched a (a.credit e amount) amount where
  remaining := by
    rw [totalRemaining_eq, credit, totalOf_modify, totalRemaining_eq]
    ring
  used := by
    rw [totalUsed_eq, credit, totalOf_modify, totalUsed_eq]
    ring
  battery := rfl

theorem enriched_foldl_credit (amount : Slot → Int) (slots : List Slot) (a : Accounts) :
    Enriched a (slots.foldl (fun b s => b.credit (.module s) (amount s)) a)
      (total (slots.map amount)) := by
  induction slots generalizing a with
  | nil => exact Enriched.refl a
  | cons s rest ih =>
    rw [List.foldl_cons, List.map_cons, total_cons]
    exact (enriched_credit a (.module s) (amount s)).trans (ih _)

/-! ## Giving the same share to some slots -/

/-- What one slot takes of a share. -/
def taken (a : Accounts) (share : Int) (s : Slot) : Int := min share (max 0 (a.room s))

theorem enriched_fill (share : Int) (slots : List Slot) (a : Accounts) :
    Enriched a (a.fill share slots) (total (slots.map (a.taken share))) :=
  enriched_foldl_credit (a.taken share) slots a

/-- Of the shares of some slots, one part is taken and the other does not fit. -/
theorem taken_add_spill (a : Accounts) (share : Int) (hshare : 0 < share) (slots : List Slot) :
    total (slots.map (a.taken share)) + a.spill share (a.full share slots)
      = share * slots.length := by
  induction slots with
  | nil => simp [spill, full]
  | cons s rest ih =>
    have hsplit : a.spill share (a.full share (s :: rest))
        = (share - a.taken share s) + a.spill share (a.full share rest) := by
      by_cases hroom : a.room s < share
      · have htaken : a.taken share s = max 0 (a.room s) := by rw [taken]; omega
        rw [full, List.filter_cons_of_pos (by simpa using hroom), spill, List.map_cons, total_cons,
          htaken]
        rfl
      · have htaken : a.taken share s = share := by rw [taken]; omega
        rw [full, List.filter_cons_of_neg (by simpa using hroom), htaken]
        simp only [full]
        ring
    rw [List.map_cons, total_cons, hsplit, List.length_cons]
    push_cast
    linarith

theorem spill_nonneg (a : Accounts) (share : Int) (hshare : 0 < share) (slots : List Slot) :
    0 ≤ a.spill share (a.full share slots) := by
  induction slots with
  | nil => simp [spill, full]
  | cons s rest ih =>
    by_cases hroom : a.room s < share
    · rw [full, List.filter_cons_of_pos (by simpa using hroom), spill, List.map_cons, total_cons]
      have hfits : max 0 (a.room s) ≤ share := by omega
      have hrest : 0 ≤ a.spill share (a.full share rest) := ih
      simp only [spill, full] at hrest
      linarith
    · rw [full, List.filter_cons_of_neg (by simpa using hroom)]
      exact ih

/-! ## Rounds -/

/-- Pouring gives out the shares of all slots, but for what it hands back. The induction is on the
rounds; each shares the rest of the one before among fewer slots. -/
theorem enriched_pour (share : Int) (slots : List Slot) (a : Accounts) (hshare : 0 ≤ share) :
    Enriched a (pour share slots a).2 (share * slots.length - (pour share slots a).1) := by
  induction share, slots, a using pour.induct with
  | case1 share slots a hstop =>
    have hzero : share * slots.length = 0 := by
      rcases hstop with hle | hnil
      · rw [le_antisymm hle hshare, zero_mul]
      · rw [hnil]; simp
    rw [pour, if_pos hstop]
    exact (Enriched.refl a).of_eq (by rw [hzero]; rfl)
  | case2 share slots a hgo hfull =>
    have hpos : 0 < share := not_le.mp fun hle => hgo (Or.inl hle)
    have hsplit := taken_add_spill a share hpos slots
    have hspill : a.spill share (a.full share slots) = 0 := by rw [hfull]; rfl
    rw [pour, if_neg hgo, dif_pos hfull]
    exact (enriched_fill share slots a).of_eq (by simp only; linarith)
  | case3 share slots a hgo hfull others hothers =>
    have hpos : 0 < share := not_le.mp fun hle => hgo (Or.inl hle)
    have hsplit := taken_add_spill a share hpos slots
    rw [pour, if_neg hgo, dif_neg hfull, if_pos hothers]
    exact (enriched_fill share slots a).of_eq (by simp only; linarith)
  | case4 share slots a hgo hfull rest others hothers _ _ _ ih =>
    have hpos : 0 < share := not_le.mp fun hle => hgo (Or.inl hle)
    have hsplit := taken_add_spill a share hpos slots
    have hrest : 0 ≤ rest := spill_nonneg a share hpos slots
    have hnext := ih (Int.ediv_nonneg hrest (Int.natCast_nonneg _))
    have hdivide : rest / others.length * others.length + rest % others.length = rest := by
      rw [mul_comm]
      exact Int.mul_ediv_add_emod rest others.length
    rw [pour, if_neg hgo, dif_neg hfull, if_neg hothers]
    exact ((enriched_fill share slots a).trans hnext).of_eq (by simp only; linarith)

/-! ## Sharing out a surplus -/

theorem exactPortion_nonneg {amount : Int} (percent : Nat) (h : 0 ≤ amount) :
    0 ≤ exactPortion amount percent :=
  Int.tdiv_nonneg (Int.mul_nonneg h (Int.natCast_nonneg _)) (by decide)

/-- Sharing out a surplus puts all of it into the budgets, and no more. -/
theorem enriched_distribute (surplus : Int) (a : Accounts) (h : 0 ≤ surplus) :
    Enriched a (a.distribute surplus) surplus := by
  let controllerPart := exactPortion surplus a.settings.controllerShare
  let modulePart := exactPortion surplus a.settings.moduleShare
  let overflow := max 0 (min controllerPart
    ((a.get .controller).remaining + controllerPart - a.controllerCap))
  let share := modulePart + overflow / 6
  have hmodule : 0 ≤ modulePart := exactPortion_nonneg _ h
  have hshare : 0 ≤ share := by omega
  have hown := enriched_credit a .controller (controllerPart - overflow)
  have hpoured := enriched_pour share Slot.metered
    (a.credit .controller (controllerPart - overflow)) hshare
  have hrest := enriched_credit (pour share Slot.metered
    (a.credit .controller (controllerPart - overflow))).2 .controller
    (surplus - controllerPart - modulePart * 6 + overflow % 6
      + (pour share Slot.metered (a.credit .controller (controllerPart - overflow))).1)
  have hcount : (Slot.metered.length : Int) = 6 := by decide
  rw [hcount] at hpoured
  have hdivide : overflow / 6 * 6 + overflow % 6 = overflow := by omega
  exact ((hown.trans hpoured).trans hrest).of_eq (by simp only [share]; linarith)

end Accounts

end ModuleBus

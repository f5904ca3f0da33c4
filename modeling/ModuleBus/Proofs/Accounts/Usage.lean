import ModuleBus.Proofs.Accounts.Charges
import ModuleBus.Proofs.Accounts.Conservation
import ModuleBus.Proofs.Accounts.WaterLevel

set_option autoImplicit false

/-! # Use since a reset

Energy is first read from a counter and then billed: a period adds what the counters read to the
use of each account, and the counters start from zero again. So the use of an account and the
reading of its counter together do not change when a period ends. A reset sets the use to the
negative of the reading, so that they are zero together although the counter goes on. What they are
at any later time is the energy of the time since then (`used_since_reset_is_exact`). -/

namespace ModuleBus

/-- The account `y` is the account `x` with some more use; its time is counted from the same time
on. -/
structure Account.UsesMore (x y : Account) (energy : Int) : Prop where
  used : y.used = x.used + energy
  elapsed : y.elapsed = x.elapsed
  since : y.since = x.since

theorem Account.usesMore_shift (x : Account) (amount : Int) :
    x.UsesMore (x.shift amount) (-amount) :=
  ⟨Int.sub_eq_add_neg, rfl, rfl⟩

namespace Accounts

/-! ## What a period does to an account -/

/-- Some accounts are changed, each in its own way. -/
theorem get_foldl_modify (f : Entity → Account → Account) {entities : List Entity}
    (h : entities.Nodup) (a : Accounts) (x : Entity) :
    (entities.foldl (fun a e => a.modify e (f e)) a).get x
      = if x ∈ entities then f x (a.get x) else a.get x := by
  induction entities generalizing a with
  | nil => rfl
  | cons e rest ih =>
    obtain ⟨he, hrest⟩ := List.nodup_cons.mp h
    rw [List.foldl_cons, ih hrest]
    by_cases hx : x = e
    · subst hx
      rw [if_neg he, if_pos List.mem_cons_self, get_modify_self]
    · simp only [List.mem_cons, hx, false_or, get_modify_of_ne a _ hx]

theorem settings_foldl_modify (f : Entity → Account → Account) (entities : List Entity)
    (a : Accounts) :
    (entities.foldl (fun a e => a.modify e (f e)) a).settings = a.settings := by
  induction entities generalizing a with
  | nil => rfl
  | cons e rest ih => exact ih _

/-- Billing adds to the use of each account. -/
theorem usesMore_bill (a : Accounts) (consumed : Entity → Int) (now : Nat) (e : Entity) :
    (a.get e).UsesMore ((a.bill consumed now).get e) (consumed e) := by
  have hall : e ∈ Entity.all := by
    cases e <;> simp [Entity.all, Slot.mem_all]
  rw [bill, get_foldl_modify _ (by decide), if_pos hall]
  exact ⟨rfl, rfl, rfl⟩

/-- The charge of the battery is no budget. -/
theorem IsCredited.battery {a b : Accounts} {amount : Entity → Int} (h : IsCredited a b amount)
    (charge : Int) : IsCredited a { b with battery := charge } amount :=
  ⟨h.get, h.settings⟩

theorem isCredited_charge (a : Accounts) (consumed : Entity → Int) :
    IsCredited a (a.charge consumed) fun e =>
      (if e = .controller then -(consumed .controller + consumed .house) else 0)
        + among Slot.metered (fun s => -consumed (.module s)) e :=
  (isCredited_credit a .controller _).trans (isCredited_foldl_credit _ (by decide) _)

theorem exists_isCredited_settle (a : Accounts) (surplus : Int) :
    ∃ amount, IsCredited a (a.settle surplus) amount := by
  rw [settle]
  split
  · next h => exact ⟨_, isCredited_distribute a (le_of_lt h)⟩
  · exact ⟨_, isCredited_credit a .controller surplus⟩

/-- What follows billing in a period changes budgets only. -/
theorem exists_isCredited_update (a : Accounts) (counter : Entity → Nat) (charge? : Option Nat)
    (now : Nat) :
    ∃ amount, IsCredited (a.bill (billed counter) now) (a.update counter charge? now).2 amount := by
  obtain ⟨-, charge, hupdate⟩ := update_eq a counter charge? now
  have hcharge := isCredited_charge (a.bill (billed counter) now) (billed counter)
  obtain ⟨amount, hsettle⟩ := exists_isCredited_settle (a.charged counter charge now)
    (total (Entity.all.map (billed counter)) - (a.battery - charge))
  rw [hupdate]
  exact ⟨_, (hcharge.battery charge).trans hsettle⟩

/-- A period adds what the counters read to the use of each account that is billed. -/
theorem usesMore_update (a : Accounts) (counter : Entity → Nat) (charge? : Option Nat) (now : Nat)
    {e : Entity} (he : e.isBilled = true) :
    (a.get e).UsesMore ((a.update counter charge? now).2.get e) (counter e) := by
  obtain ⟨amount, hcredited⟩ := exists_isCredited_update a counter charge? now
  have hbill := usesMore_bill a (billed counter) now e
  rw [billed, if_pos he] at hbill
  rw [hcredited.get e]
  exact ⟨hbill.used, hbill.elapsed, hbill.since⟩

theorem settings_update (a : Accounts) (counter : Entity → Nat) (charge? : Option Nat) (now : Nat) :
    (a.update counter charge? now).2.settings = a.settings := by
  obtain ⟨amount, hcredited⟩ := exists_isCredited_update a counter charge? now
  exact hcredited.settings.trans (settings_foldl_modify _ _ _)

/-- Whole seconds since the reset of an account, in an answer. -/
theorem seconds_information (a : Accounts) (counter : Entity → Nat) {e : Entity} (now : Nat)
    (h : (a.get e).elapsed = 0) : (a.information counter e now).seconds.toNat
      = min ((now - (a.get e).since) / 1000000) (UInt32.size - 1) := by
  have hage : (a.get e).age now / 1000 = (now - (a.get e).since) / 1000000 := by
    rw [Account.age, h, Nat.zero_add, millisBetween, Nat.div_div_eq_div_mul]
  have hfits : min ((now - (a.get e).since) / 1000000) (UInt32.size - 1) < UInt32.size :=
    Nat.lt_of_le_of_lt (Nat.min_le_right _ _) (by decide)
  rw [information, hage]
  exact UInt32.toNat_ofNat_of_lt' hfits

end Accounts

/-! ## Runs -/

/-- What can happen to accounts and counters. -/
inductive MeterEvent where
  /-- An entity uses energy, which its counter counts. -/
  | use (e : Entity) (energy : Nat)
  /-- An accounting period ends. -/
  | period (charge? : Option Nat) (now : Nat)
  | transfer (reporter consumer : Entity) (energy : Nat)
  | reset (e : Entity) (now : Nat)

namespace MeterEvent

/-- Energy that the counter of an entity counts in an event. -/
def drawn (x : Entity) : MeterEvent → Nat
  | use e energy => if e = x then energy else 0
  | _ => 0

/-- Energy that a transfer takes from an entity. -/
def debited (ceiling : Nat) (x : Entity) : MeterEvent → Nat
  | transfer _ consumer energy => if consumer = x ∧ energy ≤ ceiling then energy else 0
  | _ => 0

/-- Energy that a transfer gives to an entity. -/
def credited (ceiling : Nat) (x : Entity) : MeterEvent → Nat
  | transfer reporter _ energy => if reporter = x ∧ energy ≤ ceiling then energy else 0
  | _ => 0

end MeterEvent

/-- The accounts, and the counters that they are billed by. -/
structure Metering where
  accounts : Accounts
  counter : Entity → Nat

namespace Metering

/-- The accounts and the counters after an event. -/
def after (m : Metering) : MeterEvent → Metering
  | .use e energy => { m with counter := Function.update m.counter e (m.counter e + energy) }
  | .period charge? now => ⟨(m.accounts.update m.counter charge? now).2, fun _ => 0⟩
  | .transfer reporter consumer energy =>
    { m with accounts := (m.accounts.transfer reporter consumer energy).2 }
  | .reset e now => { m with accounts := m.accounts.reset e (m.counter e) now }

/-- The use of an entity is counted from a time, and amounts to some energy since then. -/
structure CountsFrom (m : Metering) (e : Entity) (start : Nat) (energy : Int) : Prop where
  balance : (m.accounts.get e).used + m.counter e = energy
  elapsed : (m.accounts.get e).elapsed = 0
  since : (m.accounts.get e).since = start

variable {m : Metering} {e : Entity} {start : Nat} {energy : Int}

theorem settings_after (m : Metering) (event : MeterEvent) :
    (m.after event).accounts.settings = m.accounts.settings := by
  cases event with
  | use => rfl
  | period charge? now => exact Accounts.settings_update _ _ _ _
  | transfer reporter consumer energy => exact Accounts.settings_transfer _ _ _ _
  | reset => rfl

/-- A reset starts to count. -/
theorem countsFrom_reset (m : Metering) (e : Entity) (now : Nat) :
    (m.after (.reset e now)).CountsFrom e now 0 := by
  have hget : (m.accounts.reset e (m.counter e) now).get e = { m.accounts.get e with
      used := -(m.counter e), average := 0, transfers := 0, elapsed := 0, since := now } :=
    Accounts.get_modify_self _ _ _
  constructor
  · change ((m.accounts.reset e (m.counter e) now).get e).used + m.counter e = 0
    rw [hget]
    exact Int.add_left_neg _
  · exact congrArg Account.elapsed hget
  · exact congrArg Account.since hget

/-- The step: but for resets, an event adds to the use what is drawn and what is debited, and takes
from it what is credited. -/
theorem CountsFrom.after (h : m.CountsFrom e start energy) (he : e.isBilled = true)
    (event : MeterEvent) (hreset : ∀ now, event ≠ .reset e now) :
    (m.after event).CountsFrom e start (energy + (event.drawn e
      + event.debited m.accounts.settings.reportCeiling e
      - event.credited m.accounts.settings.reportCeiling e)) := by
  cases event with
  | use d amount =>
    refine ⟨?_, h.elapsed, h.since⟩
    have hbalance := h.balance
    by_cases hd : d = e
    · subst hd
      simp only [Metering.after, Function.update_self, MeterEvent.drawn, MeterEvent.debited,
        MeterEvent.credited, if_true]
      omega
    · simp only [Metering.after, Function.update_of_ne (Ne.symm hd), MeterEvent.drawn,
        MeterEvent.debited, MeterEvent.credited, if_neg hd]
      omega
  | period charge? now =>
    have hmore := m.accounts.usesMore_update m.counter charge? now he
    refine ⟨?_, hmore.elapsed.trans h.elapsed, hmore.since.trans h.since⟩
    have hbalance := h.balance
    simp only [Metering.after, hmore.used, MeterEvent.drawn, MeterEvent.debited,
      MeterEvent.credited]
    omega
  | transfer reporter consumer amount =>
    have hmore := (m.accounts.get e).usesMore_shift
      (m.accounts.movedInto reporter consumer amount e)
    rw [← Accounts.get_transfer] at hmore
    refine ⟨?_, hmore.elapsed.trans h.elapsed, hmore.since.trans h.since⟩
    have hbalance := h.balance
    simp only [Metering.after, hmore.used, Accounts.movedInto, Accounts.accepted, MeterEvent.drawn,
      MeterEvent.debited, MeterEvent.credited]
    by_cases hceiling : amount ≤ m.accounts.settings.reportCeiling
    · simp only [hceiling, Nat.not_lt.mpr hceiling, and_true, if_false]
      split <;> split <;> omega
    · simp only [hceiling, Nat.not_le.mp hceiling, and_false, if_true, ite_self, if_false]
      omega
  | reset d now =>
    have hd : e ≠ d := fun hd => hreset now (hd ▸ rfl)
    have hget : (m.accounts.reset d (m.counter d) now).get e = m.accounts.get e :=
      Accounts.get_modify_of_ne _ _ hd
    simp only [Metering.after, MeterEvent.drawn, MeterEvent.debited, MeterEvent.credited,
      Nat.cast_zero, Int.add_zero, Int.sub_zero]
    exact ⟨hget ▸ h.balance, hget ▸ h.elapsed, hget ▸ h.since⟩

/-- The run, by induction on its events. -/
theorem CountsFrom.foldl (h : m.CountsFrom e start energy) (he : e.isBilled = true)
    (events : List MeterEvent) (hreset : ∀ now, .reset e now ∉ events) :
    (events.foldl Metering.after m).CountsFrom e start (energy + ((events.map (·.drawn e)).sum
      + (events.map (·.debited m.accounts.settings.reportCeiling e)).sum
      - (events.map (·.credited m.accounts.settings.reportCeiling e)).sum : Int)) := by
  induction events generalizing m energy with
  | nil => simpa using h
  | cons event rest ih =>
    have hfirst := h.after he event fun now hevent => hreset now (hevent ▸ List.mem_cons_self)
    have hrest := ih hfirst fun now hmem => hreset now (List.mem_cons_of_mem event hmem)
    rw [settings_after] at hrest
    simp only [List.foldl_cons, List.map_cons, List.sum_cons]
    convert hrest using 1
    push_cast
    ring

theorem settings_foldl (m : Metering) (events : List MeterEvent) :
    (events.foldl after m).accounts.settings = m.accounts.settings := by
  induction events generalizing m with
  | nil => rfl
  | cons event rest ih => rw [List.foldl_cons, ih, settings_after]

/-- **Use since a reset is exact.** In a run of any events, whatever it begins with, an entity that
is billed is reset and then not again. Then its use, as told at the end, is the energy that its
counter has counted since, more by what transfers have taken from it since and less by what they
have given to it, but not below zero. The time told with it are the whole seconds since that reset,
as many as fit in 32 bits. And a period that ends now changes nothing about the use that is told. -/
theorem used_since_reset_is_exact (m : Metering) {e : Entity} (he : e.isBilled = true)
    (before since : List MeterEvent) (start : Nat) (hreset : ∀ now, .reset e now ∉ since) :
    let reached := (before ++ .reset e start :: since).foldl after m
    let ceiling := m.accounts.settings.reportCeiling
    reached.accounts.usedLive reached.counter e = max 0 ((since.map (·.drawn e)).sum
        + (since.map (·.debited ceiling e)).sum - (since.map (·.credited ceiling e)).sum : Int)
      ∧ (∀ now, (reached.accounts.information reached.counter e now).seconds.toNat
        = min ((now - start) / 1000000) (UInt32.size - 1))
      ∧ ∀ charge? now, let next := reached.after (.period charge? now)
        next.accounts.usedLive next.counter e = reached.accounts.usedLive reached.counter e := by
  intro reached ceiling
  have hcounts := ((before.foldl after m).countsFrom_reset e start).foldl he since hreset
  rw [settings_after, settings_foldl, Int.zero_add, ← List.foldl_cons, ← List.foldl_append]
    at hcounts
  refine ⟨?_, fun now => ?_, fun charge? now => ?_⟩
  · rw [Accounts.usedLive, hcounts.balance]
  · rw [reached.accounts.seconds_information reached.counter now hcounts.elapsed, hcounts.since]
  · have hmore := reached.accounts.usesMore_update reached.counter charge? now he
    simp only [Accounts.usedLive, after, hmore.used, Nat.cast_zero, Int.add_zero]

/-- The accounts of a boot with a full battery. -/
def fresh : Metering := ⟨.boot {} (some 10000000) none 0, fun _ => 0⟩

/-- The last module is reset, uses energy before and after a period ends, pays for the controller
and is paid for the house. A report that is too large moves nothing. -/
theorem used_since_reset_of_last :
    let before : List MeterEvent := [.use (.module Slot.last) 700]
    let since : List MeterEvent := [.use (.module Slot.last) 40, .period none 9000000,
      .use (.module Slot.last) 2, .transfer .controller (.module Slot.last) 100,
      .reset .house 9500000, .transfer (.module Slot.last) .house 30,
      .transfer .controller (.module Slot.last) 4000000000]
    let reached := (before ++ .reset (.module Slot.last) 5000000 :: since).foldl after fresh
    reached.accounts.usedLive reached.counter (.module Slot.last) = 112
      ∧ (reached.accounts.information reached.counter (.module Slot.last) 12345678).seconds.toNat
        = 7 := by
  intro before since reached
  obtain ⟨hused, hseconds, -⟩ := used_since_reset_is_exact fresh (e := .module Slot.last)
    (by decide) before since 5000000 (by simp [since])
  exact ⟨hused.trans (by decide +kernel), (hseconds 12345678).trans (by decide)⟩

end Metering
end ModuleBus

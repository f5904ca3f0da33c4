import ModuleBus.Controller.Ledger
import ModuleBus.EnergyMessage
import ModuleBus.Settings.Basic

set_option autoImplicit false

/-! # Energy accounts

The controller keeps a budget for itself and for every metered slot. Each accounting period bills
what the counters measured and compares that with how far the battery really dropped. A surplus
was harvested and is shared out: the controller and every metered slot get their shares up to a
cap, and what does not fit flows on to the slots that still have room, in rounds, the last rest to
the controller. A shortfall is the controller's. All amounts are exact integers in
microwatt-hours, so that the budgets together change by what the battery changes.

Amounts are kept in 64 bits with sign. Sums of readings, which have 32 bits, are far from filling
them. The settings are not: a capacity, or the charge that stands for a battery without a gauge, may
be so large that its product with a share wraps, and so it does here (`portion`). The product of a
surplus with a share is exact, since it takes millions of periods to gather a surplus for which it
would not fit. -/

namespace ModuleBus

/-- The account of one entity. Times are in microseconds. -/
structure Account where
  /-- Budget as of the last period. -/
  remaining : Int
  /-- Use since the last reset, as of the last period. -/
  used : Int
  /-- Milliseconds since the last reset that passed before `since`. -/
  elapsed : Nat
  /-- When the current count of time began. -/
  since : Nat
  /-- Mean power over the last period, in microwatts. -/
  average : Int
  /-- Transfers since the last period, which count for the next mean. -/
  transfers : Int
deriving DecidableEq, Inhabited

/-- Milliseconds from one time to another, none if that is earlier. -/
def millisBetween (start now : Nat) : Nat := (now - start) / 1000

/-- Milliseconds since the last reset of an account. -/
def Account.age (a : Account) (now : Nat) : Nat := a.elapsed + millisBetween a.since now

/-- What one accounting period found. -/
structure PeriodSummary where
  /-- All counters together. -/
  consumed : Int
  /-- How far the battery dropped. -/
  batteryUsed : Int
  /-- What was harvested, or what is missing if below zero. -/
  surplus : Int
deriving DecidableEq, Inhabited

/-- The accounts of all entities. -/
structure Accounts where
  settings : EnergySettings
  all : PerEntity Account
  /-- Charge of the battery as of the last period. -/
  battery : Int
  /-- When the last period ended. -/
  updated : Nat
  /-- The battery has no gauge, so its charge is calculated. -/
  isAssumed : Bool
deriving DecidableEq

namespace Accounts

/-- The account of an entity. -/
def get (a : Accounts) (e : Entity) : Account := a.all.get e

/-- The accounts with that of an entity changed. -/
def modify (a : Accounts) (e : Entity) (f : Account → Account) : Accounts :=
  { a with all := a.all.set e (f (a.get e)) }

@[simp] theorem get_modify_self (a : Accounts) (e : Entity) (f : Account → Account) :
    (a.modify e f).get e = f (a.get e) := by
  simp [modify, get]

theorem get_modify_of_ne (a : Accounts) {e d : Entity} (f : Account → Account) (h : d ≠ e) :
    (a.modify e f).get d = a.get d := by
  exact PerEntity.get_set_of_ne a.all _ h

/-- Adds to the budget of an entity. -/
def credit (a : Accounts) (e : Entity) (amount : Int) : Accounts :=
  a.modify e fun account => { account with remaining := account.remaining + amount }

/-- Some amounts together. -/
def total (amounts : List Int) : Int := amounts.foldr (· + ·) 0

/-- All budgets together. -/
def totalRemaining (a : Accounts) : Int := total (a.all.toList.map (·.remaining))

/-- All use together. -/
def totalUsed (a : Accounts) : Int := total (a.all.toList.map (·.used))

/-- A share of an amount, in percent, rounded towards zero. -/
def exactPortion (amount : Int) (percent : Nat) : Int := (amount * percent).tdiv 100

/-- The first number that 64 bits with sign cannot keep. -/
def limit : Nat := 9223372036854775808

/-- A number as 64 bits with sign keep it. Beyond them it wraps. -/
def wrapped (i : Int) : Int := i.bmod (2 * limit)

/-- A share of an amount, in percent, rounded towards zero, computed in 64 bits with sign. -/
def portion (amount : Int) (percent : Nat) : Int := (wrapped (amount * percent)).tdiv 100

/-- The cap of the controller's budget. -/
def controllerCap (a : Accounts) : Int :=
  portion (wrapped a.settings.batteryCapacity) a.settings.controllerShare

/-- The cap of the budget of each metered slot. -/
def moduleCap (a : Accounts) : Int :=
  portion (wrapped a.settings.batteryCapacity) a.settings.moduleShare

/-! ## Boot -/

/-- The accounts of a boot without a ledger: the battery is split by the shares. -/
def split (a : Accounts) : Accounts :=
  Slot.metered.foldl
    (fun a s => a.modify (.module s) fun account =>
      { account with remaining := portion a.battery a.settings.moduleShare })
    (a.modify .controller fun account =>
      { account with remaining := portion a.battery a.settings.controllerShare })

/-- The accounts with what a ledger kept. -/
def restore (a : Accounts) (l : Ledger) : Accounts :=
  { a with
    all := Vector.ofFn fun i => { a.all[i] with
      remaining := l.remaining[i]
      used := l.used[i]
      elapsed := l.elapsed[i] } }

/-- The accounts at boot. A ledger counts only if the battery has a gauge. -/
def boot (settings : EnergySettings) (charge : Option Nat) (persisted : Option Ledger)
    (now : Nat) : Accounts :=
  let fresh : Accounts := {
    settings := settings
    all := PerEntity.constant ⟨0, 0, 0, now, 0, 0⟩
    battery := match charge with
      | some reading => reading
      | none => wrapped settings.assumedCharge
    updated := now
    isAssumed := charge.isNone }
  match charge, persisted with
  | some _, some ledger => fresh.restore ledger
  | _, _ => fresh.split

/-! ## Sharing out a surplus -/

/-- What is missing in the budget of a slot to its cap. -/
def room (a : Accounts) (s : Slot) : Int := a.moduleCap - (a.get (.module s)).remaining

/-- The slots with room for a whole share. -/
def roomy (a : Accounts) (share : Int) (slots : List Slot) : List Slot :=
  slots.filter fun s => share ≤ a.room s

/-- The slots without room for a whole share. -/
def full (a : Accounts) (share : Int) (slots : List Slot) : List Slot :=
  slots.filter fun s => a.room s < share

/-- Gives the same share to some slots, to each as far as it has room. -/
def fill (a : Accounts) (share : Int) (slots : List Slot) : Accounts :=
  slots.foldl (fun b s => b.credit (.module s) (min share (max 0 (a.room s)))) a

/-- What does not fit of the shares of some slots. -/
def spill (a : Accounts) (share : Int) (slots : List Slot) : Int :=
  total (slots.map fun s => share - max 0 (a.room s))

theorem length_roomy_lt {a : Accounts} {share : Int} {slots : List Slot}
    (h : a.full share slots ≠ []) : (a.roomy share slots).length < slots.length := by
  obtain ⟨s, hs⟩ := List.exists_mem_of_ne_nil _ h
  simp only [full, List.mem_filter, decide_eq_true_eq] at hs
  exact List.length_filter_lt_length_iff_exists.mpr ⟨s, hs.1, by simpa using hs.2⟩

/-- Gives the same share to some slots, to each as far as it has room. The rests are shared among
the slots that had room for the whole share. What is left in the end is given too. -/
def pour (share : Int) (slots : List Slot) (a : Accounts) : Int × Accounts :=
  if share ≤ 0 ∨ slots = [] then (0, a)
  else if _ : a.full share slots = [] then (0, a.fill share slots)
  else
    let rest := a.spill share (a.full share slots)
    let others := a.roomy share slots
    if others = [] then (rest, a.fill share slots)
    else
      let (left, poured) := pour (rest / others.length) others (a.fill share slots)
      (left + rest % others.length, poured)
termination_by slots.length
decreasing_by
  rename_i hfull _
  exact length_roomy_lt hfull

/-- Shares out a surplus. It is what meters and the gauge read in 32 bits, so its shares fit in 64 bits
and are exact. -/
def distribute (surplus : Int) (a : Accounts) : Accounts :=
  let slots := Slot.metered
  let count : Int := slots.length
  let controllerPart := exactPortion surplus a.settings.controllerShare
  let modulePart := exactPortion surplus a.settings.moduleShare
  let excess := (a.get .controller).remaining + controllerPart - a.controllerCap
  let overflow := max 0 (min controllerPart excess)
  let (left, shared) := (a.credit .controller (controllerPart - overflow)).pour
    (modulePart + overflow / count) slots
  shared.credit .controller
    (surplus - controllerPart - modulePart * count + overflow % count + left)

/-! ## Accounting periods -/

/-- Adds what one period consumed to the use of each entity and takes the mean of the period. -/
def bill (a : Accounts) (consumed : Entity → Int) (now : Nat) : Accounts :=
  let period : Int := max 1 (millisBetween a.updated now / 1000 : Nat)
  Entity.all.foldl
    (fun a e => a.modify e fun account => { account with
      average := ((account.transfers + consumed e) * 3600).tdiv period
      transfers := 0
      used := account.used + consumed e })
    { a with updated := now }

/-- Takes what one period consumed from the budgets; the house is the controller's. -/
def charge (a : Accounts) (consumed : Entity → Int) : Accounts :=
  Slot.metered.foldl (fun a s => a.credit (.module s) (-consumed (.module s)))
    (a.credit .controller (-(consumed .controller + consumed .house)))

/-- Ends an accounting period: bills what the counters read and shares out the surplus. -/
def update (a : Accounts) (counter : Entity → Nat) (charge? : Option Nat) (now : Nat) :
    PeriodSummary × Accounts :=
  let consumed (e : Entity) : Int := if e.isBilled then (counter e : Int) else 0
  let used := total (Entity.all.map consumed)
  let battery : Int := match charge? with
    | some charge => if a.isAssumed then a.battery - used else charge
    | none => a.battery - used
  let batteryUsed := a.battery - battery
  let surplus := used - batteryUsed
  let billed := { (a.bill consumed now).charge consumed with battery := battery }
  (⟨used, batteryUsed, surplus⟩,
   if surplus > 0 then billed.distribute surplus else billed.credit .controller surplus)

/-! ## Transfers and resets -/

/-- Moves energy from the budget of `consumer` to that of `reporter`, unless it is more than a
report may hold. -/
def transfer (a : Accounts) (reporter consumer : Entity) (energy : Nat) : Bool × Accounts :=
  if energy > a.settings.reportCeiling then (false, a)
  else
    let move (amount : Int) (account : Account) : Account := { account with
      remaining := account.remaining + amount
      used := account.used - amount
      transfers := account.transfers - amount }
    (true, (a.modify consumer (move (-energy))).modify reporter (move energy))

/-- Counts the use of an entity from zero, given the reading of its counter. -/
def reset (a : Accounts) (e : Entity) (reading : Nat) (now : Nat) : Accounts :=
  a.modify e fun account => { account with
    used := -reading, average := 0, transfers := 0, elapsed := 0, since := now }

/-! ## Live values

Between two periods the counters hold energy that no period has billed yet. -/

/-- Energy that is not billed yet. -/
def unbilled (counter : Entity → Nat) : Entity → Int
  | .controller => counter .controller + counter .house
  | e => counter e

/-- The budget that is left now. -/
def remainingLive (a : Accounts) (counter : Entity → Nat) (e : Entity) : Int :=
  (a.get e).remaining - unbilled counter e

/-- The use since the last reset until now. -/
def usedLive (a : Accounts) (counter : Entity → Nat) (e : Entity) : Int :=
  max 0 ((a.get e).used + counter e)

/-- A number kept within 32 bits. -/
def saturate (i : Int) : UInt32 := UInt32.ofNat (min i.toNat (UInt32.size - 1))

/-- The answer to a budget query. -/
def information (a : Accounts) (counter : Entity → Nat) (e : Entity) (now : Nat) :
    EnergyInformation :=
  let limit := saturate (a.remainingLive counter e)
  { used := saturate (a.usedLive counter e)
    limit := limit
    seconds := saturate ((a.get e).age now / 1000 : Nat)
    warning := limit.toNat < a.settings.warningThreshold
    critical := limit.toNat < a.settings.criticalThreshold }

/-! ## The ledger of the accounts -/

/-- A number kept within 32 bits with sign. -/
def saturateSigned (i : Int) : Int := max Int32.minValue.toInt (min i Int32.maxValue.toInt)

/-- The ledger that keeps the accounts. -/
def snapshot (a : Accounts) (now : Nat) : Ledger where
  remaining := a.all.map fun account => saturateSigned account.remaining
  used := a.all.map fun account => saturateSigned account.used
  elapsed := a.all.map fun account => min (account.age now) (UInt32.size - 1)

end Accounts

end ModuleBus

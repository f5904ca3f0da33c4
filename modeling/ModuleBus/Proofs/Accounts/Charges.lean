import ModuleBus.Controller.Coordinator
import ModuleBus.Proofs.Accounts.Totals

set_option autoImplicit false

/-! # What the entries of a report move

A transfer shifts energy from one account to another, and nothing else about them. The entries of a
report are transfers to the reporter, one after another; none of them changes who has which account
or how much an entry may hold. So each account is shifted by what the entries move into it, all
together (`get_applyReport`). -/

namespace ModuleBus

/-- An account with some energy moved into its budget, or out of it if that is below zero. -/
def Account.shift (a : Account) (amount : Int) : Account :=
  { a with
    remaining := a.remaining + amount
    used := a.used - amount
    transfers := a.transfers - amount }

namespace Account

@[simp] theorem shift_zero (a : Account) : a.shift 0 = a := by
  simp [shift]

theorem shift_shift (a : Account) (x y : Int) : (a.shift x).shift y = a.shift (x + y) := by
  simp only [shift, Account.mk.injEq, true_and]
  omega

theorem shift_eq_self_iff {a : Account} {amount : Int} : a.shift amount = a ↔ amount = 0 := by
  refine ⟨fun h => ?_, fun h => h ▸ a.shift_zero⟩
  have hremaining : a.remaining + amount = a.remaining := congrArg remaining h
  omega

end Account

namespace Accounts

/-- What is moved of some energy: all of it, unless it is more than a report may hold. -/
def accepted (a : Accounts) (energy : Nat) : Int :=
  if energy > a.settings.reportCeiling then 0 else energy

theorem accepted_nonneg (a : Accounts) (energy : Nat) : 0 ≤ a.accepted energy := by
  rw [accepted]
  split
  · exact Int.le_refl 0
  · exact Int.natCast_nonneg energy

theorem accepted_le (a : Accounts) (energy : Nat) : a.accepted energy ≤ energy := by
  rw [accepted]
  split
  · exact Int.natCast_nonneg energy
  · exact Int.le_refl _

theorem accepted_eq_zero_iff {a : Accounts} {energy : Nat} :
    a.accepted energy = 0 ↔ energy = 0 ∨ energy > a.settings.reportCeiling := by
  rw [accepted]
  split <;> omega

theorem get_modify_shift (a : Accounts) (e x : Entity) (amount : Int) :
    (a.modify e (·.shift amount)).get x = (a.get x).shift (if e = x then amount else 0) := by
  by_cases h : e = x
  · rw [h, get_modify_self, if_pos rfl]
  · rw [get_modify_of_ne _ _ (Ne.symm h), if_neg h, Account.shift_zero]

/-- What a transfer moves into the account of an entity. -/
def movedInto (a : Accounts) (reporter consumer : Entity) (energy : Nat) (x : Entity) : Int :=
  (if reporter = x then a.accepted energy else 0) - if consumer = x then a.accepted energy else 0

/-- A transfer takes the energy from the consumer and gives it to the reporter. -/
theorem get_transfer (a : Accounts) (reporter consumer : Entity) (energy : Nat) (x : Entity) :
    (a.transfer reporter consumer energy).2.get x
      = (a.get x).shift (a.movedInto reporter consumer energy x) := by
  unfold transfer movedInto accepted
  split
  · simp
  · change ((a.modify consumer (·.shift (-energy))).modify reporter (·.shift energy)).get x = _
    rw [get_modify_shift, get_modify_shift, Account.shift_shift]
    congr 1
    split <;> split <;> omega

theorem settings_transfer (a : Accounts) (reporter consumer : Entity) (energy : Nat) :
    (a.transfer reporter consumer energy).2.settings = a.settings := by
  unfold transfer
  split <;> rfl

end Accounts

namespace Coordinator

/-- Whose account an entry of a report charges. -/
def consumer? (c : Coordinator) (entry : ReportEntry) : Option Entity :=
  (c.entityOf ⟨UInt8.ofNat entry.application.toNat⟩).toOption.map Prod.snd

/-- What an entry of a report moves into the account of an entity. -/
def moves (c : Coordinator) (reporter : Entity) (entry : ReportEntry) (x : Entity) : Int :=
  match c.consumer? entry with
  | some consumer => c.accounts.movedInto reporter consumer entry.energy.toNat x
  | none => 0

/-- What the entries of a report move into the account of an entity. -/
def moved (c : Coordinator) (reporter : Entity) (entries : List ReportEntry) (x : Entity) : Int :=
  Accounts.total (entries.map fun entry => c.moves reporter entry x)

theorem moved_cons (c : Coordinator) (reporter : Entity) (entry : ReportEntry)
    (entries : List ReportEntry) (x : Entity) :
    c.moved reporter (entry :: entries) x = c.moves reporter entry x + c.moved reporter entries x :=
  rfl

/-- One entry that charges a known participant is a transfer, any other does nothing. -/
theorem applyReport_cons (c : Coordinator) (reporter : Entity) (entry : ReportEntry)
    (entries : List ReportEntry) :
    c.applyReport reporter (entry :: entries) = applyReport
      (match c.consumer? entry with
        | some consumer =>
          { c with accounts := (c.accounts.transfer reporter consumer entry.energy.toNat).2 }
        | none => c) reporter entries := by
  rw [applyReport, List.foldl_cons, consumer?]
  cases c.entityOf ⟨UInt8.ofNat entry.application.toNat⟩ <;> rfl

/-- What entries move does not depend on what the accounts hold. -/
theorem moved_accounts {c : Coordinator} {accounts : Accounts}
    (hsettings : accounts.settings = c.accounts.settings) (reporter : Entity)
    (entries : List ReportEntry) (x : Entity) :
    { c with accounts := accounts }.moved reporter entries x = c.moved reporter entries x := by
  simp only [moved, moves, consumer?, entityOf, Accounts.movedInto, Accounts.accepted, hsettings]

/-- **What a report moves.** Each account is shifted by what all entries together move into it. -/
theorem get_applyReport (c : Coordinator) (reporter : Entity) (entries : List ReportEntry)
    (x : Entity) :
    (c.applyReport reporter entries).accounts.get x
      = (c.accounts.get x).shift (c.moved reporter entries x) := by
  induction entries generalizing c with
  | nil => exact (Account.shift_zero _).symm
  | cons entry rest ih =>
    rw [applyReport_cons, moved_cons, moves]
    cases c.consumer? entry with
    | none => rw [ih, Int.zero_add]
    | some consumer =>
      dsimp only
      rw [ih, moved_accounts (Accounts.settings_transfer _ _ _ _), Accounts.get_transfer,
        Account.shift_shift]

end Coordinator

end ModuleBus

import Mathlib.Algebra.Order.BigOperators.Group.List
import ModuleBus.Proofs.Accounts.Charges
import ModuleBus.Proofs.Controller.KeyTable
import ModuleBus.Simulation.Job

set_option autoImplicit false

/-! # What a report moves

A report says for each publisher what its uplinks cost. The controller reads back the entries that
the radio wrote, the first 255 of them (`decodeReport_encodeReport`), and moves each amount from the
account of the publisher to that of the reporter. So handling one report takes from a publisher at
most what it owed when the report was begun (`debit_handleEnergy_le`), even if a lower ceiling, a
narrow counter or a full report leaves something out. -/

namespace ModuleBus

/-! ## What an address owes -/

namespace Costs

/-- What an address owes. -/
def due (costs : Costs) (a : Address) : Nat :=
  (costs.map fun c => if c.1 = a then c.2 else 0).sum

@[simp] theorem due_nil (a : Address) : due [] a = 0 := rfl

@[simp] theorem due_cons (c : Address × Nat) (costs : Costs) (a : Address) :
    due (c :: costs) a = (if c.1 = a then c.2 else 0) + due costs a := rfl

theorem due_add (b : Address) (energy : Nat) (costs : Costs) (a : Address) :
    (costs.add b energy).due a = costs.due a + if b = a then energy else 0 := by
  induction costs with
  | nil => simp [add]
  | cons c rest ih =>
    rw [add]
    split
    · next heq =>
      subst heq
      simp only [due_cons]
      split <;> omega
    · split
      · simp only [due_cons]
        omega
      · simp only [due_cons, ih]
        omega

/-- Costs that are added one after another are owed together. -/
theorem due_foldl_add (costs owed : Costs) (a : Address) :
    (costs.foldl (fun owed c => owed.add c.1 c.2) owed).due a = owed.due a + costs.due a := by
  induction costs generalizing owed with
  | nil => rfl
  | cons c rest ih =>
    rw [List.foldl_cons, ih, due_add, due_cons, Nat.add_assoc]

end Costs

/-! ## Entries -/

namespace ReportEntry

/-- What the entries of a report say about an address. -/
def due (entries : List ReportEntry) (a : Address) : Nat :=
  (entries.map fun entry =>
    if (⟨UInt8.ofNat entry.application.toNat⟩ : Address) = a then entry.energy.toNat else 0).sum

theorem due_take_le (count : Nat) (entries : List ReportEntry) (a : Address) :
    due (entries.take count) a ≤ due entries a := by
  have hsplit : due entries a = due (entries.take count) a + due (entries.drop count) a := by
    rw [due, due, due, ← List.sum_append, ← List.map_append, List.take_append_drop]
  omega

/-- An entry tells no more than what is owed: its counter may be too narrow. -/
theorem due_entries_le (costs : Costs) (a : Address) : due costs.entries a ≤ costs.due a := by
  induction costs with
  | nil => exact Nat.le_refl 0
  | cons c rest ih =>
    have haddress : (⟨UInt8.ofNat (UInt16.ofNat c.1.value.toNat).toNat⟩ : Address) = c.1 := by
      have hlt : c.1.value.toNat < 256 := c.1.value.toNat_lt
      rw [UInt16.toNat_ofNat_of_lt' (Nat.lt_trans hlt (by decide)), UInt8.ofNat_toNat]
    have henergy : (UInt32.ofNat c.2).toNat ≤ c.2 := by
      rw [UInt32.toNat_ofNat']
      exact Nat.mod_le _ _
    rw [Costs.due_cons]
    change (if (⟨UInt8.ofNat (UInt16.ofNat c.1.value.toNat).toNat⟩ : Address) = a
      then (UInt32.ofNat c.2).toNat else 0) + due (Costs.entries rest) a ≤ _
    rw [haddress]
    split <;> omega

/-- Entries written one after another are read back, as many as are asked for. What follows them is
not read if it is too short for an entry. -/
theorem decodeEntries_append (count : Nat) (all : List ReportEntry) {rest : Bytes}
    (hrest : rest.length < size) :
    decodeEntries count (all.flatMap toBytes ++ rest) = all.take count := by
  induction all generalizing count with
  | nil =>
    rw [List.flatMap_nil, List.nil_append, List.take_nil]
    unfold decodeEntries
    split
    · exact absurd hrest (by simp [size])
    · rfl
  | cons entry all ih =>
    have happlication : UInt16.ofNat (Bytes.toNatLE (Bytes.ofNatLE 2 entry.application.toNat))
        = entry.application := by
      have hlt : entry.application.toNat < 65536 := entry.application.toNat_lt
      rw [Bytes.toNatLE_ofNatLE, Nat.mod_eq_of_lt (by simpa [Bytes.span] using hlt),
        UInt16.ofNat_toNat]
    have henergy : UInt32.ofNat (Bytes.toNatLE (Bytes.ofNatLE 4 entry.energy.toNat))
        = entry.energy := by
      have hlt : entry.energy.toNat < 4294967296 := entry.energy.toNat_lt
      rw [Bytes.toNatLE_ofNatLE, Nat.mod_eq_of_lt (by simpa [Bytes.span] using hlt),
        UInt32.ofNat_toNat]
    simp only [Bytes.ofNatLE] at happlication henergy
    cases count with
    | zero => simp [decodeEntries]
    | succ count =>
      rw [List.flatMap_cons, toBytes, List.take_succ_cons]
      simp only [Bytes.ofNatLE, List.cons_append, List.nil_append, decodeEntries, happlication,
        henergy, ih]

/-- The payload holds these entries: the whole ones in it, up to its count byte. -/
inductive Holds : Bytes → List ReportEntry → Prop
  | empty : Holds [] []
  | counted (count : UInt8) (all : List ReportEntry) {rest : Bytes} : rest.length < size →
      Holds (count :: (all.flatMap toBytes ++ rest)) (all.take count.toNat)

/-- The controller reads the entries that a payload holds. -/
theorem decodeReport_of_holds {payload : Bytes} {entries : List ReportEntry}
    (h : Holds payload entries) : decodeReport payload = entries := by
  cases h with
  | empty => rfl
  | counted count all hrest => exact decodeEntries_append count.toNat all hrest

/-- A report that is sent holds the first 255 of its entries. -/
theorem holds_encodeReport (entries : List ReportEntry) :
    Holds (encodeReport entries) (entries.take 255) := by
  have hcount : (UInt8.ofNat (entries.take 255).length).toNat = (entries.take 255).length := by
    rw [UInt8.toNat_ofNat_of_lt']
    rw [List.length_take]
    exact Nat.lt_of_le_of_lt (Nat.min_le_left _ _) (by decide)
  have hshort : ([] : Bytes).length < size := by decide
  have hholds := Holds.counted (UInt8.ofNat (entries.take 255).length) (entries.take 255) hshort
  rwa [hcount, List.take_length, List.append_nil] at hholds

/-- The controller reads what the radio wrote, up to 255 entries. -/
theorem decodeReport_encodeReport (entries : List ReportEntry) :
    decodeReport (encodeReport entries) = entries.take 255 :=
  decodeReport_of_holds (holds_encodeReport entries)

end ReportEntry

/-! ## The controller's side -/

namespace Coordinator

/-- An account belongs to one address. -/
theorem address_unique {c : Coordinator} {a b : Address} {s r : Slot} {x : Entity}
    (ha : c.entityOf a = .ok (s, x)) (hb : c.entityOf b = .ok (r, x)) : a = b := by
  obtain ⟨hs, hx⟩ := slotOf?_of_entityOf ha
  obtain ⟨hr, hy⟩ := slotOf?_of_entityOf hb
  have hslot : s = r := by
    rw [hx] at hy
    split at hy <;> split at hy <;> simp_all
  subst hslot
  exact Option.some.inj
    ((ModuleTable.address_of_slotOf? hs).symm.trans (ModuleTable.address_of_slotOf? hr))

/-- The account of an address holds so much less after a change, nothing if it is not known. -/
def debit (c c' : Coordinator) (a : Address) : Int :=
  match c.entityOf a with
  | .ok (_, x) => (c.accounts.get x).remaining - (c'.accounts.get x).remaining
  | .error _ => 0

theorem debit_of_accounts {c c' : Coordinator} (h : c'.accounts = c.accounts) (a : Address) :
    c.debit c' a = 0 := by
  rw [debit]
  split
  · rw [h, Int.sub_self]
  · rfl

/-- An entry takes from an account at most what it says about the address of the account. -/
theorem moves_ge {c : Coordinator} {a : Address} {s : Slot} {x : Entity}
    (ha : c.entityOf a = .ok (s, x)) (reporter : Entity) (entry : ReportEntry) :
    -((if (⟨UInt8.ofNat entry.application.toNat⟩ : Address) = a then entry.energy.toNat else 0 :
      Nat) : Int) ≤ c.moves reporter entry x := by
  have hnonneg := c.accounts.accepted_nonneg entry.energy.toNat
  have hle := c.accounts.accepted_le entry.energy.toNat
  unfold moves consumer? Accounts.movedInto
  cases hb : c.entityOf ⟨UInt8.ofNat entry.application.toNat⟩ with
  | error code => exact Int.neg_nonpos_of_nonneg (Int.natCast_nonneg _)
  | ok known =>
    obtain ⟨r, consumer⟩ := known
    simp only [Except.toOption, Option.map_some]
    by_cases hconsumer : consumer = x
    · subst hconsumer
      rw [if_pos rfl, if_pos (address_unique hb ha)]
      split <;> omega
    · rw [if_neg hconsumer]
      split <;> split <;> omega

/-- A report takes from an account at most what its entries say about the address of the account. -/
theorem debit_applyReport_le (c : Coordinator) (reporter : Entity) (entries : List ReportEntry)
    (a : Address) : c.debit (c.applyReport reporter entries) a ≤ ReportEntry.due entries a := by
  rw [debit]
  cases ha : c.entityOf a with
  | error code => exact Int.natCast_nonneg _
  | ok known =>
    obtain ⟨s, x⟩ := known
    have hmoved : -(ReportEntry.due entries a : Int) ≤ c.moved reporter entries x := by
      induction entries with
      | nil => exact Int.le_refl 0
      | cons entry rest ih =>
        have hfirst := moves_ge ha reporter entry
        rw [moved_cons]
        simp only [ReportEntry.due, List.map_cons, List.sum_cons] at ih ⊢
        omega
    simp only [get_applyReport, Account.shift]
    omega

variable {W : Type} [Board W] [Link W]

/-- Handling the report of some costs takes from an account at most what its address owes. -/
theorem debit_receive_le (c : Coordinator) (clock : Clock) (m : Message) (costs : Costs)
    (e : Endpoint W) (hservice : m.service = .energy)
    (htype : m.type = EnergyRequest.report.toByte)
    (hpayload : m.payload = ReportEntry.encodeReport costs.entries) (a : Address) :
    c.debit (c.receive clock m e).2.1 a ≤ costs.due a := by
  have hhandle : c.debit (c.handle clock m e).2.1 a ≤ costs.due a := by
    have hkind : EnergyRequest.ofByte? m.type = some .report := by
      rw [htype]
      rfl
    rw [handle, hservice]
    simp only [handleEnergy, hkind, hpayload, ReportEntry.decodeReport_encodeReport]
    split
    · rw [debit_of_accounts rfl]
      exact Int.natCast_nonneg _
    · next reporter _ =>
      split
      · have hread : ReportEntry.due (costs.entries.take 255) a ≤ costs.due a :=
          Nat.le_trans (ReportEntry.due_take_le 255 _ a) (ReportEntry.due_entries_le costs a)
        exact Int.le_trans (c.debit_applyReport_le reporter (costs.entries.take 255) a)
          (Int.ofNat_le.mpr hread)
      · rw [debit_of_accounts rfl]
        exact Int.natCast_nonneg _
  rw [receive]
  split
  · next heq =>
    rw [heq] at hhandle
    exact hhandle
  · next heq =>
    rw [heq] at hhandle
    split
    · exact hhandle
    · exact hhandle

end Coordinator

end ModuleBus

import ModuleBus.Controller.IndexedTable
import ModuleBus.Proofs.Controller.KeyTable

set_option autoImplicit false

/-! # The index of the module table

The index says the same as the records: it has a slot for an address exactly if the record of that
slot has the address (`IndexedTable.Agrees`). As a look-up gives one slot at most, no two slots have
the same address. One binding keeps this although it edits both sides, because the entry that it
overwrites is that of the slot that it empties, and the entry that it removes is that of the slot
that it binds. While the two agree, a table that searches its records goes through the same
bindings in the same way. -/

namespace ModuleBus

/-- An address and a name that a slot is bound to. -/
structure Binding where
  slot : Slot
  address : Address
  name : String

/-- The table after some bindings, from that of a controller that knows only itself. -/
def ModuleTable.bound (bindings : List Binding) : ModuleTable :=
  bindings.foldl (fun t b => (t.assign b.slot b.address b.name).2) start

namespace IndexedTable

variable {t : IndexedTable} {s r : Slot} {a b : Address}

/-- The table after some bindings, from that of a controller that knows only itself. -/
def bound (bindings : List Binding) : IndexedTable :=
  bindings.foldl (fun t b => (t.assign b.slot b.address b.name).2) start

/-- Index and records say the same. -/
def Agrees (t : IndexedTable) : Prop := ∀ a s, t.slotOf? a = some s ↔ (t.get s).address = some a

/-! ## One binding -/

theorem lookup_insert (index : List (Address × Slot)) (a b : Address) (s : Slot) :
    (insert index a s).lookup b = if b = a then some s else index.lookup b := by
  by_cases h : b = a
  · rw [h, insert, List.lookup_cons_self, if_pos rfl]
  · rw [insert, List.lookup_cons, beq_false_of_ne h, remove, lookup_filter_ne, if_neg h, if_neg h]

theorem get_vacateOther (t : IndexedTable) (s r : Slot) (a : Address) :
    (t.vacateOther s a).get r
      = if t.slotOf? a = some r ∧ r ≠ s then (t.get r).vacate else t.get r := by
  unfold vacateOther
  split
  · next other hother =>
    by_cases hs : other = s
    · rw [if_pos hs, if_neg fun h => h.2 (Option.some.inj (hother.symm.trans h.1) ▸ hs), get]
    · rw [if_neg hs]
      by_cases hr : r = other
      · rw [hr, if_pos ⟨hother, hs⟩, ModuleTable.get_modify_self, get]
      · rw [if_neg fun h => hr (Option.some.inj (h.1.symm.trans hother)),
          ModuleTable.get_modify_of_ne _ _ hr, get]
  · next hnone =>
    rw [if_neg fun h => Option.some_ne_none r (h.1.symm.trans hnone), get]

/-- The slot that is bound is not emptied. -/
theorem get_vacateOther_self (t : IndexedTable) (s : Slot) (a : Address) :
    (t.vacateOther s a).get s = t.get s := by
  rw [get_vacateOther, if_neg fun h => h.2 rfl]

theorem fst_assign (t : IndexedTable) (s : Slot) (a : Address) (name : String) :
    (t.assign s a name).1 = (t.get s).address.filter (· != a) := by
  rw [assign, get_vacateOther_self]

theorem get_assign (t : IndexedTable) (s r : Slot) (a : Address) (name : String) :
    (t.assign s a name).2.get r
      = if r = s then { t.get s with address := some a, name := keptName name }
        else if t.slotOf? a = some r then (t.get r).vacate else t.get r := by
  rw [assign, get]
  by_cases hr : r = s
  · rw [hr, if_pos rfl, ModuleTable.get_modify_self, get_vacateOther_self]
  · rw [if_neg hr, ModuleTable.get_modify_of_ne _ _ hr, get_vacateOther]
    simp [hr]

theorem slotOf?_assign (t : IndexedTable) (s : Slot) (a b : Address) (name : String) :
    (t.assign s a name).2.slotOf? b
      = if b = a then some s
        else if (t.get s).address = some b then none else t.slotOf? b := by
  rw [assign, slotOf?, lookup_insert, get_vacateOther_self]
  by_cases hb : b = a
  · rw [if_pos hb, if_pos hb]
  · rw [if_neg hb, if_neg hb]
    cases hold : (t.get s).address with
    | none => rfl
    | some old =>
      by_cases hsame : old = a
      · -- The slot keeps its address, and nothing is removed.
        have hne : some old ≠ some b := fun h => hb ((Option.some.inj h).symm.trans hsame)
        rw [if_neg hne, Option.filter_some, hsame, bne_self_eq_false, if_neg Bool.false_ne_true]
        rfl
      · rw [Option.filter_some, bne_iff_ne.mpr hsame, if_pos rfl, Option.elim_some, remove,
          lookup_filter_ne]
        exact if_congr (by rw [Option.some.injEq, eq_comm]) rfl rfl

theorem fst_assign_eq_some_iff {name : String} {old : Address} :
    (t.assign s a name).1 = some old ↔ (t.get s).address = some old ∧ old ≠ a := by
  rw [fst_assign, Option.filter_eq_some_iff, bne_iff_ne]

/-! ## Agreement -/

theorem Agrees.slot_unique (h : t.Agrees) (hs : (t.get s).address = some a)
    (hr : (t.get r).address = some a) : s = r :=
  Option.some.inj (((h a s).mpr hs).symm.trans ((h a r).mpr hr))

/-- Searching the records finds the slot that the index has. -/
theorem Agrees.slotOf?_table (h : t.Agrees) (a : Address) : t.table.slotOf? a = t.slotOf? a := by
  cases hsearch : t.table.slotOf? a with
  | none =>
    cases hindex : t.slotOf? a with
    | none => rfl
    | some s => exact absurd ((h a s).mp hindex) (ModuleTable.address_ne_of_slotOf? hsearch s)
  | some s => exact ((h a s).mpr (ModuleTable.address_of_slotOf? hsearch)).symm

theorem Agrees.assign (h : t.Agrees) (s : Slot) (a : Address) (name : String) :
    (t.assign s a name).2.Agrees := by
  intro b r
  rw [slotOf?_assign, get_assign]
  by_cases hr : r = s
  · -- The slot has the new address, and no other one any more.
    subst hr
    rw [if_pos rfl]
    by_cases hb : b = a
    · simp [hb]
    · rw [if_neg hb]
      refine ⟨fun hfound => ?_, fun haddress => absurd (Option.some.inj haddress).symm hb⟩
      split at hfound
      · cases hfound
      · next hold => exact absurd ((h b r).mp hfound) hold
  · rw [if_neg hr]
    by_cases hb : b = a
    · -- The new address was taken away from the other slot, if that had it.
      subst hb
      rw [if_pos rfl, Option.some.injEq]
      refine ⟨fun hs => absurd hs.symm hr, fun haddress => ?_⟩
      split at haddress
      · cases haddress
      · next hother => exact absurd ((h b r).mpr haddress) hother
    · rw [if_neg hb]
      by_cases hother : t.slotOf? a = some r
      · -- The other slot is emptied, and the index had its address only.
        rw [if_pos hother]
        refine ⟨fun hfound => ?_, nofun⟩
        split at hfound
        · cases hfound
        · have ha := (h a r).mp hother
          rw [(h b r).mp hfound] at ha
          exact absurd (Option.some.inj ha) hb
      · rw [if_neg hother, ← h b r]
        by_cases hold : (t.get s).address = some b
        · -- The old address of the slot was that of no other slot.
          rw [if_pos hold]
          refine ⟨nofun, fun hfound => ?_⟩
          exact absurd (h.slot_unique ((h b r).mp hfound) hold) hr
        · rw [if_neg hold]

theorem agrees_start : start.Agrees := by
  refine Agrees.assign (fun a s => ?_) _ _ _
  simp [slotOf?, get, ModuleTable.get]

/-- A table that searches its records is bound in the same way. -/
theorem Agrees.table_assign (h : t.Agrees) (s : Slot) (a : Address) (name : String) :
    (t.assign s a name).2.table = (t.table.assign s a name).2 := by
  unfold IndexedTable.assign ModuleTable.assign ModuleTable.vacateOther
  dsimp only
  rw [h.slotOf?_table]
  rfl

/-! ## All sequences of bindings -/

theorem agrees_foldl (h : t.Agrees) (bindings : List Binding) :
    (bindings.foldl (fun t b => (t.assign b.slot b.address b.name).2) t).Agrees := by
  induction bindings generalizing t with
  | nil => exact h
  | cons b rest ih => exact ih (h.assign b.slot b.address b.name)

theorem table_foldl (h : t.Agrees) (bindings : List Binding) :
    (bindings.foldl (fun t b => (t.assign b.slot b.address b.name).2) t).table
      = bindings.foldl (fun t b => (t.assign b.slot b.address b.name).2) t.table := by
  induction bindings generalizing t with
  | nil => rfl
  | cons b rest ih =>
    rw [List.foldl_cons, List.foldl_cons, ih (h.assign b.slot b.address b.name), h.table_assign]

/-- What one more binding does to a table: the slot gets address and name, a slot that had the
address is emptied, and all others stay. The address that is given back is the one that the slot
had before, if that was another one, and it leads to no slot any more. -/
structure Rebinds (t : IndexedTable) (b : Binding) (previous : Option Address)
    (t' : IndexedTable) : Prop where
  bound : t'.get b.slot = { t.get b.slot with address := some b.address, name := keptName b.name }
  emptied : ∀ r ≠ b.slot, (t.get r).address = some b.address → t'.get r = (t.get r).vacate
  others : ∀ r ≠ b.slot, (t.get r).address ≠ some b.address → t'.get r = t.get r
  previous_eq : ∀ old, previous = some old ↔ (t.get b.slot).address = some old ∧ old ≠ b.address
  released : ∀ old, previous = some old → t'.slotOf? old = none

theorem Agrees.rebinds (h : t.Agrees) (b : Binding) :
    t.Rebinds b (t.assign b.slot b.address b.name).1 (t.assign b.slot b.address b.name).2 where
  bound := by rw [get_assign, if_pos rfl]
  emptied r hr ha := by rw [get_assign, if_neg hr, if_pos ((h _ r).mpr ha)]
  others r hr ha := by rw [get_assign, if_neg hr, if_neg fun hfound => ha ((h _ r).mp hfound)]
  previous_eq _ := fst_assign_eq_some_iff
  released old hold := by
    obtain ⟨hs, hne⟩ := fst_assign_eq_some_iff.mp hold
    rw [slotOf?_assign, if_neg hne, if_pos hs]

/-- **Index and records agree.** After any bindings of slots to addresses and names, among them
addresses that other slots have and the controller's own, the index has a slot for an address
exactly if the record of that slot has the address. So no two slots have the same address; a table
without an index has the same records and finds the same slots; and one more binding does what
`Rebinds` says. -/
theorem index_agrees (bindings : List Binding) :
    (∀ a s, (bound bindings).slotOf? a = some s ↔ ((bound bindings).get s).address = some a)
    ∧ (∀ s r a, ((bound bindings).get s).address = some a →
      ((bound bindings).get r).address = some a → s = r)
    ∧ (bound bindings).table = ModuleTable.bound bindings
    ∧ (∀ a, (ModuleTable.bound bindings).slotOf? a = (bound bindings).slotOf? a)
    ∧ ∀ b : Binding, (bound bindings).Rebinds b
      ((bound bindings).assign b.slot b.address b.name).1 (bound (bindings ++ [b])) := by
  have hagrees : (bound bindings).Agrees := agrees_foldl agrees_start bindings
  have htable : (bound bindings).table = ModuleTable.bound bindings :=
    table_foldl agrees_start bindings
  refine ⟨hagrees, fun _ _ _ => hagrees.slot_unique, htable, fun a => ?_, fun b => ?_⟩
  · rw [← htable, hagrees.slotOf?_table]
  · have happend : bound (bindings ++ [b])
        = ((bound bindings).assign b.slot b.address b.name).2 := by
      rw [bound, List.foldl_append]
      rfl
    rw [happend]
    exact hagrees.rebinds b

end IndexedTable

end ModuleBus

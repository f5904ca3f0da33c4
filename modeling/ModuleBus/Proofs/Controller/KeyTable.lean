import ModuleBus.Controller.ModuleTable
import ModuleBus.Proofs.Dispatch.Keys

set_option autoImplicit false

/-! # The module table knows the keys

The flag in a slot's record says whether a key was agreed with the module in it; the key itself is
held by the dispatcher, under the module's address. The two match at all times: every change of an
address, every key that is agreed and every key that is forgotten changes both in one event. What
makes this work is that no two slots have the same address, so that the key of an address is the
key of one slot only. -/

namespace ModuleBus

namespace ModuleTable

/-- What a record says about the module in its slot: the address, the name, and whether a key was
agreed. -/
def plates (t : ModuleTable) (s : Slot) : Option Address × String × Bool :=
  ((t.get s).address, (t.get s).name, (t.get s).hasKey)

/-- What a slot shows of its module: the address, and whether a key was agreed. -/
def badges (t : ModuleTable) (s : Slot) : Option Address × Bool :=
  ((t.get s).address, (t.get s).hasKey)

/-- A change of a record that leaves its module alone does not show. -/
theorem plates_modify (t : ModuleTable) (s : Slot) (f : ModuleRecord → ModuleRecord)
    (haddress : (f (t.get s)).address = (t.get s).address)
    (hname : (f (t.get s)).name = (t.get s).name)
    (hkey : (f (t.get s)).hasKey = (t.get s).hasKey) : (t.modify s f).plates = t.plates := by
  funext r
  by_cases h : r = s
  · rw [h, plates, get_modify_self, haddress, hname, hkey, plates]
  · rw [plates, get_modify_of_ne _ _ h, plates]

theorem badges_of_plates {t t' : ModuleTable} (h : t'.plates = t.plates) :
    t'.badges = t.badges :=
  funext fun s => congrArg (fun plate => (plate.1, plate.2.2)) (congrFun h s)

theorem address_of_slotOf? {t : ModuleTable} {a : Address} {s : Slot} (h : t.slotOf? a = some s) :
    (t.get s).address = some a := by
  simpa using List.find?_some h

theorem address_ne_of_slotOf? {t : ModuleTable} {a : Address} (h : t.slotOf? a = none) (s : Slot) :
    (t.get s).address ≠ some a := by
  simpa using List.find?_eq_none.mp h s (Slot.mem_all s)

/-! ## Flags and keys that match -/

/-- The flags of the slots and the keys of the dispatcher match. -/
structure KeysMatch (t : ModuleTable) (d : Dispatcher) : Prop where
  /-- An address belongs to one slot. -/
  slot_unique {s r : Slot} {a : Address} :
    (t.get s).address = some a → (t.get r).address = some a → s = r
  hasKey_iff (s : Slot) :
    (t.get s).hasKey = true ↔ ∃ a, (t.get s).address = some a ∧ d.hasKey a = true
  exists_slot {a : Address} : d.hasKey a = true → ∃ s, (t.get s).address = some a

namespace KeysMatch

variable {t t' : ModuleTable} {d d' : Dispatcher} {s : Slot} {a : Address}

/-- Only what the slots show and the keys that are held matter. -/
theorem congr (h : t.KeysMatch d) (hbadges : t'.badges = t.badges)
    (hkeys : ∀ b, d'.hasKey b = d.hasKey b) : t'.KeysMatch d' := by
  have haddress (r : Slot) : (t'.get r).address = (t.get r).address :=
    congrArg Prod.fst (congrFun hbadges r)
  have hflag (r : Slot) : (t'.get r).hasKey = (t.get r).hasKey :=
    congrArg Prod.snd (congrFun hbadges r)
  constructor
  case slot_unique =>
    intro s r a hs hr
    rw [haddress] at hs hr
    exact h.slot_unique hs hr
  case hasKey_iff =>
    intro r
    simp only [hflag, haddress, hkeys]
    exact h.hasKey_iff r
  case exists_slot =>
    intro b hb
    simp only [haddress]
    exact h.exists_slot (hkeys b ▸ hb)

/-- The flag of a slot is set as a key for its address is agreed, or taken as it is forgotten. -/
theorem flag (h : t.KeysMatch d) (hs : (t.get s).address = some a) (on : Bool)
    (hkeys : ∀ b, d'.hasKey b = if b = a then on else d.hasKey b) :
    (t.modify s fun r => { r with hasKey := on }).KeysMatch d' := by
  have haddress (r : Slot) :
      ((t.modify s fun r => { r with hasKey := on }).get r).address = (t.get r).address := by
    by_cases hr : r = s
    · rw [hr, get_modify_self]
    · rw [get_modify_of_ne _ _ hr]
  constructor
  case slot_unique =>
    intro s r a hs hr
    rw [haddress] at hs hr
    exact h.slot_unique hs hr
  case hasKey_iff =>
    intro r
    simp only [haddress, hkeys]
    by_cases hr : r = s
    · rw [hr, get_modify_self, hs]
      simp
    · -- The address is that of one slot, so that no other slot's key is concerned.
      rw [get_modify_of_ne _ _ hr, h.hasKey_iff]
      refine exists_congr fun b => and_congr_right fun hb => ?_
      have hne : b ≠ a := by
        rintro rfl
        exact hr (h.slot_unique hb hs)
      rw [if_neg hne]
  case exists_slot =>
    intro b hb
    simp only [haddress]
    rw [hkeys] at hb
    split at hb
    · next hba => exact ⟨s, hba ▸ hs⟩
    · exact h.exists_slot hb

theorem install (h : t.KeysMatch d) (hs : (t.get s).address = some a) (key : SessionKey) :
    (t.modify s fun r => { r with hasKey := true }).KeysMatch (d.installKey a key) :=
  h.flag hs true (d.hasKey_installKey a · key)

theorem forget (h : t.KeysMatch d) (hs : (t.get s).address = some a) :
    (t.modify s fun r => { r with hasKey := false }).KeysMatch (d.revokeKey a) :=
  h.flag hs false (d.hasKey_revokeKey a)

/-- An address that no slot has, has no key that could be forgotten. -/
theorem revoke_stranger (h : t.KeysMatch d) (ha : ∀ s, (t.get s).address ≠ some a) :
    t.KeysMatch (d.revokeKey a) := by
  have hnone : d.hasKey a = false := by
    refine Bool.eq_false_iff.mpr fun hkey => ?_
    obtain ⟨s, hs⟩ := h.exists_slot hkey
    exact ha s hs
  refine h.congr rfl fun b => ?_
  rw [Dispatcher.hasKey_revokeKey]
  split
  · next hb => rw [hb, hnone]
  · rfl

end KeysMatch

/-! ## Binding an address -/

/-- Where an address belongs to one slot, taking it away empties that slot. -/
theorem get_vacateOther {t : ModuleTable} {s r : Slot} {a : Address}
    (hunique : ∀ {s r : Slot}, (t.get s).address = some a → (t.get r).address = some a → s = r)
    (hr : r ≠ s) :
    (t.vacateOther s a).get r
      = if (t.get r).address = some a then (t.get r).vacate else t.get r := by
  unfold vacateOther
  split
  · next other hother =>
    have hother := address_of_slotOf? hother
    by_cases hra : (t.get r).address = some a
    · obtain rfl : r = other := hunique hra hother
      rw [if_neg hr, if_pos hra, get_modify_self]
    · have hne : r ≠ other := by
        rintro rfl
        exact hra hother
      rw [if_neg hra]
      split
      · rfl
      · rw [get_modify_of_ne _ _ hne]
  · next hnone => rw [if_neg (address_ne_of_slotOf? hnone r)]

/-- A slot is bound to an address, with no key yet, and no other slot has that address any more. -/
def Binds (t t' : ModuleTable) (s : Slot) (a : Address) : Prop :=
  ∀ r, t'.badges r = if r = s then (some a, false)
    else if (t.get r).address = some a then (none, false) else t.badges r

theorem binds_assign {t : ModuleTable} {s : Slot} {a : Address}
    (hunique : ∀ {s r : Slot}, (t.get s).address = some a → (t.get r).address = some a → s = r)
    (name : String) :
    t.Binds ((t.assign s a name).2.modify s fun r => { r with hasKey := false }) s a := by
  intro r
  by_cases hr : r = s
  · rw [hr, if_pos rfl]
    simp [badges, ModuleTable.assign]
  · rw [if_neg hr, badges, get_modify_of_ne _ _ hr, ModuleTable.assign, get_modify_of_ne _ _ hr,
      get_vacateOther hunique hr]
    split <;> rfl

namespace Binds

variable {t t' : ModuleTable} {d d' : Dispatcher} {s r : Slot} {a b : Address}

theorem address_self (h : t.Binds t' s a) : (t'.get s).address = some a := by
  have hself := h s
  rw [if_pos rfl] at hself
  exact congrArg Prod.fst hself

theorem hasKey_self (h : t.Binds t' s a) : (t'.get s).hasKey = false := by
  have hself := h s
  rw [if_pos rfl] at hself
  exact congrArg Prod.snd hself

/-- Another slot keeps its address, unless that is the new one. -/
theorem address_iff (h : t.Binds t' s a) (hr : r ≠ s) :
    (t'.get r).address = some b ↔ b ≠ a ∧ (t.get r).address = some b := by
  have hother := h r
  rw [if_neg hr] at hother
  have haddress : (t'.get r).address = _ := congrArg Prod.fst hother
  rw [haddress]
  split
  · next ha => simp [ha, eq_comm]
  · next ha =>
    refine ⟨fun hb => ⟨?_, hb⟩, And.right⟩
    rintro rfl
    exact ha hb

theorem hasKey_iff (h : t.Binds t' s a) (hr : r ≠ s) :
    (t'.get r).hasKey = true ↔ (t.get r).address ≠ some a ∧ (t.get r).hasKey = true := by
  have hother := h r
  rw [if_neg hr] at hother
  have hflag : (t'.get r).hasKey = _ := congrArg Prod.snd hother
  rw [hflag]
  split
  · next ha => simp [ha]
  · next ha => simp [ha, badges]

/-- The keys for the slot's old address and for the new one are forgotten meanwhile. -/
theorem keysMatch (h : t.Binds t' s a) (hmatch : t.KeysMatch d)
    (hkeys : ∀ b, d'.hasKey b = true ↔ b ≠ a ∧ (t.get s).address ≠ some b ∧ d.hasKey b = true) :
    t'.KeysMatch d' := by
  constructor
  case slot_unique =>
    intro r q b hr hq
    by_cases hrs : r = s
    · by_cases hqs : q = s
      · rw [hrs, hqs]
      · rw [hrs, h.address_self] at hr
        exact absurd (Option.some.inj hr).symm ((h.address_iff hqs).mp hq).1
    · by_cases hqs : q = s
      · rw [hqs, h.address_self] at hq
        exact absurd (Option.some.inj hq).symm ((h.address_iff hrs).mp hr).1
      · exact hmatch.slot_unique ((h.address_iff hrs).mp hr).2 ((h.address_iff hqs).mp hq).2
  case hasKey_iff =>
    intro r
    by_cases hrs : r = s
    · rw [hrs, h.hasKey_self, h.address_self]
      simp [hkeys]
    · rw [h.hasKey_iff hrs, hmatch.hasKey_iff]
      constructor
      · rintro ⟨hne, b, hb, hkey⟩
        have hba : b ≠ a := by
          rintro rfl
          exact hne hb
        have hold : (t.get s).address ≠ some b := fun hs => hrs (hmatch.slot_unique hb hs)
        exact ⟨b, (h.address_iff hrs).mpr ⟨hba, hb⟩, (hkeys b).mpr ⟨hba, hold, hkey⟩⟩
      · rintro ⟨b, hb, hkey⟩
        obtain ⟨hba, hb⟩ := (h.address_iff hrs).mp hb
        refine ⟨fun ha => ?_, b, hb, ((hkeys b).mp hkey).2.2⟩
        exact hba (Option.some.inj (hb.symm.trans ha))
  case exists_slot =>
    intro b hb
    obtain ⟨hba, hs, hkey⟩ := (hkeys b).mp hb
    obtain ⟨r, hr⟩ := hmatch.exists_slot hkey
    have hrs : r ≠ s := by
      rintro rfl
      exact hs hr
    exact ⟨r, (h.address_iff hrs).mpr ⟨hba, hr⟩⟩

end Binds

theorem KeysMatch.assign {t : ModuleTable} {d d' : Dispatcher} {s : Slot} {a : Address}
    (h : t.KeysMatch d) (name : String)
    (hkeys : ∀ b, d'.hasKey b = true ↔ b ≠ a ∧ (t.get s).address ≠ some b ∧ d.hasKey b = true) :
    ((t.assign s a name).2.modify s fun r => { r with hasKey := false }).KeysMatch d' :=
  (binds_assign h.slot_unique name).keysMatch h hkeys

end ModuleTable

end ModuleBus

import ModuleBus.Client
import ModuleBus.Controller.ModuleTable
import ModuleBus.Proofs.Controller.StateRecords

set_option autoImplicit false

/-! # What clients read of the module table

The controller lists the addresses of all slots with one byte for each, which for an empty slot is
0xFF, and the states of the occupied slots with names that it cuts after sixteen bytes. So a client
takes a module at 0xFF for no module (`read_listModules_eq_iff`), and reads other names than the
table holds if these are longer on the wire than they may be (`read_listStates_eq_iff`). -/

namespace ModuleBus

theorem PerSlot.mem_toList_iff {α : Type} {v : PerSlot α} {x : α} :
    x ∈ v.toList ↔ ∃ s, v.get s = x := by
  rw [Vector.mem_toList_iff, Vector.mem_iff_getElem]
  exact ⟨fun ⟨i, hi, hx⟩ => ⟨⟨i, hi⟩, hx⟩, fun ⟨s, hx⟩ => ⟨s.val, s.isLt, hx⟩⟩

/-- A list is mapped to itself if all in it are. -/
theorem map_eq_self_iff {α : Type} {f : α → α} {l : List α} :
    l.map f = l ↔ ∀ x ∈ l, f x = x := by
  have hsame := List.map_inj_left (l := l) (f := f) (g := id)
  rwa [List.map_id] at hsame

/-! ## Addresses -/

/-- What a client reads for a slot. -/
def listedAddress (address : Option Address) : Option Address :=
  address.filter (·.value != emptySlot)

theorem listedAddress_eq_self_iff {address : Option Address} :
    listedAddress address = address ↔ address ≠ some ⟨emptySlot⟩ := by
  cases address with
  | none => exact iff_of_true rfl nofun
  | some a =>
    obtain ⟨b⟩ := a
    simp [listedAddress, Option.filter_eq_some_iff]

theorem decodeAddresses?_encodeAddresses (addresses : PerSlot (Option Address)) :
    decodeAddresses? (encodeAddresses addresses) = some (addresses.toList.map listedAddress) := by
  have hlength : (encodeAddresses addresses).length = slotCount := by
    rw [encodeAddresses, List.length_map, Vector.length_toList]
  rw [decodeAddresses?, hlength, if_neg (Nat.lt_irrefl _),
    List.take_of_length_le (Nat.le_of_eq hlength), encodeAddresses, List.map_map]
  congr 2
  funext address
  cases address with
  | none => rfl
  | some a =>
    simp only [Function.comp_apply, Option.map_some, Option.getD_some, listedAddress,
      Option.filter_some]
    by_cases ha : a.value = emptySlot
    · simp [ha]
    · simp [ha]

/-! ## States -/

namespace SlotState

/-- What a client reads for a slot: the name is cut. -/
def listed (s : SlotState) : SlotState :=
  { s with name := Utf8.textLossy ((Utf8.ofText s.name).take maxWireName) }

/-- A client reads a name as it is: it is short enough, or nothing but its last character is cut,
which is the one that stands for what is cut. -/
def ReadsBack (name : String) : Prop :=
  (Utf8.ofText name).length ≤ maxWireName
    ∨ ∃ before, name.toList = before ++ [Utf8.replacement]
      ∧ (Utf8.encode before).length < maxWireName

theorem listed_eq_self_iff {s : SlotState} : s.listed = s ↔ ReadsBack s.name := by
  rw [ReadsBack, ← Utf8.textLossy_take_eq_iff]
  refine ⟨fun h => congrArg name h, fun h => ?_⟩
  rw [listed, h]

end SlotState

/-! ## Tables -/

namespace ModuleTable

variable {t : ModuleTable}

theorem mem_slotStates_iff {state : SlotState} : state ∈ t.slotStates ↔
    ∃ s a, (t.get s).address = some a ∧ state = ⟨a, (t.get s).hasKey, (t.get s).name⟩ := by
  rw [slotStates, List.mem_filterMap]
  constructor
  · rintro ⟨r, hr, hstate⟩
    obtain ⟨s, rfl⟩ := PerSlot.mem_toList_iff.mp hr
    obtain ⟨a, ha, rfl⟩ := Option.map_eq_some_iff.mp hstate
    exact ⟨s, a, ha, rfl⟩
  · rintro ⟨s, a, ha, rfl⟩
    exact ⟨t.get s, PerSlot.mem_toList_iff.mpr ⟨s, rfl⟩, Option.map_eq_some_iff.mpr ⟨a, ha, rfl⟩⟩

/-- Clients read the addresses of all slots, unless a module is at the one that stands for none. -/
theorem read_listModules_eq_iff (t : ModuleTable) :
    Client.listModules.read (encodeAddresses t.addresses) = .ok t.addresses.toList ↔
      ∀ s, (t.get s).address ≠ some ⟨emptySlot⟩ := by
  have hread : Client.listModules.read (encodeAddresses t.addresses)
      = .ok (t.addresses.toList.map listedAddress) := by
    simp only [Client.listModules, Client.toTable, decodeAddresses?_encodeAddresses]
    rfl
  have hget (s : Slot) : t.addresses.get s = (t.get s).address := by
    simp [addresses, PerSlot.get, get]
  rw [hread, Except.ok.injEq, map_eq_self_iff]
  simp only [PerSlot.mem_toList_iff, forall_exists_index, forall_apply_eq_imp_iff,
    listedAddress_eq_self_iff, hget]

/-- Clients read the states of the occupied slots, unless a name gets another one on the wire. -/
theorem read_listStates_eq_iff (t : ModuleTable) :
    Client.listStates.read (SlotState.encodeList t.slotStates) = .ok t.slotStates ↔
      ∀ s a, (t.get s).address = some a → SlotState.ReadsBack (t.get s).name := by
  have hread : Client.listStates.read (SlotState.encodeList t.slotStates)
      = .ok (t.slotStates.map SlotState.listed) := by
    simp only [Client.listStates, Client.toTable, SlotState.decodeList_encodeList,
      SlotState.state_record]
    rfl
  rw [hread, Except.ok.injEq, map_eq_self_iff]
  simp only [SlotState.listed_eq_self_iff, mem_slotStates_iff]
  constructor
  · intro h s a ha
    exact h _ ⟨s, a, ha, rfl⟩
  · rintro h _ ⟨s, a, ha, rfl⟩
    exact h s a ha

end ModuleTable
end ModuleBus

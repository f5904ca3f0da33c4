import Mathlib.Data.List.Pairwise
import ModuleBus.Scene.Basic

set_option autoImplicit false

/-! # Scenes that pass the check

A check passes if none of its conditions fails. For the modules of a scene, each of which is checked
against those before it, this means that each fits by itself and that no two of them share a slot
or a name (`modulesProblem?_eq_none_iff`). What the names mean to the controller is not asked. -/

namespace ModuleBus

theorem firstProblem_eq_none_iff {checks : List (Bool × SceneProblem)} :
    firstProblem checks = none ↔ ∀ c ∈ checks, c.1 = true := by
  rw [firstProblem, Option.map_eq_none_iff, List.find?_eq_none]
  simp

namespace ModuleDescription

/-- Two modules are in different slots and have different names. -/
def Differs (m o : ModuleDescription) : Prop := m.slot ≠ o.slot ∧ m.name ≠ o.name

instance : Std.Symm Differs := ⟨fun _ _ h => ⟨h.1.symm, h.2.symm⟩⟩

/-- What is asked of a module by itself. -/
structure Fits (m : ModuleDescription) : Prop where
  slot_lt : m.slot < slotCount
  slot_ne : m.slot ≠ Slot.controller.val
  name_nonempty : 1 ≤ (Utf8.ofText m.name).length
  name_short : (Utf8.ofText m.name).length ≤ maxModuleName
  draw : ¬m.draw < 0.0
  storage : m.kind = .storage → m.slot = Slot.storage.val
  uplink : within 0.0 1.0 m.uplinkSuccess = true
  interval : m.kind = .sensor → m.publishInterval ≠ 0

theorem problem?_eq_none_iff {m : ModuleDescription} {before : List ModuleDescription} :
    m.problem? before = none ↔ m.Fits ∧ ∀ o ∈ before, o.Differs m := by
  unfold problem?
  simp only [firstProblem_eq_none_iff, List.forall_mem_cons, List.not_mem_nil, false_imp_iff,
    implies_true, and_true, List.all_eq_true, bne_iff_ne, beq_iff_eq, Bool.and_eq_true,
    Bool.or_eq_true, decide_eq_true_eq, Bool.not_eq_true', decide_eq_false_iff_not]
  constructor
  · rintro ⟨hlt, hne, hslots, ⟨hnonempty, hshort⟩, hnames, hdraw, hstorage, huplink, hinterval⟩
    exact ⟨⟨hlt, hne, hnonempty, hshort, hdraw, hstorage.neg_resolve_left, huplink,
      hinterval.neg_resolve_left⟩, fun o ho => ⟨hslots o ho, hnames o ho⟩⟩
  · rintro ⟨h, hdiffers⟩
    exact ⟨h.slot_lt, h.slot_ne, fun o ho => (hdiffers o ho).1, ⟨h.name_nonempty, h.name_short⟩,
      fun o ho => (hdiffers o ho).2, h.draw, Decidable.imp_iff_not_or.mp h.storage, h.uplink,
      Decidable.imp_iff_not_or.mp h.interval⟩

end ModuleDescription

/-- Some modules pass if each fits by itself and no two share a slot or a name. -/
theorem modulesProblem?_eq_none_iff {before rest : List ModuleDescription} :
    modulesProblem? before rest = none ↔ (∀ m ∈ rest, m.Fits)
      ∧ (∀ o ∈ before, ∀ m ∈ rest, o.Differs m) ∧ rest.Pairwise ModuleDescription.Differs := by
  induction rest generalizing before with
  | nil => simp [modulesProblem?]
  | cons m rest ih =>
    have hstep : modulesProblem? before (m :: rest) = none ↔
        m.problem? before = none ∧ modulesProblem? (before ++ [m]) rest = none := by
      rw [modulesProblem?]
      cases m.problem? before <;> simp
    rw [hstep, ih, ModuleDescription.problem?_eq_none_iff, List.pairwise_cons]
    simp only [List.forall_mem_cons, List.forall_mem_append, List.not_mem_nil, false_imp_iff,
      implies_true, and_true]
    constructor
    · rintro ⟨⟨hfits, hbefore⟩, hrest, ⟨hothers, hhead⟩, hpairs⟩
      exact ⟨⟨hfits, hrest⟩, fun o ho => ⟨hbefore o ho, hothers o ho⟩, hhead, hpairs⟩
    · rintro ⟨⟨hfits, hrest⟩, hothers, hhead, hpairs⟩
      exact ⟨⟨hfits, fun o ho => (hothers o ho).1⟩, hrest, ⟨fun o ho => (hothers o ho).2, hhead⟩,
        hpairs⟩

namespace Scene

/-- The modules of a scene that passes. -/
theorem modules_of_check {scene : Scene} (h : scene.check = .ok ()) :
    (∀ m ∈ scene.modules, m.Fits) ∧ scene.modules.Pairwise ModuleDescription.Differs := by
  have hnone : scene.problem? = none := by
    unfold check at h
    split at h
    · cases h
    · assumption
  unfold problem? at hnone
  simp only [Option.orElse_eq_orElse, Option.orElse_eq_or, Option.or_eq_none_iff] at hnone
  obtain ⟨hfits, -, hpairs⟩ := modulesProblem?_eq_none_iff.mp hnone.2.1
  exact ⟨hfits, hpairs⟩

/-- A slot belongs to one module of a scene that passes, and so does a name. -/
theorem eq_of_not_differs {scene : Scene} (h : scene.check = .ok ()) {m o : ModuleDescription}
    (hm : m ∈ scene.modules) (ho : o ∈ scene.modules) (hsame : m.slot = o.slot ∨ m.name = o.name) :
    m = o := by
  by_contra hne
  have hdiffers := (modules_of_check h).2.forall hm ho hne
  exact hsame.elim hdiffers.1 hdiffers.2

end Scene

end ModuleBus

import Mathlib.Algebra.Order.BigOperators.Group.List
import ModuleBus.Proofs.Accounts.Totals

set_option autoImplicit false

/-! # The level to which a surplus fills the budgets

Sharing out a surplus works like pouring water into vessels of different depth. Every round gives
each slot that took part in the round before with its whole share the same share again, or as much
of it as fits, so a slot drops out in the round in which it reaches its cap, and all that have not
dropped out have been given the same: the sum of the shares of all rounds, which is the level. That
the credit of a slot is the smaller of its room and the level is what a round adds to
(`Accounts.taken_add`).

The controller has its part as far as its own cap allows. Beyond that it is given what nobody else
takes. As long as a slot stays below its cap, that is only what is left by divisions; when all are
full, it is all the rest. -/

namespace ModuleBus

namespace Accounts

/-! ## Credits, entity by entity -/

/-- The accounts `b` are the accounts `a` with an amount more in the budget of each entity. -/
structure IsCredited (a b : Accounts) (amount : Entity → Int) : Prop where
  get : ∀ e, b.get e = { a.get e with remaining := (a.get e).remaining + amount e }
  settings : b.settings = a.settings

namespace IsCredited

variable {a b c : Accounts} {x y : Entity → Int}

theorem remaining (h : IsCredited a b x) (e : Entity) :
    (b.get e).remaining = (a.get e).remaining + x e := by rw [h.get]

theorem refl (a : Accounts) : IsCredited a a fun _ => 0 := ⟨fun e => by simp, rfl⟩

theorem trans (hab : IsCredited a b x) (hbc : IsCredited b c y) :
    IsCredited a c fun e => x e + y e where
  get e := by rw [hbc.get, hab.get]; simp only [add_assoc]
  settings := hbc.settings.trans hab.settings

theorem of_eq (h : IsCredited a b x) (hxy : ∀ e, x e = y e) : IsCredited a b y := by
  rwa [← funext hxy]

end IsCredited

theorem isCredited_credit (a : Accounts) (e : Entity) (amount : Int) :
    IsCredited a (a.credit e amount) fun d => if d = e then amount else 0 where
  get d := by
    by_cases hd : d = e
    · rw [hd, credit, get_modify_self, if_pos rfl]
    · rw [credit, get_modify_of_ne a _ hd, if_neg hd, add_zero]
  settings := rfl

/-- An amount for each of some slots. -/
def among (slots : List Slot) (amount : Slot → Int) : Entity → Int
  | .module s => if s ∈ slots then amount s else 0
  | _ => 0

theorem isCredited_foldl_credit (amount : Slot → Int) {slots : List Slot} (hslots : slots.Nodup)
    (a : Accounts) :
    IsCredited a (slots.foldl (fun b s => b.credit (.module s) (amount s)) a)
      (among slots amount) := by
  induction slots generalizing a with
  | nil => exact (IsCredited.refl a).of_eq fun e => by cases e <;> rfl
  | cons s rest ih =>
    obtain ⟨hs, hrest⟩ := List.nodup_cons.mp hslots
    rw [List.foldl_cons]
    refine ((isCredited_credit a (.module s) (amount s)).trans (ih hrest _)).of_eq fun e => ?_
    cases e with
    | module r =>
      by_cases hr : r = s
      · simp [among, hr, hs]
      · simp [among, hr]
    | _ => simp [among]

theorem isCredited_fill (share : Int) {slots : List Slot} (hslots : slots.Nodup) (a : Accounts) :
    IsCredited a (a.fill share slots) (among slots (a.taken share)) :=
  isCredited_foldl_credit (a.taken share) hslots a

/-- What is missing to the cap is what was missing before, less what was credited. -/
theorem room_of_isCredited {a b : Accounts} {x : Entity → Int} (h : IsCredited a b x) (s : Slot) :
    b.room s = a.room s - x (.module s) := by
  rw [room, room, h.remaining, moduleCap, moduleCap, h.settings]
  ring

/-! ## Rounds -/

/-- A round after the first: what the round before could not give, and to how many slots it goes
now. -/
structure Resplit where
  rest : Int
  count : Nat
deriving DecidableEq

namespace Resplit

/-- What each slot is offered. -/
def share (r : Resplit) : Int := r.rest / r.count

/-- What does not divide, which goes to the controller. -/
def remainder (r : Resplit) : Int := r.rest % r.count

theorem share_nonneg {rest : Int} (h : 0 ≤ rest) (count : Nat) :
    0 ≤ (⟨rest, count⟩ : Resplit).share :=
  Int.ediv_nonneg h (Int.natCast_nonneg _)

end Resplit

open Resplit

/-- The rounds after the first in which a share is poured into some slots. -/
def resplits (share : Int) (slots : List Slot) (a : Accounts) : List Resplit :=
  if share ≤ 0 ∨ slots = [] then []
  else if _ : a.full share slots = [] then []
  else
    let others := a.roomy share slots
    if others = [] then []
    else
      let round : Resplit := ⟨a.spill share (a.full share slots), others.length⟩
      round :: resplits round.share others (a.fill share slots)
termination_by slots.length
decreasing_by
  rename_i hfull _
  exact length_roomy_lt hfull

/-- Offered to a slot in a first round with some share and in the rounds after it. -/
def levelOf (share : Int) (rounds : List Resplit) : Int := share + total (rounds.map (·.share))

@[simp] theorem levelOf_nil (share : Int) : levelOf share [] = share := add_zero share

theorem levelOf_cons (share : Int) (round : Resplit) (rounds : List Resplit) :
    levelOf share (round :: rounds) = share + levelOf round.share rounds := rfl

/-- How a share is poured into some slots: by which rounds, with what left in the end and with
which accounts. -/
inductive Pours : Int → List Slot → Accounts → List Resplit → Int → Accounts → Prop where
  /-- There is nothing to give or nobody to give it to. -/
  | nothing {share : Int} {slots : List Slot} (a : Accounts) (hshare : share = 0 ∨ slots = []) :
      Pours share slots a [] 0 a
  /-- Every slot has room for the share. -/
  | fits {share : Int} {slots : List Slot} (a : Accounts) (hshare : 0 < share)
      (hroom : ∀ s ∈ slots, share ≤ a.room s) : Pours share slots a [] 0 (a.fill share slots)
  /-- No slot has room for the share. -/
  | brims {share : Int} {slots : List Slot} (a : Accounts) (hshare : 0 < share)
      (hroom : ∀ s ∈ slots, a.room s < share) {rest : Int} (hrest : 0 ≤ rest) :
      Pours share slots a [] rest (a.fill share slots)
  /-- The slots that had room share what the others had no room for. -/
  | resplits {share : Int} {slots : List Slot} (a : Accounts) (hshare : 0 < share)
      (hfewer : (a.roomy share slots).length < slots.length) (hothers : a.roomy share slots ≠ [])
      {rest : Int} (hrest : 0 ≤ rest) {round : Resplit}
      (hround : round = ⟨rest, (a.roomy share slots).length⟩) {rounds : List Resplit} {left : Int}
      {b : Accounts}
      (hpours : Pours round.share (a.roomy share slots) (a.fill share slots) rounds left b) :
      Pours share slots a (round :: rounds) (left + round.remainder) b

/-- The rounds of pouring; each shares the rest of the one before among fewer slots. -/
theorem pours_pour (share : Int) (slots : List Slot) (a : Accounts) (hshare : 0 ≤ share) :
    Pours share slots a (resplits share slots a) (pour share slots a).1 (pour share slots a).2 := by
  induction share, slots, a using pour.induct with
  | case1 share slots a hstop =>
    rw [pour, resplits, if_pos hstop, if_pos hstop]
    exact .nothing a (hstop.imp_left fun hle => le_antisymm hle hshare)
  | case2 share slots a hgo hfull =>
    have hpos : 0 < share := not_le.mp fun hle => hgo (Or.inl hle)
    rw [pour, resplits, if_neg hgo, if_neg hgo, dif_pos hfull, dif_pos hfull]
    refine .fits a hpos fun s hs => not_lt.mp fun hlt => ?_
    have hmem : s ∈ a.full share slots := List.mem_filter.mpr ⟨hs, by simpa using hlt⟩
    rw [hfull] at hmem
    cases hmem
  | case3 share slots a hgo hfull others hothers =>
    have hpos : 0 < share := not_le.mp fun hle => hgo (Or.inl hle)
    rw [pour, resplits, if_neg hgo, if_neg hgo, dif_neg hfull, dif_neg hfull, if_pos hothers,
      if_pos hothers]
    refine .brims a hpos (fun s hs => not_le.mp fun hle => ?_) (spill_nonneg a share hpos slots)
    have hmem : s ∈ others := List.mem_filter.mpr ⟨hs, by simpa using hle⟩
    rw [hothers] at hmem
    cases hmem
  | case4 share slots a hgo hfull rest others hothers _ _ _ ih =>
    have hpos : 0 < share := not_le.mp fun hle => hgo (Or.inl hle)
    have hrest : 0 ≤ rest := spill_nonneg a share hpos slots
    rw [pour, resplits, if_neg hgo, if_neg hgo, dif_neg hfull, dif_neg hfull, if_neg hothers,
      if_neg hothers]
    exact .resplits a hpos (length_roomy_lt hfull) hothers hrest rfl
      (ih (Int.ediv_nonneg hrest (Int.natCast_nonneg _)))

namespace Pours

variable {share left : Int} {slots : List Slot} {a b : Accounts} {rounds : List Resplit}

/-- Every round shares a rest among at least one slot. -/
theorem round_nonneg (h : Pours share slots a rounds left b) :
    ∀ r ∈ rounds, 0 ≤ r.rest ∧ 0 < r.count ∧ r.count < slots.length := by
  induction h with
  | nothing | fits | brims => intro r hr; cases hr
  | resplits a _ hfewer hothers hrest hround _ ih =>
    subst hround
    intro r hr
    rcases List.mem_cons.mp hr with rfl | hlater
    · exact ⟨hrest, List.length_pos_of_ne_nil hothers, hfewer⟩
    · obtain ⟨hnonneg, hcount, hlt⟩ := ih r hlater
      exact ⟨hnonneg, hcount, hlt.trans hfewer⟩

theorem level_ge (h : Pours share slots a rounds left b) : share ≤ levelOf share rounds := by
  have hshares : ∀ r ∈ rounds, 0 ≤ r.share := fun r hr =>
    Int.ediv_nonneg (h.round_nonneg r hr).1 (Int.natCast_nonneg _)
  have hsum : 0 ≤ (rounds.map (·.share)).sum :=
    List.sum_nonneg fun x hx => by
      obtain ⟨r, hr, rfl⟩ := List.mem_map.mp hx
      exact hshares r hr
  rw [levelOf, total_eq_sum]
  omega

/-- What a round adds to: a slot that had room for the share is offered the later shares on top,
and one that had none is full already. -/
theorem taken_add {share higher : Int} (hshare : 0 < share) (hhigher : 0 ≤ higher)
    (hslots : slots.Nodup) {s : Slot} (hs : s ∈ slots) :
    a.taken share s + among (a.roomy share slots) ((a.fill share slots).taken higher) (.module s)
      = a.taken (share + higher) s := by
  by_cases hroom : share ≤ a.room s
  · have hmem : s ∈ a.roomy share slots := List.mem_filter.mpr ⟨hs, by simpa using hroom⟩
    have hfilled : (a.fill share slots).room s = a.room s - share := by
      rw [room_of_isCredited (isCredited_fill share hslots a), among, if_pos hs, taken]
      omega
    rw [among, if_pos hmem, taken, taken, taken, hfilled]
    omega
  · have hmem : s ∉ a.roomy share slots := fun hmem =>
      hroom (by simpa using (List.mem_filter.mp hmem).2)
    rw [among, if_neg hmem, taken, taken]
    omega

/-- Each slot takes part up to the level. The induction is on the rounds. -/
theorem isCredited (h : Pours share slots a rounds left b) (hslots : slots.Nodup) :
    IsCredited a b (among slots (a.taken (levelOf share rounds))) := by
  induction h with
  | @nothing share slots a hstop =>
    refine (IsCredited.refl a).of_eq fun e => ?_
    cases e with
    | module s =>
      by_cases hs : s ∈ slots
      · have hshare : share = 0 := hstop.resolve_right (List.ne_nil_of_mem hs)
        rw [among, if_pos hs, taken, levelOf_nil]
        omega
      · rw [among, if_neg hs]
    | _ => rfl
  | fits a _ _ =>
    rw [levelOf_nil]
    exact isCredited_fill _ hslots a
  | brims a _ _ _ =>
    rw [levelOf_nil]
    exact isCredited_fill _ hslots a
  | @resplits share slots a hshare _ _ rest hrest round hround rounds _ b hpours ih =>
    have hhigher : 0 ≤ levelOf round.share rounds :=
      le_trans (hround ▸ share_nonneg hrest _) hpours.level_ge
    refine ((isCredited_fill share hslots a).trans (ih (hslots.filter _))).of_eq fun e => ?_
    cases e with
    | module s =>
      by_cases hs : s ∈ slots
      · rw [levelOf_cons, among, if_pos hs, taken_add hshare hhigher hslots hs, among, if_pos hs]
      · have hmem : s ∉ a.roomy share slots := fun hmem => hs (List.mem_of_mem_filter hmem)
        rw [among, among, among, if_neg hs, if_neg hmem, if_neg hs, add_zero]
    | _ => rfl

end Pours

/-! ## Sharing out a surplus -/

/-- The controller's part of a surplus. -/
def controllerPart (a : Accounts) (surplus : Int) : Int :=
  exactPortion surplus a.settings.controllerShare

/-- The part of each metered slot of a surplus. -/
def modulePart (a : Accounts) (surplus : Int) : Int :=
  exactPortion surplus a.settings.moduleShare

/-- What the controller has no room for of its part. -/
def overflow (a : Accounts) (surplus : Int) : Int :=
  max 0 (min (a.controllerPart surplus)
    ((a.get .controller).remaining + a.controllerPart surplus - a.controllerCap))

/-- The accounts with what the controller has room for of its part. -/
def withOwnPart (a : Accounts) (surplus : Int) : Accounts :=
  a.credit .controller (a.controllerPart surplus - a.overflow surplus)

/-- What is poured into the metered slots at first: their part and what divides of the
controller's overflow. -/
def firstShare (a : Accounts) (surplus : Int) : Int :=
  a.modulePart surplus + a.overflow surplus / 6

/-- The rounds after the first of sharing out a surplus. -/
def surplusRounds (a : Accounts) (surplus : Int) : List Resplit :=
  resplits (a.firstShare surplus) Slot.metered (a.withOwnPart surplus)

/-- The level to which a surplus fills the budgets of the metered slots. -/
def level (a : Accounts) (surplus : Int) : Int :=
  levelOf (a.firstShare surplus) (a.surplusRounds surplus)

/-- What nobody takes of the shares that are poured. -/
def unplaced (a : Accounts) (surplus : Int) : Int :=
  ((a.withOwnPart surplus).pour (a.firstShare surplus) Slot.metered).1

/-- What the controller is given beyond its own part. -/
def beyond (a : Accounts) (surplus : Int) : Int :=
  surplus - a.controllerPart surplus - a.modulePart surplus * 6 + a.overflow surplus % 6
    + a.unplaced surplus

theorem distribute_eq (a : Accounts) (surplus : Int) :
    a.distribute surplus
      = ((a.withOwnPart surplus).pour (a.firstShare surplus) Slot.metered).2.credit .controller
          (a.beyond surplus) := by
  have hcount : (Slot.metered.length : Int) = 6 := by decide
  rw [distribute]
  simp only [hcount]
  rfl

theorem modulePart_nonneg (a : Accounts) {surplus : Int} (h : 0 ≤ surplus) :
    0 ≤ a.modulePart surplus := exactPortion_nonneg _ h

theorem firstShare_nonneg (a : Accounts) {surplus : Int} (h : 0 ≤ surplus) :
    0 ≤ a.firstShare surplus := by
  have hmodule := a.modulePart_nonneg h
  rw [firstShare, overflow]
  omega

/-- How the shares of a surplus are poured. -/
theorem pours_surplus (a : Accounts) {surplus : Int} (h : 0 ≤ surplus) :
    Pours (a.firstShare surplus) Slot.metered (a.withOwnPart surplus) (a.surplusRounds surplus)
      (a.unplaced surplus)
      ((a.withOwnPart surplus).pour (a.firstShare surplus) Slot.metered).2 :=
  pours_pour _ _ _ (a.firstShare_nonneg h)

theorem room_withOwnPart (a : Accounts) (surplus : Int) (s : Slot) :
    (a.withOwnPart surplus).room s = a.room s := by
  rw [withOwnPart, room_of_isCredited (isCredited_credit ..), if_neg (by simp), sub_zero]

/-- What each entity is given of a surplus. -/
def given (a : Accounts) (surplus : Int) : Entity → Int
  | .controller => a.controllerPart surplus - a.overflow surplus + a.beyond surplus
  | .house => 0
  | .module s => if s.isMetered then a.taken (a.level surplus) s else 0

theorem isCredited_distribute (a : Accounts) {surplus : Int} (h : 0 ≤ surplus) :
    IsCredited a (a.distribute surplus) (a.given surplus) := by
  have hmetered (s : Slot) : s ∈ Slot.metered ↔ s.isMetered = true := by
    simp [Slot.metered, Slot.mem_all]
  have hpoured := (a.pours_surplus h).isCredited (by decide)
  rw [distribute_eq]
  refine (((isCredited_credit a _ _).trans hpoured).trans (isCredited_credit _ _ _)).of_eq
    fun e => ?_
  cases e with
  | controller => simp [among, given]
  | house => simp [among, given]
  | module s =>
    simp only [among, given, hmetered, taken, room_withOwnPart, level, reduceCtorEq, if_false,
      zero_add, add_zero]

end Accounts

end ModuleBus

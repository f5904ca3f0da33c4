import Mathlib.Data.Nat.Basic
import Mathlib.Order.Basic
import ModuleBus.Bench.Desk
import ModuleBus.Controller.Isolation

set_option autoImplicit false

/-! # Nobody is overtaken twice

A slot that asks for the bus is granted it after every other slot has had it once at most. A search
begins after the slot that was granted last and takes the first slot that may have the bus, so that
each grant leads closer to the slot that waits: of the slots from the one granted last up to it,
fewer are left each time (`Slot.ahead`), and none that was passed comes again.

One search may pass over the slot that waits, and even grant the bus to nobody: that slot itself
was granted last, and has been idle since. Then the whole round is ahead of it, and the next search
does not pass over it again. -/

namespace ModuleBus

/-- How many slots come after the slot `r` and before the slot `s`, in the order of a search. -/
def Slot.ahead (r s : Slot) : Nat := (s.val + (slotCount - 1) - r.val) % slotCount

namespace Slot

theorem ahead_lt_of_ne {r s : Slot} (h : r ≠ s) : r.ahead s < s.ahead s := by
  revert r s
  decide

/-- From a slot that a search comes to before `s`, fewer are left. -/
theorem ahead_lt {c r s : Slot} (h : c.ahead r < c.ahead s) : r.ahead s < c.ahead s := by
  revert c r s
  decide

theorem eq_of_ahead_eq {c r s : Slot} (h : c.ahead r = c.ahead s) : r = s := by
  revert c r s
  decide

theorem mem_allAfter (c s : Slot) : s ∈ allAfter c := by
  revert c s
  decide

/-- A search comes to the slots in the order of their distance. -/
theorem pairwise_allAfter (c : Slot) : (allAfter c).Pairwise fun r s => c.ahead r < c.ahead s := by
  revert c
  decide

/-- What a search finds comes before all else that it could find. -/
theorem ahead_le_of_find {c r s : Slot} {p : Slot → Bool} (h : (allAfter c).find? p = some r)
    (hs : p s = true) : c.ahead r ≤ c.ahead s := by
  obtain ⟨_, before, after, hall, hbefore⟩ := List.find?_eq_some_iff_append.mp h
  have hmem := mem_allAfter c s
  have horder := pairwise_allAfter c
  rw [hall] at hmem horder
  rcases List.mem_append.mp hmem with hskipped | hfound
  · have hnot := hbefore s hskipped
    simp [hs] at hnot
  · rcases List.mem_cons.mp hfound with rfl | hlater
    · exact le_rfl
    · have htail := (List.pairwise_append.mp horder).2.1
      exact ((List.pairwise_cons.mp htail).1 s hlater).le

end Slot

namespace Isolation

variable {W : Type} [Board W]

/-- What the scheduler finds at a tick. If the tick power-cycles a slot, `later` is the world at its
end. -/
structure Occasion (W : Type) where
  table : ModuleTable
  world : W
  later : W

/-- What a tick did, and which lines it found idle in the end. -/
structure Round where
  event : IsolationEvent
  isIdle : Slot → Bool

/-- One whole tick. -/
def round (i : Isolation) (o : Occasion W) : Round × Isolation × ModuleTable :=
  match i.tick o.table o.world with
  | (.done event, i, t, w) => (⟨event, fun s => !Board.isRequesting w s⟩, i, t)
  | (.cycling s, i, t, _) =>
    let (event, i, t, w) := i.finishCycle t s o.later
    (⟨event, fun s => !Board.isRequesting w s⟩, i, t)

/-- What a whole tick did, and the scheduler after it. -/
def turn (i : Isolation) (o : Occasion W) : IsolationEvent × Isolation :=
  ((i.round o).1.event, (i.round o).2.1)

/-- Ticks one after another, and what each of them did. Between two ticks the table and the lines
may change in any way. -/
def run (i : Isolation) : List (Occasion W) → List IsolationEvent × Isolation
  | [] => ([], i)
  | o :: rest =>
    let (event, i) := i.turn o
    let (events, i) := i.run rest
    (event :: events, i)

/-- The slot is enabled and asks for the bus. -/
structure Wants (o : Occasion W) (s : Slot) : Prop where
  state : (o.table.get s).state = .enabled
  asks : Board.isRequesting o.world s = true

/-! ## One tick -/

/-- What a whole tick consists of: a search while nobody holds the bus, and a look at the holder
else, after which the tick has ended or power-cycles the holder. -/
inductive Parts (i : Isolation) (o : Occasion W) : Round × Isolation × ModuleTable → Prop
  | search (w : W) (hholder : i.holder = none) :
      Parts i o (⟨(i.scan o.table o.world).1, fun s => !Board.isRequesting w s⟩,
        (i.scan o.table o.world).2.1.rearm w, o.table)
  | look {s : Slot} {event : IsolationEvent} {i' : Isolation} {t : ModuleTable} {w : W}
      (hholder : i.holder = some s)
      (hcheck : i.check o.table s o.world = (.done event, i', t, w)) :
      Parts i o (⟨event, fun s => !Board.isRequesting w s⟩, i'.rearm w, t)
  | cycle {s r : Slot} {i' : Isolation} {t : ModuleTable} {w : W} (hholder : i.holder = some s)
      (hcheck : i.check o.table s o.world = (.cycling r, i', t, w)) :
      Parts i o (⟨.powerCycled r,
          fun s => !Board.isRequesting (i'.finishCycle t r o.later).2.2.2 s⟩,
        i'.rearm (i'.finishCycle t r o.later).2.2.2, (i'.finishCycle t r o.later).2.2.1)

theorem parts_round (i : Isolation) (o : Occasion W) : Parts i o (i.round o) := by
  unfold round tick
  cases hholder : i.holder with
  | none => exact .search _ hholder
  | some s =>
    dsimp only
    rcases hcheck : i.check o.table s o.world with ⟨event | r, i', t, w⟩
    · exact .look hholder hcheck
    · exact .cycle hholder hcheck

/-- Every slot that was rearmed still is. -/
def KeepsArmed (i i' : Isolation) : Prop := ∀ s, i.rearmed.get s = true → i'.rearmed.get s = true

/-- What a tick can do to the order of the grants. -/
inductive Turns (i : Isolation) (o : Occasion W) : IsolationEvent → Isolation → Prop
  /-- Nobody can have the bus but perhaps the slot that was granted last. -/
  | idle {i' : Isolation} :
      (∀ s, s ≠ Slot.controller → i.rearmed.get s = true → Wants o s → i.last = some s) →
      i'.last = none → i'.cursor = i.cursor → KeepsArmed i i' → Turns i o .idle i'
  /-- The first slot that can have the bus gets it. -/
  | granted {i' : Isolation} {r : Slot} : r ≠ Slot.controller → Wants o r →
      (∀ s, s ≠ Slot.controller → i.rearmed.get s = true → Wants o s → i.last ≠ some s →
        i.cursor.ahead r ≤ i.cursor.ahead s) →
      i'.last = some r → i'.cursor = r →
      (∀ s, s ≠ r → i.rearmed.get s = true → i'.rearmed.get s = true) →
      Turns i o (.granted r) i'
  /-- Somebody has held the bus. -/
  | held {i' : Isolation} {event : IsolationEvent} : event ≠ .idle → (∀ r, event ≠ .granted r) →
      i'.last = i.last → i'.cursor = i.cursor → KeepsArmed i i' → Turns i o event i'

theorem get_rearm (i : Isolation) (w : W) (s : Slot) :
    (i.rearm w).rearmed.get s = (i.rearmed.get s || !Board.isRequesting w s) := by
  rw [rearm, PerSlot.get_ofFn]

theorem keepsArmed_rearm {i i' : Isolation} (w : W) (h : i'.rearmed = i.rearmed) :
    KeepsArmed i (i'.rearm w) := by
  intro s hs
  rw [get_rearm, h, hs, Bool.true_or]

/-- The slot is a candidate in a search unless it was granted last. -/
theorem isCandidate_filter (i : Isolation) (o : Occasion W) {s : Slot} (hs : s ≠ Slot.controller)
    (harmed : i.rearmed.get s = true) (hwants : Wants o s) (hlast : i.last ≠ some s) :
    ({ i with last := i.last.filter (Board.isRequesting o.world) }).isCandidate o.table o.world s
      = true := by
  have hother : some s ≠ i.last.filter (Board.isRequesting o.world) := fun h =>
    hlast (Option.filter_eq_some_iff.mp h.symm).1
  simp [isCandidate, hs, harmed, hwants.state, hwants.asks, SlotPower.isEnabled, hother]

theorem turns_scan (i : Isolation) (o : Occasion W) (w : W) :
    Turns i o (i.scan o.table o.world).1 ((i.scan o.table o.world).2.1.rearm w) := by
  unfold scan
  dsimp only
  split
  · next hnone =>
    refine .idle (fun s hs harmed hwants => ?_) rfl rfl (keepsArmed_rearm _ rfl)
    by_contra hlast
    have hnot := List.find?_eq_none.mp hnone s (Slot.mem_allAfter i.cursor s)
    exact hnot (isCandidate_filter i o hs harmed hwants hlast)
  · next r hfind =>
    have hcandidate := List.find?_some hfind
    simp only [isCandidate, Bool.and_eq_true, bne_iff_ne, SlotPower.isEnabled, beq_iff_eq]
      at hcandidate
    obtain ⟨⟨⟨⟨hcontroller, _⟩, _⟩, hstate⟩, hasks⟩ := hcandidate
    refine .granted hcontroller ⟨hstate, hasks⟩ (fun s hs harmed hwants hlast => ?_) rfl rfl
      (fun s hs harmed => ?_)
    · exact Slot.ahead_le_of_find hfind (isCandidate_filter i o hs harmed hwants hlast)
    · rw [get_rearm, PerSlot.get_set_of_ne _ _ hs, harmed, Bool.true_or]

/-- A look at the holder changes nothing that a search looks at. -/
theorem check_frame (i : Isolation) (t : ModuleTable) (s : Slot) (w : W) :
    (i.check t s w).2.1.last = i.last ∧ (i.check t s w).2.1.cursor = i.cursor
      ∧ (i.check t s w).2.1.rearmed = i.rearmed := by
  unfold check release
  dsimp only
  split
  · exact ⟨rfl, rfl, rfl⟩
  · split
    · exact ⟨rfl, rfl, rfl⟩
    · split <;> exact ⟨rfl, rfl, rfl⟩

theorem check_done (i : Isolation) (t : ModuleTable) (s : Slot) (w : W) {event : IsolationEvent}
    (h : (i.check t s w).1 = .done event) : event ≠ .idle ∧ ∀ r, event ≠ .granted r := by
  unfold check at h
  dsimp only at h
  split at h
  · cases h
    exact ⟨nofun, nofun⟩
  · split at h
    · cases h
      exact ⟨nofun, nofun⟩
    · split at h
      · cases h
        exact ⟨nofun, nofun⟩
      · cases h

theorem turns_turn (i : Isolation) (o : Occasion W) : Turns i o (i.turn o).1 (i.turn o).2 := by
  unfold turn
  have hparts := parts_round i o
  generalize i.round o = result at hparts ⊢
  cases hparts with
  | search w _ => exact turns_scan i o w
  | @look s _ _ _ _ _ hcheck =>
    obtain ⟨hlast, hcursor, hrearmed⟩ := check_frame i o.table s o.world
    obtain ⟨hidle, hgranted⟩ := check_done i o.table s o.world (by rw [hcheck])
    rw [hcheck] at hlast hcursor hrearmed
    exact .held hidle hgranted hlast hcursor (keepsArmed_rearm _ hrearmed)
  | @cycle s _ _ _ _ _ hcheck =>
    obtain ⟨hlast, hcursor, hrearmed⟩ := check_frame i o.table s o.world
    rw [hcheck] at hlast hcursor hrearmed
    exact .held nofun nofun hlast hcursor (keepsArmed_rearm _ hrearmed)

/-! ## Runs of ticks -/

/-- The slot that has to wait for others is the one that was granted last. -/
def IsAfterLast (i : Isolation) : Prop := ∀ s, i.last = some s → i.cursor = s

theorem IsAfterLast.turn {i : Isolation} (o : Occasion W) (h : i.IsAfterLast) :
    (i.turn o).2.IsAfterLast := by
  intro s hs
  have hturns := turns_turn i o
  obtain ⟨event, i', hturn⟩ : ∃ event i', i.turn o = (event, i') := ⟨_, _, rfl⟩
  rw [hturn] at hturns hs ⊢
  cases hturns with
  | idle _ hlast _ _ =>
    rw [hlast] at hs
    cases hs
  | granted _ _ _ hlast hcursor _ =>
    rw [hlast] at hs
    cases hs
    exact hcursor
  | held _ _ hlast hcursor _ =>
    rw [hlast] at hs
    rw [hcursor]
    exact h s hs

theorem IsAfterLast.run {i : Isolation} (occasions : List (Occasion W)) (h : i.IsAfterLast) :
    (i.run occasions).2.IsAfterLast := by
  induction occasions generalizing i with
  | nil => exact h
  | cons o rest ih => exact ih (h.turn o)

/-- While a slot waits, every grant leads closer to it. -/
theorem ahead_lt_of_granted {i i' : Isolation} {o : Occasion W} {r s : Slot}
    (h : Turns i o (.granted r) i') (hlast : i.IsAfterLast) (hs : s ≠ Slot.controller)
    (harmed : i.rearmed.get s = true) (hwants : Wants o s) (hrs : r ≠ s) :
    r.ahead s < i.cursor.ahead s := by
  cases h with
  | granted _ _ hfirst _ _ _ =>
    by_cases hself : i.last = some s
    · -- The slot was granted last, so that the whole round is ahead of it.
      rw [hlast s hself]
      exact Slot.ahead_lt_of_ne hrs
    · have hle := hfirst s hs harmed hwants hself
      have hne : i.cursor.ahead r ≠ i.cursor.ahead s := fun h => hrs (Slot.eq_of_ahead_eq h)
      exact Slot.ahead_lt (lt_of_le_of_ne hle hne)
  | held _ hgranted _ _ _ => exact absurd rfl (hgranted r)

/-- How often the slot `r` can be granted the bus before `s` is. -/
def grantsLeft (i : Isolation) (s r : Slot) : Nat :=
  if r.ahead s < i.cursor.ahead s then 1 else 0

/-- How many searches can find nobody while `s` waits. -/
def idlesLeft (i : Isolation) (s : Slot) : Nat := if i.last = some s then 1 else 0

theorem grantsLeft_le (i : Isolation) (s r : Slot) : i.grantsLeft s r ≤ 1 := by
  unfold grantsLeft
  split <;> omega

theorem idlesLeft_le (i : Isolation) (s : Slot) : i.idlesLeft s ≤ 1 := by
  unfold idlesLeft
  split <;> omega

/-- Each grant, and each search that finds nobody, uses up what is left of it. -/
theorem Turns.spends {i i' : Isolation} {o : Occasion W} {event : IsolationEvent} {s : Slot}
    (h : Turns i o event i') (hlast : i.IsAfterLast) (hs : s ≠ Slot.controller)
    (harmed : i.rearmed.get s = true) (hwants : Wants o s) (hwaits : event ≠ .granted s) :
    i'.rearmed.get s = true
      ∧ (∀ r, i'.grantsLeft s r + (if event = .granted r then 1 else 0) ≤ i.grantsLeft s r)
      ∧ i'.idlesLeft s + (if event = .idle then 1 else 0) ≤ i.idlesLeft s := by
  unfold grantsLeft idlesLeft
  cases h with
  | idle hnobody hnone hcursor hkeeps =>
    refine ⟨hkeeps s harmed, fun r => ?_, ?_⟩
    · simp [hcursor]
    · simp [hnone, hnobody s hs harmed hwants]
  | @granted _ q hcontroller hasks hfirst hlatest hcursor hkeeps =>
    have hqs : q ≠ s := fun h => hwaits (h ▸ rfl)
    have hcloser := ahead_lt_of_granted
      (.granted hcontroller hasks hfirst hlatest hcursor hkeeps) hlast hs harmed hwants hqs
    refine ⟨hkeeps s hqs.symm harmed, fun r => ?_, ?_⟩
    · rw [hcursor]
      by_cases hrq : q = r
      · -- The slot that is granted is not ahead of itself, so that it is not granted again.
        subst hrq
        simp [hcloser]
      · have hfarther : r.ahead s < q.ahead s → r.ahead s < i.cursor.ahead s := (·.trans hcloser)
        simp only [IsolationEvent.granted.injEq, if_neg hrq]
        split
        · next h => rw [if_pos (hfarther h)]
        · exact Nat.zero_le _
    · simp [hlatest, hqs]
  | held hidle hgranted hsame hcursor hkeeps =>
    refine ⟨hkeeps s harmed, fun r => ?_, ?_⟩
    · rw [hcursor, if_neg (hgranted r)]
      exact le_rfl
    · rw [hsame, if_neg hidle]
      exact le_rfl

/-- While a slot waits, a run grants the bus to no other slot, and to nobody, more often than is
left at its beginning. -/
theorem count_run_le {i : Isolation} {occasions : List (Occasion W)} {s : Slot}
    (hlast : i.IsAfterLast) (hs : s ≠ Slot.controller) (harmed : i.rearmed.get s = true)
    (hwants : ∀ o ∈ occasions, Wants o s) (hwaits : .granted s ∉ (i.run occasions).1) :
    (∀ r, (i.run occasions).1.count (.granted r) ≤ i.grantsLeft s r)
      ∧ (i.run occasions).1.count .idle ≤ i.idlesLeft s := by
  induction occasions generalizing i with
  | nil => simp [run]
  | cons o rest ih =>
    have hevents : (i.run (o :: rest)).1 = (i.turn o).1 :: ((i.turn o).2.run rest).1 := rfl
    rw [hevents] at hwaits ⊢
    obtain ⟨hevent, hwaits⟩ := not_or.mp (mt List.mem_cons.mpr hwaits)
    obtain ⟨harmed', hgrant, hidle⟩ := (turns_turn i o).spends hlast hs harmed
      (hwants o List.mem_cons_self) fun h => hevent h.symm
    obtain ⟨hgrants, hidles⟩ := ih (hlast.turn o) harmed'
      (fun o ho => hwants o (List.mem_cons_of_mem _ ho)) hwaits
    simp only [List.count_cons, beq_iff_eq]
    exact ⟨fun r => (Nat.add_le_add_right (hgrants r) _).trans (hgrant r),
      (Nat.add_le_add_right hidles _).trans hidle⟩

theorem isAfterLast_start (settings : IsolationSettings) : (start settings).IsAfterLast := nofun

/-- **Nobody is overtaken twice.** Whatever has happened since boot, if a module's slot is rearmed
and from some tick on it is enabled and asks for the bus at every tick, then, as long as it is not
granted the bus, no other slot is granted it twice, and one tick at most finds nobody to grant it
to. At every tick, a slot that is granted the bus is a module's, is enabled and asks for it. -/
theorem overtaking_is_bounded (settings : IsolationSettings) (before occasions : List (Occasion W))
    {s : Slot} (hs : s ≠ Slot.controller)
    (harmed : ((start settings).run before).2.rearmed.get s = true)
    (hwants : ∀ o ∈ occasions, Wants o s)
    (hwaits : .granted s ∉ (((start settings).run before).2.run occasions).1) :
    (∀ r, (((start settings).run before).2.run occasions).1.count (.granted r) ≤ 1)
      ∧ (((start settings).run before).2.run occasions).1.count .idle ≤ 1
      ∧ ∀ (i : Isolation) (o : Occasion W) (r : Slot), (i.turn o).1 = .granted r →
        r ≠ Slot.controller ∧ Wants o r := by
  have hlast := (isAfterLast_start settings).run before
  obtain ⟨hgrants, hidle⟩ := count_run_le hlast hs harmed hwants hwaits
  refine ⟨fun r => (hgrants r).trans (grantsLeft_le _ s r), hidle.trans (idlesLeft_le _ s),
    fun i o r h => ?_⟩
  have hturns := turns_turn i o
  rw [h] at hturns
  cases hturns with
  | granted hcontroller hwants _ _ _ _ => exact ⟨hcontroller, hwants⟩
  | held _ hgranted _ _ _ => exact absurd rfl (hgranted r)

/-- A tick at which every slot is enabled and the lines of some are asserted. -/
def deskOccasion (slots : List Slot) : Occasion DeskBoard :=
  let board := (DeskBoard.start true true none [] none none).request slots true
  ⟨.start, board, board⟩

/-- The last slot has just had the bus and asks again at once, as does the first one. It has to
wait while the first one gets the bus and keeps it, but that one gets it once. -/
theorem last_waits_for_first :
    let i := ((start {}).run [deskOccasion [Slot.last], deskOccasion []]).2
    let occasions := [deskOccasion [Slot.first, Slot.last], deskOccasion [Slot.first, Slot.last]]
    i.rearmed.get Slot.last = true ∧ (∀ o ∈ occasions, Wants o Slot.last)
      ∧ (i.run occasions).1 = [.granted Slot.first, .holding Slot.first]
      ∧ ∀ r, (i.run occasions).1.count (.granted r) ≤ 1 := by
  intro i occasions
  have harmed : i.rearmed.get Slot.last = true := by decide +kernel
  have hwants : ∀ o ∈ occasions, Wants o Slot.last := by
    intro o ho
    have ho : o = deskOccasion [Slot.first, Slot.last] := by
      simpa [occasions] using ho
    rw [ho]
    exact ⟨by decide +kernel, by decide +kernel⟩
  have hevents : (i.run occasions).1 = [.granted Slot.first, .holding Slot.first] := by
    decide +kernel
  have hwaits : .granted Slot.last ∉ (i.run occasions).1 := by
    rw [hevents]
    decide
  exact ⟨harmed, hwants, hevents,
    (overtaking_is_bounded {} _ occasions (by decide) harmed hwants hwaits).1⟩

end Isolation

end ModuleBus

import ModuleBus.Proofs.Controller.Fairness

set_option autoImplicit false

/-! # Isolations end

A slot that is granted the bus is not granted it again before its line was idle, keeps it for a
limited number of ticks, and is power-cycled when it has overstayed too often. These are three
things that the scheduler keeps: which slots were idle since their last grant, for how many ticks
the holder has held the bus, and how often each slot has failed in a row. What a tick does to them
is said once (`Isolation.Acts`, `Isolation.Rearms`), and so what they tell about the ticks of a
run. -/

namespace ModuleBus

/-- The failures that the table holds. -/
def ModuleTable.failures (t : ModuleTable) (s : Slot) : Nat := (t.get s).failures

theorem ModuleTable.failures_modify (t : ModuleTable) (s : Slot)
    (f : ModuleRecord → ModuleRecord) :
    (t.modify s f).failures = Function.update t.failures s (f (t.get s)).failures := by
  funext r
  by_cases hr : r = s
  · subst hr
    simp [failures]
  · simp [failures, get_modify_of_ne t f hr, hr]

namespace Isolation

namespace Round

/-- The round ends the isolation of a slot that has held the bus for too long. -/
def TimesOut (r : Round) (s : Slot) : Prop :=
  r.event = .powerCycled s ∨ ∃ failures, r.event = .timedOut s failures

/-- The round ends the isolation of a slot. -/
def Ends (r : Round) (s : Slot) : Prop := r.event = .released s ∨ r.TimesOut s

end Round

/-- How often a slot has timed out since it last released the bus or was power-cycled. The newest
round is the first. -/
def strikes (s : Slot) : List Round → Nat
  | [] => 0
  | r :: older =>
    match r.event with
    | .timedOut q _ => if q = s then strikes s older + 1 else strikes s older
    | .released q | .powerCycled q => if q = s then 0 else strikes s older
    | _ => strikes s older

variable {W : Type} [Board W]

/-! ## One tick -/

/-- What a tick can do to the holder of the bus and to the failures of the slots. -/
inductive Acts (i : Isolation) (failures : Slot → Nat) :
    Round → Isolation → (Slot → Nat) → Prop
  | idle {r : Round} {i' : Isolation} : r.event = .idle → i.holder = none → i'.holder = none →
      Acts i failures r i' failures
  | granted {r : Round} {i' : Isolation} (s : Slot) : r.event = .granted s → i.holder = none →
      i.rearmed.get s = true → i'.holder = some s → i'.ticks = 0 → Acts i failures r i' failures
  | holding {r : Round} {i' : Isolation} (s : Slot) : r.event = .holding s → i.holder = some s →
      i.ticks < i.settings.timeoutTicks → i'.holder = some s → i'.ticks = i.ticks + 1 →
      Acts i failures r i' failures
  | released {r : Round} {i' : Isolation} (s : Slot) : r.event = .released s →
      i.holder = some s → i'.holder = none → Acts i failures r i' (Function.update failures s 0)
  | timedOut {r : Round} {i' : Isolation} (s : Slot) : r.event = .timedOut s (failures s + 1) →
      i.holder = some s → i'.holder = none → failures s < i.settings.maxFailures →
      Acts i failures r i' (Function.update failures s (failures s + 1))
  | powerCycled {r : Round} {i' : Isolation} (s : Slot) : r.event = .powerCycled s →
      i.holder = some s → i'.holder = none → i.settings.maxFailures ≤ failures s →
      Acts i failures r i' (Function.update failures s 0)

theorem acts_scan (i : Isolation) (t : ModuleTable) (w w' : W) (idle : Slot → Bool)
    (hholder : i.holder = none) :
    Acts i t.failures ⟨(i.scan t w).1, idle⟩ ((i.scan t w).2.1.rearm w') t.failures := by
  unfold scan
  dsimp only
  split
  · exact .idle rfl hholder hholder
  · next s hfind =>
    have hcandidate := List.find?_some hfind
    simp only [isCandidate, Bool.and_eq_true] at hcandidate
    exact .granted s rfl hholder hcandidate.1.1.1.2 rfl rfl

theorem acts_round (i : Isolation) (o : Occasion W) :
    Acts i o.table.failures (i.round o).1 (i.round o).2.1 (i.round o).2.2.failures := by
  have hparts := parts_round i o
  generalize i.round o = result at hparts ⊢
  cases hparts with
  | search w hholder => exact acts_scan i o.table o.world w _ hholder
  | @look s _ _ _ _ hholder hcheck =>
    -- The branches of `check` that end the tick.
    simp only [check, release, ModuleTable.get_modify_self] at hcheck
    split at hcheck
    · cases hcheck
      rw [ModuleTable.failures_modify]
      exact .released s rfl hholder rfl
    · split at hcheck
      · next hticks =>
        cases hcheck
        exact .holding s rfl hholder hticks hholder rfl
      · split at hcheck
        · next hcount =>
          cases hcheck
          rw [ModuleTable.failures_modify]
          exact .timedOut s rfl hholder rfl hcount
        · cases hcheck
  | @cycle s r _ _ _ hholder hcheck =>
    simp only [check, release, ModuleTable.get_modify_self] at hcheck
    split at hcheck
    · cases hcheck
    · split at hcheck
      · cases hcheck
      · split at hcheck
        · cases hcheck
        · next hcount =>
          cases hcheck
          simp only [finishCycle, ModuleTable.get_modify_self, if_true,
            ModuleTable.failures_modify, Function.update_idem]
          exact .powerCycled s rfl hholder rfl (Nat.le_of_not_lt hcount)

theorem settings_check (i : Isolation) (t : ModuleTable) (s : Slot) (w : W) :
    (i.check t s w).2.1.settings = i.settings := by
  unfold check release
  dsimp only
  split
  · rfl
  · split
    · rfl
    · split <;> rfl

/-- What a tick does to the settings, and to the slots that may be granted the bus again. -/
structure Rearms (i : Isolation) (r : Round) (i' : Isolation) : Prop where
  settings : i'.settings = i.settings
  armed : ∀ s, i'.rearmed.get s = true →
    r.isIdle s = true ∨ (r.event ≠ .granted s ∧ i.rearmed.get s = true)

theorem rearms_rearm {i i' : Isolation} {event : IsolationEvent} (w : W)
    (hsettings : i'.settings = i.settings)
    (h : ∀ s, i'.rearmed.get s = true → event ≠ .granted s ∧ i.rearmed.get s = true) :
    Rearms i ⟨event, fun s => !Board.isRequesting w s⟩ (i'.rearm w) := by
  refine ⟨hsettings, fun s harmed => ?_⟩
  rw [get_rearm, Bool.or_eq_true] at harmed
  exact harmed.symm.imp_right (h s)

theorem rearms_round (i : Isolation) (o : Occasion W) :
    Rearms i (i.round o).1 (i.round o).2.1 := by
  have hparts := parts_round i o
  generalize i.round o = result at hparts ⊢
  cases hparts with
  | search w _ =>
    dsimp only
    unfold scan
    dsimp only
    split
    · exact rearms_rearm _ rfl fun s harmed => ⟨by simp, harmed⟩
    · next r _ =>
      refine rearms_rearm _ rfl fun s harmed => ?_
      by_cases hs : s = r
      · subst hs
        simp at harmed
      · rw [PerSlot.get_set_of_ne _ _ hs] at harmed
        exact ⟨fun h => hs (IsolationEvent.granted.inj h).symm, harmed⟩
  | @look s _ _ _ w _ hcheck =>
    obtain ⟨-, -, hrearmed⟩ := check_frame i o.table s o.world
    have hsettings := settings_check i o.table s o.world
    have hgranted := (check_done i o.table s o.world (by rw [hcheck])).2
    rw [hcheck] at hrearmed hsettings
    exact rearms_rearm w hsettings fun q harmed => ⟨hgranted q, hrearmed ▸ harmed⟩
  | @cycle s _ _ _ _ _ hcheck =>
    obtain ⟨-, -, hrearmed⟩ := check_frame i o.table s o.world
    have hsettings := settings_check i o.table s o.world
    rw [hcheck] at hrearmed hsettings
    exact rearms_rearm _ hsettings fun q harmed => ⟨nofun, hrearmed ▸ harmed⟩

/-! ## Runs of ticks -/

/-- The ticks of a run, the newest first, and what they have led to. Between two ticks the lines may
change in any way, and so may all that the table holds but the failures. -/
inductive Runs (settings : IsolationSettings) : List Round → Isolation → ModuleTable → Prop
  | start {t : ModuleTable} : (∀ s, t.failures s = 0) → Runs settings [] (start settings) t
  | tick {log : List Round} {i : Isolation} {t : ModuleTable} (o : Occasion W) :
      Runs settings log i t → o.table.failures = t.failures →
      Runs settings ((i.round o).1 :: log) (i.round o).2.1 (i.round o).2.2

/-- The line of a slot was found idle since the slot was granted the bus last. -/
def WasIdle (s : Slot) : List Round → Prop
  | [] => True
  | r :: older => r.isIdle s = true ∨ (r.event ≠ .granted s ∧ WasIdle s older)

/-- A slot was granted the bus and has held it for some ticks since. -/
inductive Held (s : Slot) : List Round → Nat → Prop
  | granted {r : Round} (older : List Round) : r.event = .granted s → Held s (r :: older) 0
  | holding {r : Round} {older : List Round} {ticks : Nat} : r.event = .holding s →
      Held s older ticks → Held s (r :: older) (ticks + 1)

/-- What the scheduler and the table tell about the ticks so far. -/
structure Tells (settings : IsolationSettings) (log : List Round) (i : Isolation)
    (failures : Slot → Nat) : Prop where
  configured : i.settings = settings
  armed : ∀ s, i.rearmed.get s = true → WasIdle s log
  held : ∀ s ticks, Held s log ticks →
    i.holder = some s ∧ i.ticks = ticks ∧ ticks ≤ settings.timeoutTicks
  counted : ∀ s, failures s = strikes s log
  bounded : ∀ s, failures s ≤ settings.maxFailures

variable {settings : IsolationSettings} {log : List Round} {i i' : Isolation} {t : ModuleTable}
  {failures failures' : Slot → Nat} {r : Round} {s : Slot}

theorem Acts.held (h : Acts i failures r i' failures') (htells : Tells settings log i failures)
    (s : Slot) (ticks : Nat) (hheld : Held s (r :: log) ticks) :
    i'.holder = some s ∧ i'.ticks = ticks ∧ ticks ≤ settings.timeoutTicks := by
  cases hheld with
  | granted _ hevent =>
    cases h with
    | granted q hgranted _ _ hholder hticks =>
      obtain rfl : q = s := IsolationEvent.granted.inj (hgranted.symm.trans hevent)
      exact ⟨hholder, hticks, Nat.zero_le _⟩
    | idle h | holding _ h | released _ h | timedOut _ h | powerCycled _ h =>
      cases h.symm.trans hevent
  | holding hevent hbefore =>
    cases h with
    | holding q hholding _ hlt hholder hticks =>
      obtain rfl : q = s := IsolationEvent.holding.inj (hholding.symm.trans hevent)
      obtain ⟨-, hcount, -⟩ := htells.held q _ hbefore
      rw [htells.configured] at hlt
      exact ⟨hholder, by omega, by omega⟩
    | idle h | granted _ h | released _ h | timedOut _ h | powerCycled _ h =>
      cases h.symm.trans hevent

theorem Acts.counted (h : Acts i failures r i' failures')
    (hcounted : ∀ s, failures s = strikes s log) (s : Slot) :
    failures' s = strikes s (r :: log) := by
  cases h with
  | idle h | granted _ h | holding _ h => simp only [strikes, h, hcounted]
  | released q h _ _ | powerCycled q h _ _ _ | timedOut q h _ _ _ =>
    by_cases hq : q = s
    · subst hq
      simp only [strikes, h, if_true, Function.update_self, hcounted]
    · simp only [strikes, h, if_neg hq, Function.update_of_ne (Ne.symm hq), hcounted]

theorem Acts.bounded (h : Acts i failures r i' failures') (s : Slot)
    (hbounded : failures s ≤ i.settings.maxFailures) :
    failures' s ≤ i.settings.maxFailures := by
  cases h with
  | idle | granted | holding => exact hbounded
  | released q | powerCycled q =>
    by_cases hq : s = q
    · rw [hq, Function.update_self]
      exact Nat.zero_le _
    · rwa [Function.update_of_ne hq]
  | timedOut q _ _ _ hlt =>
    by_cases hq : s = q
    · rw [hq, Function.update_self]
      exact hlt
    · rwa [Function.update_of_ne hq]

/-- The step. -/
theorem Tells.step (h : Tells settings log i failures) (hacts : Acts i failures r i' failures')
    (hrearms : Rearms i r i') : Tells settings (r :: log) i' failures' where
  configured := hrearms.settings.trans h.configured
  armed s harmed := (hrearms.armed s harmed).imp_right (And.imp_right (h.armed s))
  held := hacts.held h
  counted := hacts.counted h.counted
  bounded s := h.configured ▸ hacts.bounded s (h.configured.symm ▸ h.bounded s)

/-- The run, by induction on its ticks. -/
theorem tells_of_runs (h : Runs (W := W) settings log i t) : Tells settings log i t.failures := by
  induction h with
  | start hzero =>
    exact ⟨rfl, fun _ _ => trivial, nofun, hzero, fun s => (hzero s).le.trans (Nat.zero_le _)⟩
  | @tick log i t o _ hfailures ih =>
    exact Tells.step (hfailures ▸ ih) (acts_round i o) (rearms_round i o)

/-- The last tick of a run. -/
theorem exists_acts (h : Runs (W := W) settings (r :: log) i' t) :
    ∃ i failures failures', Tells settings log i failures ∧ Acts i failures r i' failures' := by
  cases h with
  | @tick _ i t₀ o hbefore hfailures =>
    exact ⟨i, o.table.failures, _, hfailures ▸ tells_of_runs hbefore, acts_round i o⟩

/-- The ticks up to some point of a run are a run. -/
theorem exists_runs (newer : List Round) (h : Runs (W := W) settings (newer ++ log) i t) :
    ∃ i t, Runs (W := W) settings log i t := by
  induction newer generalizing i t with
  | nil => exact ⟨i, t, h⟩
  | cons r newer ih =>
    cases h with
    | tick o hbefore _ => exact ih hbefore

theorem exists_isIdle_of_wasIdle {newer older : List Round}
    (h : WasIdle s (newer ++ r :: older)) (hgranted : r.event = .granted s) :
    ∃ x ∈ newer ++ [r], x.isIdle s = true := by
  induction newer with
  | nil => exact ⟨r, List.mem_singleton_self r, h.resolve_right fun hlater => hlater.1 hgranted⟩
  | cons x newer ih =>
    rcases h with hidle | ⟨-, hlater⟩
    · exact ⟨x, List.mem_cons_self, hidle⟩
    · obtain ⟨y, hy, hidle⟩ := ih hlater
      exact ⟨y, List.mem_cons_of_mem x hy, hidle⟩

theorem held_append {held : List Round} (older : List Round) (hgranted : r.event = .granted s)
    (h : ∀ x ∈ held, x.event = .holding s) : Held s (held ++ r :: older) held.length := by
  induction held with
  | nil => exact .granted older hgranted
  | cons x held ih =>
    exact .holding (h x List.mem_cons_self) (ih fun y hy => h y (List.mem_cons_of_mem x hy))

/-- Between two grants the line was idle. -/
theorem exists_isIdle_between {second first : Round} {between before : List Round}
    (h : Runs (W := W) settings (second :: (between ++ first :: before)) i t)
    (hsecond : second.event = .granted s) (hfirst : first.event = .granted s) :
    ∃ r ∈ between ++ [first], r.isIdle s = true := by
  obtain ⟨i₀, failures, failures', htells, hacts⟩ := exists_acts h
  cases hacts with
  | granted q hgranted _ harmed _ _ =>
    obtain rfl : q = s := IsolationEvent.granted.inj (hgranted.symm.trans hsecond)
    exact exists_isIdle_of_wasIdle (htells.armed q harmed) hfirst
  | idle h | holding _ h | released _ h | timedOut _ h | powerCycled _ h =>
    cases h.symm.trans hsecond

/-- A slot that holds the bus goes on to hold it, for a limited number of ticks, or its isolation
ends. -/
theorem holding_or_ends {grant : Round} {held before : List Round}
    (h : Runs (W := W) settings (r :: (held ++ grant :: before)) i t)
    (hgranted : grant.event = .granted s) (hheld : ∀ x ∈ held, x.event = .holding s) :
    (r.event = .holding s ∧ held.length < settings.timeoutTicks) ∨ r.Ends s := by
  obtain ⟨i₀, failures, failures', htells, hacts⟩ := exists_acts h
  obtain ⟨hholder, hticks, -⟩ := htells.held s _ (held_append before hgranted hheld)
  cases hacts with
  | idle _ hnone | granted _ _ hnone => cases hnone.symm.trans hholder
  | holding q hevent hq hlt =>
    obtain rfl : q = s := Option.some.inj (hq.symm.trans hholder)
    rw [hticks, htells.configured] at hlt
    exact .inl ⟨hevent, hlt⟩
  | released q hevent hq =>
    obtain rfl : q = s := Option.some.inj (hq.symm.trans hholder)
    exact .inr (.inl hevent)
  | timedOut q hevent hq =>
    obtain rfl : q = s := Option.some.inj (hq.symm.trans hholder)
    exact .inr (.inr (.inr ⟨_, hevent⟩))
  | powerCycled q hevent hq =>
    obtain rfl : q = s := Option.some.inj (hq.symm.trans hholder)
    exact .inr (.inr (.inl hevent))

/-- After a grant the slot holds the bus for a limited number of ticks, and the next tick ends its
isolation. The induction is on the ticks since the grant. -/
theorem exists_held {grant : Round} {after before : List Round}
    (h : Runs (W := W) settings (after ++ grant :: before) i t)
    (hgranted : grant.event = .granted s) :
    ∃ held, (∀ x ∈ held, x.event = .holding s) ∧ held.length ≤ settings.timeoutTicks
      ∧ (after = held ∨ ∃ later ending, after = later ++ ending :: held ∧ ending.Ends s) := by
  induction after generalizing i t with
  | nil => exact ⟨[], nofun, Nat.zero_le _, .inl rfl⟩
  | cons r after ih =>
    obtain ⟨i₀, t₀, hbefore⟩ := exists_runs [r] h
    obtain ⟨held, hheld, hlength, rfl | ⟨later, ending, rfl, hends⟩⟩ := ih hbefore
    · rcases holding_or_ends h hgranted hheld with ⟨hholding, hlt⟩ | hends
      · exact ⟨r :: after, List.forall_mem_cons.mpr ⟨hholding, hheld⟩, hlt, .inl rfl⟩
      · exact ⟨after, hheld, hlength, .inr ⟨[], r, rfl, hends⟩⟩
    · exact ⟨held, hheld, hlength, .inr ⟨r :: later, ending, rfl, hends⟩⟩

/-- A timeout power-cycles the slot if it has failed as often as it may, and is counted if not. -/
theorem powerCycled_iff_of_timesOut {before : List Round}
    (h : Runs (W := W) settings (r :: before) i t) (htimeout : r.TimesOut s) :
    (r.event = .powerCycled s ↔ strikes s before = settings.maxFailures)
      ∧ ∀ n, r.event = .timedOut s n → n = strikes s before + 1 := by
  obtain ⟨i₀, failures, failures', htells, hacts⟩ := exists_acts h
  have hbounded := htells.bounded s
  rw [htells.counted] at hbounded
  cases hacts with
  | timedOut q hevent hq _ hlt =>
    rw [Round.TimesOut, hevent] at htimeout
    obtain ⟨n, hn⟩ := htimeout.resolve_left nofun
    cases hn
    rw [htells.counted, htells.configured] at hlt
    rw [hevent, htells.counted]
    refine ⟨iff_of_false nofun hlt.ne, fun n hn => ?_⟩
    cases hn
    rfl
  | powerCycled q hevent _ _ hle =>
    rw [Round.TimesOut, hevent] at htimeout
    obtain rfl : q = s := htimeout.elim IsolationEvent.powerCycled.inj nofun
    rw [htells.counted, htells.configured] at hle
    rw [hevent]
    exact ⟨iff_of_true rfl (Nat.le_antisymm hbounded hle), nofun⟩
  | idle h | granted _ h | holding _ h | released _ h =>
    rw [Round.TimesOut, h] at htimeout
    simp at htimeout

/-- **Isolations are fresh and end.** In every run, the newest tick first, and for every slot:
between two grants of the bus to it, at the first of them or later, its line was found idle. After
a grant it holds the bus for a limited number of ticks, and the tick after these ends its isolation.
The table counts how often it has timed out since it last released the bus or was power-cycled,
which is never more often than it may. And a timeout power-cycles it if and only if it has timed out
as often as it may before. -/
theorem isolations_are_fresh_and_end (h : Runs (W := W) settings log i t) (s : Slot) :
    (∀ after second between first before, log = after ++ second :: (between ++ first :: before) →
      second.event = .granted s → first.event = .granted s →
      ∃ r ∈ between ++ [first], r.isIdle s = true)
    ∧ (∀ after grant before, log = after ++ grant :: before → grant.event = .granted s →
      ∃ held, (∀ r ∈ held, r.event = .holding s) ∧ held.length ≤ settings.timeoutTicks
        ∧ (after = held ∨ ∃ later ending, after = later ++ ending :: held ∧ ending.Ends s))
    ∧ ((t.get s).failures = strikes s log ∧ (t.get s).failures ≤ settings.maxFailures)
    ∧ ∀ after r before, log = after ++ r :: before → r.TimesOut s →
      (r.event = .powerCycled s ↔ strikes s before = settings.maxFailures)
        ∧ ∀ n, r.event = .timedOut s n → n = strikes s before + 1 := by
  have htells := tells_of_runs h
  refine ⟨?_, ?_, ⟨htells.counted s, htells.bounded s⟩, ?_⟩
  · rintro after second between first before rfl hsecond hfirst
    obtain ⟨i₀, t₀, hbefore⟩ := exists_runs after h
    exact exists_isIdle_between hbefore hsecond hfirst
  · rintro after grant before rfl hgranted
    exact exists_held h hgranted
  · rintro after r before rfl htimeout
    obtain ⟨i₀, t₀, hbefore⟩ := exists_runs after h
    exact powerCycled_iff_of_timesOut hbefore htimeout

/-- A run on the desk: the ticks at which the lines of some slots are asserted, the newest first. -/
def deskRun (settings : IsolationSettings) : List (List Slot) → List Round × Isolation × ModuleTable
  | [] => ([], start settings, .start)
  | slots :: earlier =>
    let (log, i, t) := deskRun settings earlier
    let board := (DeskBoard.start true true none [] none none).request slots true
    let (r, i, t) := i.round (⟨t, board, board⟩ : Occasion DeskBoard)
    (r :: log, i, t)

theorem runs_deskRun (settings : IsolationSettings) (requests : List (List Slot)) :
    Runs (W := DeskBoard) settings (deskRun settings requests).1 (deskRun settings requests).2.1
      (deskRun settings requests).2.2 := by
  induction requests with
  | nil => exact .start (show ∀ s, ModuleTable.start.failures s = 0 by decide +kernel)
  | cons slots earlier ih => exact .tick _ ih rfl

/-- The first slot overstays once, which is too often, and is granted the bus again after its line
was idle. -/
theorem first_is_granted_again :
    let settings : IsolationSettings := { timeoutTicks := 1, maxFailures := 0 }
    let log := (deskRun settings
      [[Slot.first], [], [Slot.first], [Slot.first], [Slot.first]]).1
    log.map (·.event) = [.granted Slot.first, .idle, .powerCycled Slot.first, .holding Slot.first,
        .granted Slot.first]
      ∧ (∃ r ∈ log.tail, r.isIdle Slot.first = true)
      ∧ strikes Slot.first (log.drop 3) = settings.maxFailures := by
  intro settings log
  have hevents : log.map (·.event) = [.granted Slot.first, .idle, .powerCycled Slot.first,
      .holding Slot.first, .granted Slot.first] := by
    decide +kernel
  obtain ⟨hidle, -, -, hcycled⟩ := isolations_are_fresh_and_end (runs_deskRun settings
    [[Slot.first], [], [Slot.first], [Slot.first], [Slot.first]]) Slot.first
  change ∀ after second between first before, log = _ → _ at hidle
  change ∀ after r before, log = _ → _ at hcycled
  refine ⟨hevents, ?_⟩
  generalize log = log at hevents hidle hcycled ⊢
  simp only [List.map_eq_cons_iff, List.map_eq_nil_iff] at hevents
  obtain ⟨second, _, rfl, hsecond, idle, _, rfl, -, cycled, _, rfl, hcycle, held, _, rfl, -, first,
    _, rfl, hfirst, rfl⟩ := hevents
  exact ⟨hidle [] second [idle, cycled, held] first [] rfl hsecond hfirst,
    (hcycled [second, idle] cycled [held, first] rfl (.inl hcycle)).1.mp hcycle⟩

end Isolation
end ModuleBus

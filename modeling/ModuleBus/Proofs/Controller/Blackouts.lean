import ModuleBus.Proofs.Controller.Flags
import ModuleBus.Proofs.Controller.PowerLosses

set_option autoImplicit false

/-! # Keys of modules that lost their power

A module that loses its power forgets its key. The controller takes the power of a slot for six
reasons, but the key only for one of them: at the end of a tick that power-cycled the slot. A slot
that ran out of energy, missed its watchdog, went to sleep, or was switched off or reset from
outside keeps its flag, and the dispatcher keeps the key of its address, so that the module is
spoken to under a key that it no longer has until it agrees on a new one.

A run is traced with a note of whether a slot has lost its power since its key was agreed on
(`Traces`). As long as none of the other five happens to a slot with a key, a slot with that note is
in the middle of a power cycle, or has no key (`cycling_of_lost`); and when one of them happens, the
run can go on to the end of the event with both the note and the key (`exists_lost`). -/

namespace ModuleBus

open Wired (rails)

namespace Moment

variable {W : Type} [Board W] [Link W] [Wired W] {m : Moment W} {clock : Clock} {event : Event}
  {s : Slot}

/-! ## Runs that note losses of power -/

/-- A run, with a note of whether a slot has lost its power since a key was last agreed on with its
module. -/
inductive Traces (may : Moment W → Event → Prop) (s : Slot) (start : Moment W) :
    Bool → Moment W → Prop
  | start : Traces may s start false start
  | agree {lost : Bool} {m : Moment W} (clock : Clock) {event : Event} :
      Traces may s start lost m → m.pause = none → may m event → m.Agrees event s →
      Traces may s start false (m.begin clock event)
  | other {lost : Bool} {m m' : Moment W} : Traces may s start lost m →
      Step (fun m event => may m event ∧ ¬m.Agrees event s) m m' →
      Traces may s start (lost || (m.hasPower s && !m'.hasPower s)) m'

variable {may : Moment W → Event → Prop} {start m' : Moment W} {lost : Bool}

/-- Every run is traced. -/
theorem reaches_iff_exists_traces :
    Reaches may start m ↔ ∃ lost, Traces may s start lost m := by
  constructor
  · intro h
    induction h with
    | refl => exact ⟨false, .start⟩
    | @tail m _ _ hstep ih =>
      obtain ⟨lost, htraces⟩ := ih
      rcases hstep.begins_or_not with ⟨clock, event, hidle, hmay, rfl⟩ | hnever
      · by_cases hagrees : m.Agrees event s
        · exact ⟨_, htraces.agree clock hidle hmay hagrees⟩
        · exact ⟨_, htraces.other (.begin clock event hidle ⟨hmay, hagrees⟩)⟩
      · exact ⟨_, htraces.other hnever.of_never⟩
  · rintro ⟨lost, h⟩
    induction h with
    | start => exact .refl
    | agree clock _ hidle hmay _ ih => exact ih.tail (.begin clock _ hidle hmay)
    | other _ hstep ih =>
      refine ih.tail ?_
      rcases hstep.begins_or_not with ⟨clock, event, hidle, hmay, rfl⟩ | hnever
      · exact .begin clock event hidle hmay.1
      · exact hnever.of_never

/-! ## Losses of power during a check -/

omit [Link W] [Wired W] in
/-- A command from outside pulses no slots one after another. -/
theorem applyDownlink_ne_pulsing (c : Coordinator) (clock : Clock) (d : DownlinkCommand) (w : W)
    (r : Slot) (others : List Slot) (timer : Timer) :
    (c.applyDownlink clock d w).1 ≠ some (.pulsing r others timer) := by
  cases d with
  | hardReset => exact nofun
  | off name =>
    unfold Coordinator.applyDownlink Coordinator.applyTo
    dsimp only
    split <;> exact nofun
  | on name | reset name =>
    unfold Coordinator.applyDownlink Coordinator.applyTo
    dsimp only
    split
    · exact nofun
    · split <;> exact nofun

/-- Only a check begins to pulse slots one after another. -/
theorem eq_check_of_pulsing {r : Slot} {others : List Slot} {timer : Timer}
    (h : (m.begin clock event).pause = some (.pulsing r others timer)) : event = .check := by
  have hdoes := (m.coordinator.makes_begin clock event m.endpoint).does
  have hdown : ((m.begin clock event).switchboard).down = some r := by
    rw [switchboard, Coordinator.switchboard, h]
    rfl
  obtain ⟨x, hx, s, rfl⟩ := hdoes.exists_cut rfl hdown
  cases hx with
  | pulse => rfl
  | command hcommand hd => cases hd
  | reset hcommand _ =>
    rw [begin, Coordinator.begin_of_command _ _ _ _ hcommand, Coordinator.begin] at h
    exact absurd h (applyDownlink_ne_pulsing m.coordinator clock _ m.endpoint.world r others timer)

/-- While a check pulses the slots that it found silent, those that it has not finished with are
not flagged, if no check begins that finds a flagged slot silent. -/
theorem not_isKeyed_of_pulsing
    (hnever : ∀ m, Reaches may start m → m.pause = none → may m .check → m.IsKeyed s →
      s ∉ m.coordinator.stale)
    (hstart : start.pause = none) (h : Reaches may start m) {r : Slot} {others : List Slot}
    {timer : Timer} (hpause : m.pause = some (.pulsing r others timer)) (hs : s ∈ r :: others) :
    ¬m.IsKeyed s := by
  induction h generalizing r others timer with
  | refl => exact nomatch hstart.symm.trans hpause
  | @tail m m' hreaches hstep ih =>
    cases hstep with
    | drift _ => exact ih hpause hs
    | begin clock event hidle hmay =>
      obtain rfl := eq_check_of_pulsing hpause
      intro hkeyed
      have hplates := m.coordinator.plates_checkWatchdogs clock m.endpoint.world
      have hkeyed : m.IsKeyed s := ModuleTable.StaysBare.of_plates hplates hkeyed
      refine hnever m hreaches hidle hmay hkeyed ?_
      rcases (m.pulsing_check clock).pause with ⟨hnone, _⟩ | ⟨_, _, _, hpulsing, hstale⟩
      · exact nomatch hnone.symm.trans hpause
      · cases hpulsing.symm.trans hpause
        rw [hstale]
        exact hs
    | @resume pause clock hbefore =>
      cases pause with
      | cycling | resetting => cases hpause
      | refusing reply _ =>
        unfold resume Coordinator.resume Coordinator.refuse at hpause
        cases hsent : (reply.send clock m.endpoint).1 with
        | none => simp [hsent] at hpause
        | some waiting => simp [hsent] at hpause
      | pulsing r₀ others₀ timer₀ =>
        cases others₀ with
        | nil => cases hpause
        | cons r₁ others₁ =>
          cases hpause
          exact ih hbefore (List.mem_cons_of_mem _ hs)

/-- The part of an event that follows a pause takes power from the next slot that a check is to
pulse, and from no other. -/
theorem pulsing_of_resume {pause : Pause} (hon : m.hasPower s = true)
    (hoff : (m.resume clock pause).hasPower s = false) :
    ∃ r others timer, pause = .pulsing r others timer ∧ s ∈ others := by
  have hrestored (r : Slot) : ((rails m.endpoint.world).setPower r true).power s = true := by
    rw [hasPower] at hon
    by_cases hsr : s = r
    · simp [Rails.setPower, hsr]
    · simpa [Rails.setPower, hsr] using hon
  cases pause with
  | cycling r _ =>
    have hpower := congrFun (m.coordinator.power_finishTick r m.endpoint) s
    cases hoff.symm.trans (hpower.trans (hrestored r))
  | pulsing r others timer =>
    refine ⟨r, others, timer, rfl, ?_⟩
    unfold hasPower resume Coordinator.resume Coordinator.pulseNext at hoff
    cases others with
    | nil =>
      rw [Wired.rails_setPower, hrestored] at hoff
      cases hoff
    | cons r' rest =>
      dsimp only at hoff
      rw [Wired.rails_setPower, Wired.rails_setPower] at hoff
      by_cases hsr : s = r'
      · exact hsr ▸ List.mem_cons_self
      · have hkept :=
          Function.update_of_ne hsr false ((rails m.endpoint.world).setPower r true).power
        cases hoff.symm.trans (hkept.trans (hrestored r))
  | resetting r _ =>
    unfold hasPower resume Coordinator.resume at hoff
    rw [Wired.rails_setPower, hrestored] at hoff
    cases hoff
  | refusing reply _ =>
    unfold hasPower resume Coordinator.resume Coordinator.refuse at hoff
    dsimp only at hoff
    rw [rails_errorReply] at hoff
    cases hon.symm.trans hoff

/-! ## What becomes of the keys -/

/-- If no event takes the power of the slot while it is flagged, then a slot that has lost its power
since its key was agreed on is about to be power-cycled, or not flagged. -/
theorem cycling_of_lost {settings : Settings} {now : Nat} {node : Dispatcher} {w : W}
    (hs : s ≠ Slot.controller)
    (hnever : ∀ m clock event, Reaches may (boot settings now node w) m → m.pause = none →
      may m event → m.IsKeyed s → m.hasPower s = true → ¬m.CutsPower clock s event)
    (h : Traces may s (boot settings now node w) lost m) (hlost : lost = true)
    (hkeyed : m.IsKeyed s) : ∃ timer, m.pause = some (.cycling s timer) := by
  have hpulsed {m : Moment W} (hreaches : Reaches may (boot settings now node w) m) {r : Slot}
      {others : List Slot} {timer : Timer} (hpause : m.pause = some (.pulsing r others timer))
      (hmem : s ∈ r :: others) : ¬m.IsKeyed s := by
    refine not_isKeyed_of_pulsing (fun m hreaches hidle hmay hkeyed hstale => ?_) rfl hreaches
      hpause hmem
    -- A slot is silent only while it is enabled, and then it has power.
    have henabled := (Coordinator.mem_stale.mp hstale).1
    have hon := (((power_follows_state may hs).2 m hreaches hidle).1 henabled)
    exact hnever m ⟨0, 0⟩ .check hreaches hidle hmay hkeyed hon (.silent hstale)
  induction h with
  | start => cases hlost
  | agree => cases hlost
  | @other lost m m' htraces hstep ih =>
    have hreaches := reaches_iff_exists_traces.mpr ⟨lost, htraces⟩
    cases hstep with
    | @drift e hdrift =>
      have hsame : ({ m with endpoint := e } : Moment W).hasPower s = m.hasPower s :=
        congrFun (congrArg Rails.power hdrift.rails) s
      exact ih (by simpa [hsame] using hlost) hkeyed
    | begin clock event hidle hevent =>
      have hbefore : m.IsKeyed s := hkeyed.of_begin hevent.2
      cases hnow : lost with
      | true =>
        obtain ⟨timer, hpause⟩ := ih hnow hbefore
        exact nomatch hidle.symm.trans hpause
      | false =>
        obtain ⟨hon, hoff⟩ : m.hasPower s = true ∧ (m.begin clock event).hasPower s = false := by
          simpa [hnow] using hlost
        rcases cutsPower_of_begin hs hon hoff with hcycling | hcuts
        · exact hcycling
        · exact absurd hcuts (hnever m clock event hreaches hidle hevent.1 hbefore hon)
    | @resume pause clock hpause =>
      have hbefore : m.IsKeyed s := m.coordinator.staysBare_resume s m.endpoint clock pause hkeyed
      cases hnow : lost with
      | true =>
        -- The power cycle ends, and takes the key.
        obtain ⟨timer, hcycling⟩ := ih hnow hbefore
        cases hpause.symm.trans hcycling
        exact nomatch hkeyed.symm.trans (m.coordinator.hasKey_finishTick s m.endpoint)
      | false =>
        obtain ⟨hon, hoff⟩ : m.hasPower s = true ∧ (m.resume clock pause).hasPower s = false := by
          simpa [hnow] using hlost
        obtain ⟨r, others, timer, rfl, hmem⟩ := pulsing_of_resume hon hoff
        exact absurd hbefore (hpulsed hreaches hpause (List.mem_cons_of_mem r hmem))

/-- A step that takes the power of the slot is noted. -/
theorem Traces.lose (h : Traces may s start lost m)
    (hstep : Step (fun m event => may m event ∧ ¬m.Agrees event s) m m')
    (hon : m.hasPower s = true) (hoff : m'.hasPower s = false) : Traces may s start true m' := by
  simpa [hon, hoff] using h.other hstep

/-- The note lasts until a key is agreed on. -/
theorem Traces.keep (h : Traces may s start true m)
    (hstep : Step (fun m event => may m event ∧ ¬m.Agrees event s) m m') :
    Traces may s start true m' := by
  simpa using h.other hstep

omit [Wired W] in
/-- An event that takes the power of a slot is no request for a key. -/
theorem CutsPower.not_agrees (h : m.CutsPower clock s event) : ¬m.Agrees event s := by
  rintro ⟨request, rfl, hservice, -⟩
  have hnone : Event.command? (.message request) = none := if_neg (by simp [hservice])
  cases h with
  | asleep hnap => exact nomatch hservice.symm.trans (Coordinator.nap?_eq_some.mp hnap).1
  | off hcommand _ => exact nomatch hnone.symm.trans hcommand
  | reset hcommand _ _ => exact nomatch hnone.symm.trans hcommand

/-- A check goes on to its end, and if the slot is still to be pulsed, it loses its power before
that. The induction is on the slots that are left. -/
theorem exists_lost_of_pulsing {done others : List Slot} (hpulsing : m.Pulsing done others m')
    (h : Traces may s start lost m')
    (hleft : lost = true ∨ s ∈ others ∧ others.head? ≠ some s ∧ m'.hasPower s = true) :
    ∃ m'', Traces may s start true m'' ∧ m''.pause = none
      ∧ m''.coordinator = m'.coordinator := by
  induction others generalizing done lost m' with
  | nil =>
    obtain rfl : lost = true := hleft.resolve_right fun hmem => nomatch hmem.1
    rcases hpulsing.pause with ⟨hnone, _⟩ | ⟨_, _, _, _, hothers⟩
    · exact ⟨m', h, hnone, rfl⟩
    · cases hothers
  | cons r rest ih =>
    rcases hpulsing.pause with ⟨_, hothers⟩ | ⟨_, _, timer, hpause, hothers⟩
    · cases hothers
    · cases hothers
      obtain ⟨_, _, hothers, _, hnext⟩ := hpulsing.resume hpause ⟨0, 0⟩
      cases hothers
      have hstep : Step (fun m event => may m event ∧ ¬m.Agrees event s) m' _ :=
        .resume ⟨0, 0⟩ hpause
      have hpower := hnext.power s
      by_cases hfirst : rest.head? = some s
      · -- It is the slot's turn, unless it has lost its power already.
        rw [if_pos hfirst] at hpower
        rcases hleft with rfl | ⟨_, _, hon⟩
        · have hend := ih hnext (h.keep hstep) (.inl rfl)
          exact hend
        · have hend := ih hnext (h.lose hstep hon hpower) (.inl rfl)
          exact hend
      · have hend := ih hnext (h.other hstep)
        refine hend (hleft.imp (fun hlost => by simp [hlost]) ?_)
        rintro ⟨hmem, hother, hon⟩
        have hsr : s ≠ r := fun hsr => hother (by rw [hsr, List.head?_cons])
        have hbefore := hpulsing.power s
        rw [if_neg hother] at hbefore
        rw [if_neg hfirst] at hpower
        have hkept : (m'.resume ⟨0, 0⟩ (.pulsing r rest timer)).hasPower s = true := by
          refine hpower.trans ?_
          have hon := hbefore.symm.trans hon
          simp only [Bool.or_eq_true, decide_eq_true_eq, List.mem_append] at hon ⊢
          exact hon.imp_right .inl
        exact ⟨(List.mem_cons.mp hmem).resolve_left hsr, hfirst, hkept⟩

/-- When the power of the slot is taken while it is flagged, a run can go on to a moment between two
events at which the slot has lost its power and is flagged all the same. -/
theorem exists_lost (hs : s ≠ Slot.controller) (h : Traces may s start lost m)
    (hidle : m.pause = none) (hmay : may m event) (hon : m.hasPower s = true)
    (hcuts : m.CutsPower clock s event) :
    ∃ m', Traces may s start true m' ∧ m'.pause = none
      ∧ m'.coordinator.modules.badges = m.coordinator.modules.badges := by
  have hbegin : Step (fun m event => may m event ∧ ¬m.Agrees event s) m (m.begin clock event) :=
    .begin clock event hidle ⟨hmay, hcuts.not_agrees⟩
  have hbadges := hcuts.keeps.1
  cases hcuts with
  | exhausted hmetered hstate hbudget =>
    have hoff : (m.begin clock .period).hasPower s = false := by
      unfold hasPower begin Coordinator.begin
      dsimp only
      exact (Coordinator.power_energyUpdate_iff hon).mpr ⟨hmetered, hstate, hbudget⟩
    exact ⟨_, h.lose hbegin hon hoff, rfl, hbadges⟩
  | silent hstale =>
    have hpulsing := m.pulsing_check clock
    have hpower : (m.begin clock .check).hasPower s = _ := hpulsing.power s
    have hleft : (lost || (m.hasPower s && !(m.begin clock .check).hasPower s)) = true ∨
        s ∈ m.coordinator.stale ∧ m.coordinator.stale.head? ≠ some s
          ∧ (m.begin clock .check).hasPower s = true := by
      by_cases hfirst : m.coordinator.stale.head? = some s
      · rw [if_pos hfirst] at hpower
        exact .inl (by simp [hon, hpower])
      · rw [if_neg hfirst] at hpower
        exact .inr ⟨hstale, hfirst, hpower.trans (by rw [hasPower] at hon; simp [hon])⟩
    obtain ⟨m', htraces, hnone, hsame⟩ :=
      exists_lost_of_pulsing hpulsing (h.other hbegin) hleft
    exact ⟨m', htraces, hnone, (congrArg (·.modules.badges) hsame).trans hbadges⟩
  | @asleep request ms hnap =>
    have hmetered := (Coordinator.nap?_eq_some.mp hnap).2.2.2.2
    have hasleep : m.begin clock (.message request)
        = ⟨none, (m.coordinator.sleep clock.now s ms m.endpoint.world).1,
            { m.endpoint with
              world := (m.coordinator.sleep clock.now s ms m.endpoint.world).2 }⟩ := by
      rw [begin, Coordinator.begin_nap _ clock m.endpoint hnap]
    have hoff : (m.begin clock (.message request)).hasPower s = false := by
      rw [hasleep]
      simp [hasPower, Coordinator.sleep, hmetered, Coordinator.disable, Rails.setBus,
        Rails.setPower]
    exact ⟨_, h.lose hbegin hon hoff, by rw [hasleep], hbadges⟩
  | off hcommand hname =>
    have hdisabled : m.begin clock event
        = ⟨none, (m.coordinator.disable s .disabledOff m.endpoint.world).1,
            { m.endpoint with
              world := (m.coordinator.disable s .disabledOff m.endpoint.world).2 }⟩ := by
      rw [begin, Coordinator.begin_of_command _ _ _ _ hcommand, Coordinator.begin,
        Coordinator.applyDownlink_off clock hname hs]
    have hoff : (m.begin clock event).hasPower s = false := by
      rw [hdisabled]
      simp [hasPower, Coordinator.disable, Rails.setBus, Rails.setPower]
    exact ⟨_, h.lose hbegin hon hoff, by rw [hdisabled], hbadges⟩
  | reset hcommand hname hresettable =>
    obtain ⟨timer, hcut⟩ : ∃ timer, m.begin clock event
        = ⟨some (.resetting s timer), m.coordinator,
            { m.endpoint with world := Board.setPower s false m.endpoint.world }⟩ := by
      rw [begin, Coordinator.begin_of_command _ _ _ _ hcommand, Coordinator.begin,
        Coordinator.applyDownlink_reset clock hname hs hresettable]
      exact ⟨_, rfl⟩
    have hoff : (m.begin clock event).hasPower s = false := by
      rw [hcut]
      simp [hasPower, Rails.setPower]
    have hrestore : (m.begin clock event).pause = some (.resetting s timer) := by rw [hcut]
    exact ⟨_, (h.lose hbegin hon hoff).keep (.resume ⟨0, 0⟩ hrestore), rfl, hbadges⟩

/-- **Keys outlive the power.** Between the events of all runs, a module that has a key, by its flag
and in the dispatcher, has not lost its power since that key was agreed on, if and only if no event
of such a run takes the power of the module while it has a key: finds its budget used up, or it
silent, puts it to sleep, or switches it off or resets it from outside. None of these touches flag
or key. What does take the key is the end of a tick that power-cycled the module. -/
theorem keys_end_with_power_iff {settings : Settings} {now : Nat} {node : Dispatcher} {w : W}
    (hempty : node.keys = []) (may : Moment W → Event → Prop) {s : Slot}
    (hs : s ≠ Slot.controller) :
    ((∀ lost m, Traces may s (boot settings now node w) lost m → m.pause = none → m.HoldsKey s →
        lost = false)
      ↔ ∀ m clock event, Reaches may (boot settings now node w) m → m.pause = none →
        may m event → m.HoldsKey s → m.hasPower s = true → ¬m.CutsPower clock s event)
    ∧ (∀ (m : Moment W) clock event, m.CutsPower clock s event → m.HoldsKey s →
      (m.begin clock event).HoldsKey s)
    ∧ ∀ (m : Moment W) clock timer, ¬(m.resume clock (.cycling s timer)).HoldsKey s := by
  have hholds {m : Moment W} (h : Reaches may (boot settings now node w) m)
      (hkeyed : m.IsKeyed s) : m.HoldsKey s :=
    ⟨hkeyed, ((flags_match_keys hempty h).1 s).mp hkeyed⟩
  have hkeyed_of {m m' : Moment W}
      (hbadges : m'.coordinator.modules.badges = m.coordinator.modules.badges)
      (hkeyed : m.IsKeyed s) : m'.IsKeyed s :=
    (congrArg Prod.snd (congrFun hbadges s)).trans hkeyed
  refine ⟨⟨fun hnone m clock event hreaches hidle hmay hkey hon hcuts => ?_,
    fun hnever lost m htraces hidle hkey => ?_⟩, fun m clock event hcuts hkey => ?_,
    fun m clock timer hkey => ?_⟩
  · obtain ⟨lost, htraces⟩ := reaches_iff_exists_traces.mp hreaches
    obtain ⟨m', htraces', hidle', hbadges⟩ := exists_lost hs htraces hidle hmay hon hcuts
    have hkey' := hholds (reaches_iff_exists_traces.mpr ⟨_, htraces'⟩) (hkeyed_of hbadges hkey.1)
    cases hnone true m' htraces' hidle' hkey'
  · cases hnow : lost with
    | false => rfl
    | true =>
      obtain ⟨timer, hcycling⟩ := cycling_of_lost hs
        (fun m clock event hreaches hidle hmay hkeyed hon =>
          hnever m clock event hreaches hidle hmay (hholds hreaches hkeyed) hon)
        htraces hnow hkey.1
      exact nomatch hidle.symm.trans hcycling
  · obtain ⟨hbadges, hnode⟩ := hcuts.keeps
    obtain ⟨hkeyed, a, ha, hkey⟩ := hkey
    refine ⟨hkeyed_of hbadges hkeyed, a, ?_, hnode ▸ hkey⟩
    exact (congrArg Prod.fst (congrFun hbadges s)).trans ha
  · exact nomatch hkey.1.symm.trans (m.coordinator.hasKey_finishTick s m.endpoint)

/-- A module that has agreed on a key is switched off from outside, and still has its key with the
controller. -/
theorem key_outlives_power :
    deskBoot.endpoint.node.keys = [] ∧ Slot.last ≠ Slot.controller
      ∧ ¬∀ lost m, Traces (fun _ _ => True) Slot.last deskBoot lost m → m.pause = none →
        m.HoldsKey Slot.last → lost = false := by
  have hempty : deskBoot.endpoint.node.keys = [] := rfl
  have hmodule : Slot.last ≠ Slot.controller := by decide
  refine ⟨hempty, hmodule, fun hnone => ?_⟩
  have hnever := (keys_end_with_power_iff rfl (fun _ _ => True) hmodule).1.mp hnone
  have hidle : agreed.pause = none := by decide +kernel
  have hkeyed : (agreed.coordinator.modules.get Slot.last).hasKey = true := by decide +kernel
  have haddress : (agreed.coordinator.modules.get Slot.last).address
      = some Slot.last.assignedAddress := by decide +kernel
  have hkey : agreed.endpoint.node.hasKey Slot.last.assignedAddress = true := by
    decide +kernel
  have hname : agreed.coordinator.modules.findName? "m" = some Slot.last := by decide +kernel
  have hon : (rails agreed.endpoint.world).power Slot.last = true := by decide +kernel
  exact hnever agreed ⟨0, 3⟩ (.command (.off "m")) reaches_agreed hidle trivial
    ⟨hkeyed, _, haddress, hkey⟩ hon (.off rfl hname)

end Moment

end ModuleBus

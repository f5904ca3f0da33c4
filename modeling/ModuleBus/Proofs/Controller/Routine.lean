import ModuleBus.Proofs.Controller.Run

set_option autoImplicit false

/-! # The routine makes runs

Whatever a controller does in one step of its routine, its coordinator goes through a run. What
holds throughout all runs holds for a controller at work, then. -/

namespace ModuleBus.Controller

variable {W : Type} [Board W] [Link W] [Wired W]

/-- The pause that a controller is in. -/
def pause (c : Controller) : Option Pause :=
  match c.occupation with
  | .idle _ => none
  | .paused pause _ => some pause

/-- The moment that a controller is at in its world. -/
def moment (c : Controller) (e : Endpoint W) : Moment W := ⟨c.pause, c.coordinator, e⟩

/-- Runs in which any event may happen. -/
abbrev Runs (m m' : Moment W) : Prop := Moment.Reaches (fun _ _ => True) m m'

theorem runs_of_begin {m : Moment W} (clock : Clock) (event : Event) {pause : Option Pause}
    {coordinator : Coordinator} {e : Endpoint W} (hidle : m.pause = none)
    (h : m.coordinator.begin clock event m.endpoint = (pause, coordinator, e)) :
    Runs m ⟨pause, coordinator, e⟩ := by
  have hstep : Runs m (m.begin clock event) := .single (.begin clock event hidle trivial)
  rw [Moment.begin, h] at hstep
  exact hstep

omit [Link W] [Wired W] in
/-- A run of a controller at work begins where its coordinator has booted. -/
theorem moment_boot (settings : Settings) (clock : Clock) (node : Dispatcher) (w : W) :
    (boot settings clock w).1.moment ⟨node, (boot settings clock w).2⟩
      = Moment.boot settings clock.now node w :=
  rfl

variable (c : Controller) (clock : Clock) (now : Nat) (e : Endpoint W)

/-! ## Duties -/

theorem runs_afterCheck :
    Runs ⟨none, c.coordinator, e⟩
      ((c.afterCheck clock now e).1.moment (c.afterCheck clock now e).2) := by
  cases hwake : c.coordinator.wakeDue now e.world with
  | mk coordinator world =>
    rw [afterCheck, hwake]
    refine runs_of_begin ⟨now, 0⟩ .wake rfl ?_
    rw [Coordinator.begin, hwake]
    rfl

theorem runs_afterTick :
    Runs ⟨none, c.coordinator, e⟩
      ((c.afterTick clock now e).1.moment (c.afterTick clock now e).2) := by
  unfold afterTick
  split
  next c' e' hperiod =>
  have hrun : Runs ⟨none, c.coordinator, e⟩ ⟨none, c'.coordinator, e'⟩ := by
    split at hperiod
    · cases hupdate : c.coordinator.energyUpdate now e.world with
      | mk coordinator world =>
        rw [hupdate] at hperiod
        cases hperiod
        refine runs_of_begin ⟨now, 0⟩ .period rfl ?_
        rw [Coordinator.begin, hupdate]
    · cases hperiod
      exact .refl
  have hcheck {pause : Option Pause} {coordinator : Coordinator} {world : W}
      (h : c'.coordinator.checkWatchdogs clock e'.world = (pause, coordinator, world)) :
      Runs ⟨none, c'.coordinator, e'⟩ ⟨pause, coordinator, { e' with world := world }⟩ := by
    refine runs_of_begin clock .check rfl ?_
    rw [Coordinator.begin, h]
  refine hrun.trans ?_
  split
  · split
    · next h => exact hcheck h
    · next coordinator world h =>
      exact (hcheck h).trans
        (runs_afterCheck (scheduleCheck { c' with coordinator := coordinator } now) clock now _)
  · exact runs_afterCheck c' clock now e'

theorem runs_runDue :
    Runs ⟨none, c.coordinator, e⟩ ((c.runDue clock e).1.moment (c.runDue clock e).2) := by
  unfold runDue
  dsimp only
  split
  · split
    · next s coordinator e' h =>
      refine runs_of_begin clock .tick rfl ?_
      rw [Coordinator.begin, h]
      rfl
    · next event coordinator e' h =>
      have htick : Runs ⟨none, c.coordinator, e⟩ ⟨none, coordinator, e'⟩ := by
        refine runs_of_begin clock .tick rfl ?_
        rw [Coordinator.begin, h]
      exact htick.trans
        (runs_afterTick (scheduleTick { c with coordinator := coordinator } clock.now) clock
          clock.now e')
  · exact runs_afterTick c clock clock.now e

theorem runs_continueDuties (pause : Pause) :
    Runs ⟨none, c.coordinator, e⟩
      ((c.continueDuties clock pause now e).1.moment (c.continueDuties clock pause now e).2) := by
  unfold continueDuties
  split
  · exact runs_afterTick (c.scheduleTick now) clock now e
  · exact runs_afterCheck (c.scheduleCheck now) clock now e

/-! ## Steps -/

/-- **The routine makes runs.** One step of a controller at work takes its coordinator through
events, or through the second part of one. -/
theorem runs_step {c c' : Controller} {clock : Clock} {e e' : Endpoint W}
    (h : c.step clock e = some (c', e')) : Runs (c.moment e) (c'.moment e') := by
  unfold step at h
  split at h
  · next pause duties hoccupation =>
    have hpause : c.pause = some pause := by rw [Controller.pause, hoccupation]
    have hresume : Runs (c.moment e) ((c.moment e).resume clock pause) :=
      .single (.resume clock hpause)
    split at h
    · cases h
    · cases hnext : c.coordinator.resume clock pause e with
      | mk next rest =>
        obtain ⟨coordinator, e''⟩ := rest
        have hmoment : (c.moment e).resume clock pause = ⟨next, coordinator, e''⟩ := by
          rw [Moment.resume, moment, hnext]
        rw [hmoment] at hresume
        rw [hnext] at h
        cases next with
        | some next =>
          cases h
          exact hresume
        | none =>
          cases duties with
          | some now =>
            have hduties :=
              runs_continueDuties { c with coordinator := coordinator } clock now e'' pause
            rw [Option.some.inj h] at hduties
            exact hresume.trans hduties
          | none =>
            cases h
            exact hresume
  · next timer hoccupation =>
    have hidle : c.pause = none := by rw [Controller.pause, hoccupation]
    have hmoment : c.moment e = ⟨none, c.coordinator, e⟩ := by rw [moment, hidle]
    rw [hmoment]
    split at h
    · next m rest _ =>
      -- The dispatcher hands the message over, which the rest of the world may do at any time.
      have htake : Runs ⟨none, c.coordinator, e⟩
          ⟨none, c.coordinator, e.update fun d => { d with inbound := rest }⟩ :=
        .single (.drift ⟨rfl, rfl, rfl⟩)
      cases hreceive : c.coordinator.receive clock m
          (e.update fun d => { d with inbound := rest }) with
      | mk pause after =>
        obtain ⟨coordinator, e''⟩ := after
        dsimp only at h
        rw [hreceive] at h
        have hmessage : Runs ⟨none, c.coordinator, e⟩ ⟨pause, coordinator, e''⟩ :=
          htake.trans (runs_of_begin clock (.message m) rfl hreceive)
        dsimp only at h
        split at h
        · cases h
          exact hmessage
        · cases h
          exact hmessage
    · next fix fixes _ _ =>
      cases h
      exact runs_of_begin clock (.fix fix) rfl rfl
    · split at h
      · have hdue := runs_runDue c clock e
        rw [Option.some.inj h] at hdue
        exact hdue
      · cases h

end ModuleBus.Controller

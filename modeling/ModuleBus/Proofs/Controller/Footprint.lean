import ModuleBus.Controller.Coordinator

set_option autoImplicit false

/-! # What the coordinator does to its board

Whatever the coordinator handles, it acts on its board through a few operations: it switches rails
and lines, feeds the hardware watchdog, resets the counters, and writes its ledger at the start of
the memory. A property of the world that each of these operations keeps is therefore kept by every
event, and need not be shown function by function again. -/

namespace ModuleBus

/-- Some operations of the board, one after another. Of the memory they write nothing but a ledger
at its start. -/
inductive Board.Operates {W : Type} [Board W] : W → W → Prop
  | refl (w : W) : Operates w w
  | setPower {w w' : W} (s : Slot) (on : Bool) : Operates w w' → Operates w (Board.setPower s on w')
  | setBus {w w' : W} (s : Slot) (on : Bool) : Operates w w' → Operates w (Board.setBus s on w')
  | setGrant {w w' : W} (s : Slot) (on : Bool) : Operates w w' → Operates w (Board.setGrant s on w')
  | feedWatchdog {w w' : W} : Operates w w' → Operates w (Board.feedWatchdog w')
  | resetCounters {w w' : W} : Operates w w' → Operates w (Board.resetCounters w')
  | keep {w w' : W} (l : Ledger) : Operates w w' → Operates w (Board.writeMemory 0 l.toBytes w').2

namespace Board.Operates

variable {W : Type} [Board W] {w w' w'' : W}

theorem trans (h : Operates w w') (h' : Operates w' w'') : Operates w w'' := by
  induction h' with
  | refl => exact h
  | setPower s on _ ih => exact ih.setPower s on
  | setBus s on _ ih => exact ih.setBus s on
  | setGrant s on _ ih => exact ih.setGrant s on
  | feedWatchdog _ ih => exact ih.feedWatchdog
  | resetCounters _ ih => exact ih.resetCounters
  | keep l _ ih => exact ih.keep l

/-- Operations on some slots, one after another. -/
theorem foldl (f : W → Slot → W) (hf : ∀ w s, Operates w (f w s)) (slots : List Slot) (w : W) :
    Operates w (slots.foldl f w) := by
  induction slots generalizing w with
  | nil => exact refl w
  | cons s rest ih => exact (hf w s).trans (ih _)

end Board.Operates

open Board (Operates)

/-- Between two states of an endpoint the board was operated, and no request came or went. -/
structure Endpoint.OnBoard {W : Type} [Board W] (e e' : Endpoint W) : Prop where
  world : Operates e.world e'.world
  inbound : e'.node.inbound = e.node.inbound
  suite : e'.node.suite = e.node.suite

namespace Endpoint.OnBoard

variable {W : Type} [Board W] {e e' e'' : Endpoint W}

theorem refl (e : Endpoint W) : e.OnBoard e := ⟨.refl _, rfl, rfl⟩

theorem trans (h : e.OnBoard e') (h' : e'.OnBoard e'') : e.OnBoard e'' :=
  ⟨h.world.trans h'.world, h'.inbound.trans h.inbound, h'.suite.trans h.suite⟩

theorem of_operates {w : W} (h : Operates e.world w) : e.OnBoard { e with world := w } :=
  ⟨h, rfl, rfl⟩

end Endpoint.OnBoard

variable {W : Type} [Board W]

/-! ## The isolation scheduler -/

namespace Isolation

variable (i : Isolation) (t : ModuleTable) (s : Slot) (w : W)

theorem operates_connectOnly : Operates w (connectOnly s w) :=
  (Operates.foldl _ (fun w s => (Operates.refl w).setBus s false) moduleSlots w).setBus s true

theorem operates_restoreBuses : Operates w (restoreBuses t w) :=
  .foldl _ (fun w s => (Operates.refl w).setBus s _) moduleSlots w

theorem operates_scan : Operates w (i.scan t w).2.2 := by
  unfold scan
  dsimp only
  split
  · exact .refl w
  · next s _ => exact (operates_connectOnly s w).setGrant s true

theorem operates_release : Operates w (i.release t s w).2 :=
  ((Operates.refl w).setGrant s false).trans (operates_restoreBuses t _)

theorem operates_check : Operates w (i.check t s w).2.2.2 := by
  have hrelease := operates_release i t s w
  unfold check
  dsimp only
  split
  · exact hrelease
  · split
    · exact .refl w
    · split
      · exact hrelease
      · exact (hrelease.setBus s false).setPower s false

theorem operates_tick : Operates w (i.tick t w).2.2.2 := by
  unfold tick
  split
  · exact operates_scan i t w
  · next s _ =>
    have hcheck := operates_check i t s w
    split
    · next h =>
      rw [h] at hcheck
      exact hcheck
    · exact hcheck

theorem operates_finishCycle : Operates w (i.finishCycle t s w).2.2.2 := by
  have hon := (Operates.refl w).setPower s true
  unfold finishCycle
  dsimp only
  split
  · exact hon.setBus s true
  · exact hon

end Isolation

namespace Coordinator

/-- Work on some slots, one after another. -/
theorem operates_foldl (work : Coordinator → Slot → W → Coordinator × W)
    (h : ∀ c s w, Operates w (work c s w).2) (slots : List Slot) (c : Coordinator) (w : W) :
    Operates w (slots.foldl (fun (c, w) s => work c s w) (c, w)).2 := by
  induction slots generalizing c w with
  | nil => exact .refl w
  | cons s rest ih => exact (h c s w).trans (ih _ _)

variable (c : Coordinator) (s : Slot) (clock : Clock) (w : W) (e : Endpoint W)

/-! ## Boot and periods -/

theorem operates_persist (now : Nat) : Operates w (c.persist now w) :=
  (Operates.refl w).keep (c.accounts.snapshot now)

theorem operates_boot (settings : Settings) (now : Nat) : Operates w (boot settings now w).2 :=
  ((Operates.refl w).resetCounters.trans (.foldl _
    (fun w s => ((Operates.refl w).setPower s true).setBus s true) Isolation.moduleSlots _)).trans
    (operates_persist _ _ now)

theorem operates_disable (state : SlotPower) : Operates w (c.disable s state w).2 :=
  ((Operates.refl w).setPower s false).setBus s false

theorem operates_enable : Operates w (c.enable s w).2 := by
  have hon := (Operates.refl w).setPower s true
  unfold enable
  dsimp only
  split
  · exact hon.setBus s true
  · exact hon

theorem operates_applyBudget : Operates w (c.applyBudget s w).2 := by
  unfold applyBudget
  dsimp only
  split
  · split
    · exact operates_disable c s w _
    · exact .refl w
  · split
    · exact operates_enable c s w
    · exact .refl w
  · exact .refl w

theorem operates_energyUpdate (now : Nat) : Operates w (c.energyUpdate now w).2 := by
  unfold energyUpdate
  dsimp only
  refine Operates.trans ?_ (operates_persist _ _ now)
  exact ((Operates.refl w).resetCounters).trans
    (operates_foldl applyBudget operates_applyBudget Slot.metered _ _)

/-! ## Watchdogs, sleeps and commands -/

theorem operates_pulseNext (slots : List Slot) : Operates w (c.pulseNext clock slots w).2 := by
  cases slots with
  | nil => exact .refl w
  | cons s others => exact (Operates.refl w).setPower s false

theorem operates_checkWatchdogs : Operates w (c.checkWatchdogs clock w).2.2 := by
  unfold checkWatchdogs
  dsimp only
  exact operates_pulseNext _ clock w _

theorem operates_wake : Operates w (c.wake s w).2 := by
  unfold wake
  dsimp only
  split
  · split
    · exact operates_enable _ s w
    · exact .refl w
  · exact .refl w

theorem operates_wakeDue (now : Nat) : Operates w (c.wakeDue now w).2 :=
  operates_foldl wake operates_wake _ c w

theorem operates_sleep (now ms : Nat) : Operates w (c.sleep now s ms w).2 := by
  unfold sleep
  split
  · exact .refl w
  · exact operates_disable c s w .disabledDutyCycle

theorem operates_applyTo (command : DownlinkCommand) :
    Operates w (c.applyTo clock command s w).2.2 := by
  unfold applyTo
  dsimp only
  split
  · split
    · exact operates_enable c s w
    · exact .refl w
  · exact operates_disable c s w _
  · split
    · exact (Operates.refl w).setPower s false
    · exact .refl w
  · exact .refl w

theorem operates_applyDownlink (command : DownlinkCommand) :
    Operates w (c.applyDownlink clock command w).2.2 := by
  cases command with
  | hardReset => exact .refl w
  | on name | off name | reset name =>
    unfold applyDownlink
    dsimp only
    split
    · exact .refl w
    · exact operates_applyTo c _ clock w _

/-! ## Ticks -/

theorem onBoard_forgetKey : e.OnBoard (c.forgetKey s e).2 := by
  unfold forgetKey
  dsimp only
  split
  · exact ⟨.refl _, rfl, rfl⟩
  · exact .refl e

theorem onBoard_afterTick (event : IsolationEvent) : e.OnBoard (c.afterTick event e).2 := by
  have hfeed (stop : Bool) (e : Endpoint W) :
      e.OnBoard (if stop then e else { e with world := Board.feedWatchdog e.world }) := by
    cases stop with
    | true => exact .refl e
    | false => exact .of_operates (Operates.refl _).feedWatchdog
  cases event with
  | powerCycled s => exact (onBoard_forgetKey c s e).trans (hfeed _ _)
  | _ => exact hfeed _ e

theorem onBoard_isolationTick : e.OnBoard (c.isolationTick e).2.2 := by
  have htick := Isolation.operates_tick c.isolation c.modules e.world
  unfold isolationTick
  dsimp only
  split
  · exact (Endpoint.OnBoard.of_operates htick).trans (onBoard_afterTick _ _ _)
  · exact .of_operates htick

theorem onBoard_finishTick : e.OnBoard (c.finishTick s e).2.2 := by
  have hcycle := Isolation.operates_finishCycle c.isolation c.modules s e.world
  unfold finishTick
  dsimp only
  exact (Endpoint.OnBoard.of_operates hcycle).trans (onBoard_afterTick _ _ _)

end Coordinator

end ModuleBus

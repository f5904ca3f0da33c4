import ModuleBus.Proofs.Controller.KeyTable
import ModuleBus.Proofs.Controller.Run

set_option autoImplicit false

/-! # Keys throughout runs

Which module shares a key with the controller is written down twice: as a flag in the module table
and as a key in the dispatcher. Whatever the coordinator handles, the two match before and after,
and in the middle of an event too. Most events change neither what the slots show nor the keys; a
declaration, an agreement on a key, a revocation and a power cycle change both together, and each
does so before anything can fail, or after nothing can fail any more. -/

namespace ModuleBus

/-! ## What the slots show -/

namespace Isolation

variable {W : Type} [Board W] (i : Isolation) (t : ModuleTable) (w : W)

theorem plates_check (s : Slot) : (i.check t s w).2.2.1.plates = t.plates := by
  unfold check
  dsimp only
  split
  · exact t.plates_modify s _ rfl rfl rfl
  · split
    · rfl
    · have hcounted :=
        t.plates_modify s (fun r => { r with failures := r.failures + 1 }) rfl rfl rfl
      split
      · exact hcounted
      · exact (ModuleTable.plates_modify _ s _ rfl rfl rfl).trans hcounted

theorem plates_tick : (i.tick t w).2.2.1.plates = t.plates := by
  unfold tick
  split
  · rfl
  · next s _ =>
    have hcheck := plates_check i t w s
    split
    · next h =>
      rw [h] at hcheck
      exact hcheck
    · exact hcheck

theorem plates_finishCycle (s : Slot) : (i.finishCycle t s w).2.2.1.plates = t.plates := by
  have hreset := t.plates_modify s (fun r => { r with failures := 0 }) rfl rfl rfl
  unfold finishCycle
  dsimp only
  split
  · exact (ModuleTable.plates_modify _ s _ rfl rfl rfl).trans hreset
  · exact hreset

end Isolation

namespace Coordinator

/-- Work on some slots, one after another, shows no more than the work on each. -/
theorem plates_foldl {W : Type} (work : Coordinator → Slot → W → Coordinator × W)
    (h : ∀ c s w, (work c s w).1.modules.plates = c.modules.plates) (slots : List Slot)
    (c : Coordinator) (w : W) :
    (slots.foldl (fun (c, w) s => work c s w) (c, w)).1.modules.plates = c.modules.plates := by
  induction slots generalizing c w with
  | nil => rfl
  | cons s rest ih => exact (ih _ _).trans (h c s w)

theorem plates_checked (c : Coordinator) (slots : List Slot) :
    (c.checked slots).modules.plates = c.modules.plates := by
  induction slots generalizing c with
  | nil => rfl
  | cons s rest ih =>
    refine (ih _).trans (c.modules.plates_modify s _ ?_ ?_ ?_)
    · split <;> rfl
    · split <;> rfl
    · split <;> rfl

section

variable {W : Type} [Board W] (c : Coordinator)

theorem plates_disable (s : Slot) (state : SlotPower) (w : W) :
    (c.disable s state w).1.modules.plates = c.modules.plates :=
  c.modules.plates_modify s _ rfl rfl rfl

theorem plates_enable (s : Slot) (w : W) :
    (c.enable s w).1.modules.plates = c.modules.plates :=
  c.modules.plates_modify s _ rfl rfl rfl

theorem plates_applyBudget (s : Slot) (w : W) :
    (c.applyBudget s w).1.modules.plates = c.modules.plates := by
  unfold applyBudget
  dsimp only
  split
  · split
    · exact plates_disable c s _ w
    · rfl
  · split
    · exact plates_enable c s w
    · rfl
  · rfl

theorem plates_energyUpdate (now : Nat) (w : W) :
    (c.energyUpdate now w).1.modules.plates = c.modules.plates := by
  unfold energyUpdate
  dsimp only
  exact plates_foldl applyBudget plates_applyBudget Slot.metered _ _

theorem plates_checkWatchdogs (clock : Clock) (w : W) :
    (c.checkWatchdogs clock w).2.1.modules.plates = c.modules.plates :=
  plates_checked c Slot.all

theorem plates_wake (s : Slot) (w : W) : (c.wake s w).1.modules.plates = c.modules.plates := by
  unfold wake
  dsimp only
  split
  · split
    · exact plates_enable _ s w
    · exact c.modules.plates_modify s _ rfl rfl rfl
  · rfl

theorem plates_wakeDue (now : Nat) (w : W) :
    (c.wakeDue now w).1.modules.plates = c.modules.plates :=
  plates_foldl wake plates_wake _ c w

theorem plates_sleep (now : Nat) (s : Slot) (ms : Nat) (w : W) :
    (c.sleep now s ms w).1.modules.plates = c.modules.plates := by
  unfold sleep
  split
  · rfl
  · exact plates_disable c s .disabledDutyCycle w

theorem plates_applyTo (clock : Clock) (command : DownlinkCommand) (s : Slot) (w : W) :
    (c.applyTo clock command s w).2.1.modules.plates = c.modules.plates := by
  unfold applyTo
  dsimp only
  split
  · split
    · exact plates_enable c s w
    · exact c.modules.plates_modify s _ rfl rfl rfl
  · exact plates_disable c s _ w
  · split <;> rfl
  · rfl

theorem plates_applyDownlink (clock : Clock) (command : DownlinkCommand) (w : W) :
    (c.applyDownlink clock command w).2.1.modules.plates = c.modules.plates := by
  cases command with
  | hardReset => rfl
  | on name | off name | reset name =>
    unfold applyDownlink
    dsimp only
    split
    · rfl
    · exact plates_applyTo c clock _ _ w

variable [Link W] (clock : Clock) (m : Message) (e : Endpoint W)

theorem plates_handleEnergy :
    (c.handleEnergy clock m e).2.1.modules.plates = c.modules.plates := by
  unfold handleEnergy
  split
  · rfl
  · next s entity _ =>
    dsimp only
    split
    · rfl
    · rfl
    · rfl
    · split
      · obtain ⟨all, hreport⟩ :=
          applyReport_frame c entity (ReportEntry.decodeReport m.payload)
        rw [hreport]
        rfl
      · rfl
    · split
      · rfl
      · exact plates_sleep c clock.now s _ e.world

omit [Board W] in
theorem plates_handleTimeLocation :
    (c.handleTimeLocation m e).2.1.modules.plates = c.modules.plates := by
  unfold handleTimeLocation
  dsimp only
  split <;> rfl

omit [Board W] in
theorem plates_handleWatchdog :
    (c.handleWatchdog m e).2.1.modules.plates = c.modules.plates := by
  unfold handleWatchdog
  split
  · rfl
  · split
    · rfl
    · exact c.modules.plates_modify _ _ rfl rfl rfl

omit [Link W] in
theorem plates_handleNetworking :
    (c.handleNetworking clock m e).2.1.modules.plates = c.modules.plates := by
  unfold handleNetworking
  split
  · split
    · rfl
    · split
      · rfl
      · exact plates_applyDownlink c clock _ e.world
  · rfl

/-- Only an initialization request changes what the slots show. -/
theorem plates_handle (h : m.service ≠ .initialization) :
    (c.handle clock m e).2.1.modules.plates = c.modules.plates := by
  unfold handle
  split
  · next hservice => exact absurd hservice h
  · exact plates_handleEnergy c clock m e
  · exact plates_handleTimeLocation c m e
  · exact plates_handleWatchdog c m e
  · exact plates_handleNetworking c clock m e
  · rfl

end

/-! ## Keys that are forgotten, and keys that are agreed -/

variable {W : Type}

/-- The flags in the module table match the keys of the dispatcher. -/
def KeysMatch (c : Coordinator) (e : Endpoint W) : Prop := c.modules.KeysMatch e.node

variable {c c' : Coordinator} {e e' : Endpoint W}

/-- What shows neither at the slots nor at the keys. -/
theorem KeysMatch.frame (h : c.KeysMatch e) (hplates : c'.modules.plates = c.modules.plates)
    (hkeys : e'.node.keys = e.node.keys) : c'.KeysMatch e' :=
  ModuleTable.KeysMatch.congr h (ModuleTable.badges_of_plates hplates)
    (Dispatcher.hasKey_of_keys hkeys)

/-- The slot that is power-cycled loses its key. -/
theorem keysMatch_forgetKey (h : c.KeysMatch e) (s : Slot) :
    (c.forgetKey s e).1.KeysMatch (c.forgetKey s e).2 := by
  unfold forgetKey
  dsimp only
  split
  · next a ha => exact ModuleTable.KeysMatch.forget h ha
  · next hnone =>
    -- A slot without an address has no key in the first place.
    have hflag : (c.modules.get s).hasKey = false := by
      refine Bool.eq_false_iff.mpr fun hkey => ?_
      obtain ⟨a, ha, _⟩ := (ModuleTable.KeysMatch.hasKey_iff h s).mp hkey
      exact nomatch hnone.symm.trans ha
    exact h.frame (c.modules.plates_modify s _ rfl rfl hflag.symm) rfl

section

variable [Link W] (m : Message)

/-- The flags and keys match after a request. -/
def Handling.KeysMatch (h : Handling W) : Prop := h.2.1.KeysMatch h.2.2

theorem keysMatch_reply (h : c.KeysMatch e) (payload : Bytes) :
    Handling.KeysMatch (c.reply m payload e) :=
  h.frame rfl (e.keys_sendEnvelope _ _ _)

/-- A declaration takes the keys of both addresses, the old and the new one, before it is
answered. -/
theorem keysMatch_declare (h : c.KeysMatch e) : Handling.KeysMatch (c.declare m e) := by
  unfold declare
  split
  · exact h
  · next s _ =>
    dsimp only
    refine keysMatch_reply m ?_ _
    generalize (if m.source = .unassigned then s.assignedAddress else m.source) = a
    refine ModuleTable.KeysMatch.assign h _ fun b => ?_
    rw [Endpoint.update, Dispatcher.hasKey_revokeKey, ModuleTable.assign]
    by_cases hba : b = a
    · simp [hba]
    · rw [if_neg hba]
      cases hold : (c.modules.get s).address with
      | none => simp [hba]
      | some old =>
        by_cases hkept : old = a
        · -- The address stays, and its key is forgotten once.
          have hprevious : (some old).filter (· != a) = none := by simp [hkept]
          have hother : old ≠ b := fun h => hba (h.symm.trans hkept)
          simp [hprevious, hba, hother]
        · have hprevious : (some old).filter (· != a) = some old := by simp [hkept]
          rw [hprevious]
          dsimp only [Endpoint.update]
          rw [Dispatcher.hasKey_revokeKey]
          by_cases hold : b = old
          · simp [hold]
          · have hother : old ≠ b := fun h => hold h.symm
            simp [hold, hba, hother]

/-- A key is kept and the slot flagged once the answer is written, or neither is done. -/
theorem keysMatch_exchangeKey (h : c.KeysMatch e) : Handling.KeysMatch (c.exchangeKey m e) := by
  unfold exchangeKey
  split
  · exact h
  · next s hs =>
    dsimp only
    split
    · exact h.frame rfl rfl
    · next key _ =>
      have hreply := keysMatch_reply m (c := c)
        (e := e.update fun d => { d with entropy := d.entropy.next }) (h.frame rfl rfl)
        (e.node.suite.publicPoint e.node.entropy.secret)
      split
      · next hwritten =>
        rw [hwritten] at hreply
        exact hreply
      · next c' e' hwritten =>
        rw [hwritten] at hreply
        have hsame : c' = c := (congrArg (fun result => result.2.1) hwritten).symm
        rw [hsame] at hreply ⊢
        exact ModuleTable.KeysMatch.install hreply (ModuleTable.address_of_slotOf? hs) key

theorem keysMatch_handleInitialization (h : c.KeysMatch e) :
    Handling.KeysMatch (c.handleInitialization m e) := by
  unfold handleInitialization
  split
  · exact h
  · exact keysMatch_declare m h
  · exact keysMatch_exchangeKey m h
  · exact keysMatch_reply m h _
  · refine keysMatch_reply m ?_ _
    split
    · next s hs =>
      exact ModuleTable.KeysMatch.forget h (ModuleTable.address_of_slotOf? hs)
    · next hnone =>
      exact ModuleTable.KeysMatch.revoke_stranger h (ModuleTable.address_ne_of_slotOf? hnone)
  · exact keysMatch_reply m h _

end

/-! ## Events -/

section

variable [Board W]

theorem keysMatch_afterTick (h : c.KeysMatch e) (event : IsolationEvent) :
    (c.afterTick event e).1.KeysMatch (c.afterTick event e).2 := by
  unfold afterTick
  split
  · next c' e' hevent =>
    have hmatch : c'.KeysMatch e' := by
      split at hevent
      · next s =>
        have hforget := keysMatch_forgetKey h s
        rw [hevent] at hforget
        exact hforget
      · cases hevent
        exact h
    split
    · exact hmatch
    · exact hmatch

theorem keysMatch_isolationTick (h : c.KeysMatch e) :
    (c.isolationTick e).2.1.KeysMatch (c.isolationTick e).2.2 := by
  have hticked : KeysMatch
      { c with
        isolation := (c.isolation.tick c.modules e.world).2.1
        modules := (c.isolation.tick c.modules e.world).2.2.1 }
      { e with world := (c.isolation.tick c.modules e.world).2.2.2 } :=
    h.frame (Isolation.plates_tick c.isolation c.modules e.world) rfl
  unfold isolationTick
  dsimp only
  split
  · exact keysMatch_afterTick hticked _
  · exact hticked

theorem keysMatch_finishTick (h : c.KeysMatch e) (s : Slot) :
    (c.finishTick s e).2.1.KeysMatch (c.finishTick s e).2.2 := by
  have hcycled : KeysMatch
      { c with
        isolation := (c.isolation.finishCycle c.modules s e.world).2.1
        modules := (c.isolation.finishCycle c.modules s e.world).2.2.1 }
      { e with world := (c.isolation.finishCycle c.modules s e.world).2.2.2 } :=
    h.frame (Isolation.plates_finishCycle c.isolation c.modules e.world s) rfl
  unfold finishTick
  dsimp only
  exact keysMatch_afterTick hcycled _

variable [Link W] (m : Message) (clock : Clock)

theorem keysMatch_handleEnergy (h : c.KeysMatch e) :
    Handling.KeysMatch (c.handleEnergy clock m e) := by
  unfold handleEnergy
  split
  · exact h
  · next s entity _ =>
    dsimp only
    split
    · exact h
    · exact keysMatch_reply m h _
    · exact keysMatch_reply m (h.frame rfl rfl) _
    · split
      · obtain ⟨all, hreport⟩ :=
          applyReport_frame c entity (ReportEntry.decodeReport m.payload)
        rw [hreport]
        exact keysMatch_reply m (h.frame rfl rfl) _
      · exact h
    · split
      · exact h
      · next ms _ => exact h.frame (plates_sleep c clock.now s ms e.world) rfl

omit [Board W] in
theorem keysMatch_handleTimeLocation (h : c.KeysMatch e) :
    Handling.KeysMatch (c.handleTimeLocation m e) := by
  unfold handleTimeLocation
  dsimp only
  split
  · exact keysMatch_reply m h _
  · exact keysMatch_reply m h _
  · exact h
  · exact h

omit [Board W] in
theorem keysMatch_handleWatchdog (h : c.KeysMatch e) :
    Handling.KeysMatch (c.handleWatchdog m e) := by
  unfold handleWatchdog
  split
  · exact h
  · split
    · exact h
    · next s _ => exact keysMatch_reply m (h.frame (c.modules.plates_modify s _ rfl rfl rfl) rfl) _

omit [Link W] in
theorem keysMatch_handleNetworking (h : c.KeysMatch e) :
    Handling.KeysMatch (c.handleNetworking clock m e) := by
  unfold handleNetworking
  split
  · split
    · exact h
    · split
      · exact h
      · next command _ => exact h.frame (plates_applyDownlink c clock command e.world) rfl
  · exact h

theorem keysMatch_handle (h : c.KeysMatch e) : Handling.KeysMatch (c.handle clock m e) := by
  unfold handle
  split
  · exact keysMatch_handleInitialization m h
  · exact keysMatch_handleEnergy m clock h
  · exact keysMatch_handleTimeLocation m h
  · exact keysMatch_handleWatchdog m h
  · exact keysMatch_handleNetworking m clock h
  · exact h

theorem keysMatch_receive (h : c.KeysMatch e) :
    (c.receive clock m e).2.1.KeysMatch (c.receive clock m e).2.2 := by
  have hhandle := keysMatch_handle m clock h
  unfold receive
  split
  · next hok =>
    rw [hok] at hhandle
    exact hhandle
  · next hrefused =>
    rw [hrefused] at hhandle
    split
    · exact hhandle.frame rfl (ErrorReply.keys_send _ clock _)
    · exact hhandle

/-- Whatever event the coordinator handles, the flags and the keys match afterwards. -/
theorem keysMatch_begin (h : c.KeysMatch e) (event : Event) :
    (c.begin clock event e).2.1.KeysMatch (c.begin clock event e).2.2 := by
  cases event with
  | tick =>
    have htick := keysMatch_isolationTick h
    unfold begin
    dsimp only
    split
    · next hdone => rw [hdone] at htick; exact htick
    · next hcycling => rw [hcycling] at htick; exact htick
  | period =>
    unfold begin
    dsimp only
    exact h.frame (plates_energyUpdate c clock.now e.world) rfl
  | check =>
    unfold begin
    dsimp only
    exact h.frame (plates_checkWatchdogs c clock e.world) rfl
  | wake =>
    unfold begin
    dsimp only
    exact h.frame (plates_wakeDue c clock.now e.world) rfl
  | command d =>
    unfold begin
    dsimp only
    exact h.frame (plates_applyDownlink c clock d e.world) rfl
  | message m => exact keysMatch_receive m clock h
  | fix _ => exact h

theorem keysMatch_resume (h : c.KeysMatch e) (pause : Pause) :
    (c.resume clock pause e).2.1.KeysMatch (c.resume clock pause e).2.2 := by
  cases pause with
  | cycling s _ => exact keysMatch_finishTick h s
  | pulsing _ _ _ | resetting _ _ => exact h
  | refusing r _ => exact h.frame rfl (ErrorReply.keys_send r clock e)

end

end Coordinator

/-! ## All runs -/

namespace Moment

variable {W : Type} [Board W] [Link W]

/-- The flags match the keys at a moment. -/
def KeysMatch (m : Moment W) : Prop := m.coordinator.KeysMatch m.endpoint

omit [Link W] in
/-- The table of a controller that has just booted flags nobody and knows only the controller. -/
theorem keysMatch_boot (settings : Settings) (now : Nat) {node : Dispatcher} (w : W)
    (hempty : node.keys = []) : (boot settings now node w).KeysMatch := by
  have hnone (a : Address) : node.hasKey a = false := by
    rw [Dispatcher.hasKey, Dispatcher.key?, hempty]
    rfl
  have haddress (s : Slot) : (ModuleTable.start.get s).address
      = if s = Slot.controller then some .controller else none := by
    revert s
    decide
  have hflag (s : Slot) : (ModuleTable.start.get s).hasKey = false := by
    revert s
    decide
  refine ModuleTable.KeysMatch.congr (t := ModuleTable.start) (d := node) ?_ rfl fun _ => rfl
  refine ⟨fun {s r a} hs hr => ?_, fun s => ?_, fun {a} ha => ?_⟩
  · rw [haddress] at hs hr
    split at hs
    · split at hr
      · simp [*]
      · cases hr
    · cases hs
  · simp [hflag, hnone]
  · rw [hnone] at ha
    cases ha

variable [Wired W] {may : Moment W → Event → Prop} {m m' : Moment W}

/-- One step keeps the flags and the keys matched. -/
theorem KeysMatch.step (h : m.KeysMatch) (hstep : Step may m m') : m'.KeysMatch := by
  cases hstep with
  | drift hdrift => exact h.frame rfl hdrift.keys
  | begin clock event _ _ => exact Coordinator.keysMatch_begin clock h event
  | resume clock _ => exact Coordinator.keysMatch_resume clock h _

/-- So does a run. -/
theorem KeysMatch.reaches (h : m.KeysMatch) (hrun : Reaches may m m') : m'.KeysMatch := by
  induction hrun with
  | refl => exact h
  | tail _ hstep ih => exact ih.step hstep

/-- **The module table knows the keys.** From boot with an empty key store on, whatever events
happen, whatever they are interleaved with and wherever one of them pauses: a slot is flagged
exactly if it has an address for which the dispatcher holds a key, and the dispatcher holds no key
for an address that no slot has. -/
theorem flags_match_keys {settings : Settings} {now : Nat} {node : Dispatcher} {w : W}
    (hempty : node.keys = []) (h : Reaches may (boot settings now node w) m) :
    (∀ s, (m.coordinator.modules.get s).hasKey = true ↔
      ∃ a, (m.coordinator.modules.get s).address = some a ∧ m.endpoint.node.hasKey a = true)
    ∧ ∀ a, m.endpoint.node.hasKey a = true →
      ∃ s, (m.coordinator.modules.get s).address = some a := by
  have hmatch : m.KeysMatch := (keysMatch_boot settings now w hempty).reaches h
  exact ⟨hmatch.hasKey_iff, fun _ => hmatch.exists_slot⟩

/-- The module on the desk agrees on a key. -/
def agreed : Moment DeskWorld :=
  declared.begin ⟨0, 2⟩
    (.message ⟨Slot.last.assignedAddress, .controller, .command, .initialization, 1, [7]⟩)

theorem reaches_agreed : Reaches (fun _ _ => True) deskBoot agreed :=
  reaches_declared.tail (.begin ⟨0, 2⟩ _ (by decide +kernel) trivial)

/-- A module is flagged that has just agreed on a key, and there is a key for its address. -/
theorem agreed_key_is_flagged :
    (agreed.coordinator.modules.get Slot.last).hasKey = true
      ∧ ∃ a, (agreed.coordinator.modules.get Slot.last).address = some a
        ∧ agreed.endpoint.node.hasKey a = true := by
  have hflag : (agreed.coordinator.modules.get Slot.last).hasKey = true := by decide +kernel
  have hmatch := flags_match_keys rfl reaches_agreed
  exact ⟨hflag, (hmatch.1 Slot.last).mp hflag⟩

end Moment

end ModuleBus

import ModuleBus.Proofs.Accounts.Ledger
import ModuleBus.Proofs.Controller.Answers
import ModuleBus.Proofs.Controller.Run

set_option autoImplicit false

/-! # Reboots

The controller writes its ledger at the start of a memory that survives a loss of power, and takes
it up again at the next boot. In a world that is `Durable` the memory can be seen. A board has a
life: it boots, handles events, loses its power and boots again, and in between the rest of the
world does anything but write to the memory. Throughout such a life the bytes that follow the
ledger stay as they are, and whenever the accounts are written, any number of reboots finds them
there again. -/

namespace ModuleBus

/-- A world in which the memory of the board can be seen: `memory?` is what the memory holds, or
nothing where it fails. -/
class Durable (W : Type) [Board W] [Link W] where
  memory? : W → Option Bytes
  memory?_setPower (s : Slot) (on : Bool) (w : W) : memory? (Board.setPower s on w) = memory? w
  memory?_setBus (s : Slot) (on : Bool) (w : W) : memory? (Board.setBus s on w) = memory? w
  memory?_setGrant (s : Slot) (on : Bool) (w : W) : memory? (Board.setGrant s on w) = memory? w
  memory?_feedWatchdog (w : W) : memory? (Board.feedWatchdog w) = memory? w
  memory?_resetCounters (w : W) : memory? (Board.resetCounters w) = memory? w
  memory?_write (p : Port) (a : Address) (packet : Bytes) (w : W) :
    memory? (Link.write p a packet w).2 = memory? w
  readMemory_eq {w : W} {memory : Bytes} (h : memory? w = some memory) (offset count : Nat) :
    Board.readMemory w offset count = .ok ((memory.drop offset).take count)
  memory?_writeMemory (offset : Nat) (data : Bytes) (w : W) :
    memory? (Board.writeMemory offset data w).2 = (memory? w).map (extendMemory · offset data)

open Durable (memory?)

/-! ## Worlds with a memory -/

instance : Durable Backplane where
  memory? b := some b.memory
  memory?_setPower _ _ _ := rfl
  memory?_setBus _ _ _ := rfl
  memory?_setGrant _ _ _ := rfl
  memory?_feedWatchdog _ := rfl
  memory?_resetCounters _ := rfl
  memory?_write p a packet b := by
    obtain ⟨ports, h⟩ := Backplane.write_eq p a packet b
    simp only [Link.write, h]
  readMemory_eq h offset count := by
    cases h
    rfl
  memory?_writeMemory _ _ _ := rfl

/-- What the memory on the desk holds, unless it was told to fail. -/
def DeskBoard.memory? (b : DeskBoard) : Option Bytes :=
  if b.readFailure.isNone ∧ b.writeFailure.isNone then some b.memory else none

instance : Durable DeskWorld where
  memory? w := w.board.memory?
  memory?_setPower _ _ _ := rfl
  memory?_setBus _ _ _ := rfl
  memory?_setGrant _ _ _ := rfl
  memory?_feedWatchdog _ := rfl
  memory?_resetCounters _ := rfl
  memory?_write _ _ _ _ := rfl
  readMemory_eq {w memory} h offset count := by
    unfold DeskBoard.memory? at h
    split at h
    · next hworks =>
      cases h
      simp only [Board.readMemory, Option.isNone_iff_eq_none.mp hworks.1]
    · cases h
  memory?_writeMemory offset data w := by
    simp only [Board.writeMemory]
    cases hfailure : w.board.writeFailure with
    | none =>
      simp only [DeskBoard.memory?, hfailure]
      split <;> rfl
    | some text => simp [DeskBoard.memory?, hfailure]

variable {W : Type} [Board W] [Link W] [Durable W]

/-! ## What follows the ledger

No operation of the board and no packet reaches it. -/

/-- The bytes of the memory that follow the ledger. -/
def beyondLedger? (w : W) : Option Bytes := (memory? w).map (·.drop Ledger.size)

theorem beyondLedger?_operates {w w' : W} (h : Board.Operates w w') :
    beyondLedger? w' = beyondLedger? w := by
  induction h with
  | refl => rfl
  | keep l _ ih =>
    rw [← ih, beyondLedger?, Durable.memory?_writeMemory, Option.map_map]
    refine congrArg (Option.map · _) (funext fun memory => ?_)
    rw [Function.comp, extendMemory_zero, List.drop_left' l.length_toBytes, l.length_toBytes]
  | setPower | setBus | setGrant | feedWatchdog | resetCounters =>
    rename_i ih
    rw [← ih]
    simp only [beyondLedger?, Durable.memory?_setPower, Durable.memory?_setBus,
      Durable.memory?_setGrant, Durable.memory?_feedWatchdog, Durable.memory?_resetCounters]

theorem beyondLedger?_write (p : Port) (a : Address) (packet : Bytes) (w : W) :
    beyondLedger? (Link.write p a packet w).2 = beyondLedger? w := by
  rw [beyondLedger?, Durable.memory?_write, beyondLedger?]

namespace Coordinator

/-- A request, however it ends. -/
theorem Concludes.beyondLedger? {m : Message} {e : Endpoint W} {h : Handling W}
    (hends : Concludes m e h) :
    ModuleBus.beyondLedger? h.2.2.world = ModuleBus.beyondLedger? e.world := by
  have hreply (e₁ : Endpoint W) (payload : Bytes) :
      ModuleBus.beyondLedger? (e₁.reply m payload).2.world = ModuleBus.beyondLedger? e₁.world :=
    view_sendEnvelope beyondLedger?_write e₁ _ _ _
  cases hends with
  | silent _ _ hboard => exact beyondLedger?_operates hboard.world
  | @answered _ e₁ _ _ _ payload hboard hwritten hafter =>
    have hreply := hreply e₁ payload
    rw [hwritten] at hreply
    exact ((beyondLedger?_operates hafter.world).trans hreply).trans
      (beyondLedger?_operates hboard.world)
  | @interrupted _ e₁ _ _ payload hboard hwritten =>
    have hreply := hreply e₁ payload
    rw [hwritten] at hreply
    exact hreply.trans (beyondLedger?_operates hboard.world)

theorem beyondLedger?_receive (c : Coordinator) (clock : Clock) (m : Message) (e : Endpoint W) :
    ModuleBus.beyondLedger? (c.receive clock m e).2.2.world = ModuleBus.beyondLedger? e.world := by
  have hhandle := (concludes_handle c clock m (e := e)).beyondLedger?
  unfold receive
  split
  · next h =>
    rw [h] at hhandle
    exact hhandle
  · next h =>
    rw [h] at hhandle
    split
    · exact (view_errorReply beyondLedger?_write _ clock _).trans hhandle
    · exact hhandle

theorem beyondLedger?_begin (c : Coordinator) (clock : Clock) (event : Event) (e : Endpoint W) :
    ModuleBus.beyondLedger? (c.begin clock event e).2.2.world
      = ModuleBus.beyondLedger? e.world := by
  unfold begin
  cases event with
  | tick =>
    have htick := beyondLedger?_operates (onBoard_isolationTick c e).world
    dsimp only
    split
    · next h =>
      rw [h] at htick
      exact htick
    · next h =>
      rw [h] at htick
      exact htick
  | period =>
    dsimp only
    exact beyondLedger?_operates (operates_energyUpdate c e.world clock.now)
  | check =>
    dsimp only
    exact beyondLedger?_operates (operates_checkWatchdogs c clock e.world)
  | wake =>
    dsimp only
    exact beyondLedger?_operates (operates_wakeDue c e.world clock.now)
  | command d =>
    dsimp only
    exact beyondLedger?_operates (operates_applyDownlink c clock e.world d)
  | message m => exact beyondLedger?_receive c clock m e
  | fix _ => rfl

theorem beyondLedger?_resume (c : Coordinator) (clock : Clock) (pause : Pause) (e : Endpoint W) :
    ModuleBus.beyondLedger? (c.resume clock pause e).2.2.world
      = ModuleBus.beyondLedger? e.world := by
  cases pause with
  | cycling s _ => exact beyondLedger?_operates (onBoard_finishTick c s e).world
  | pulsing s others _ =>
    exact beyondLedger?_operates (((Board.Operates.refl e.world).setPower s true).trans
      (operates_pulseNext c clock _ others))
  | resetting s _ => exact beyondLedger?_operates ((Board.Operates.refl e.world).setPower s true)
  | refusing r _ => exact view_errorReply beyondLedger?_write r clock e

end Coordinator

/-! ## Lives -/

/-- The life of a board that first boots in the world `w₀`, up to a moment. -/
inductive Life (w₀ : W) : Moment W → Prop
  | boot (settings : Settings) (now : Nat) (node : Dispatcher) :
      Life w₀ (.boot settings now node w₀)
  | begin {m : Moment W} (clock : Clock) (event : Event) : Life w₀ m → m.pause = none →
      Life w₀ (m.begin clock event)
  | resume {m : Moment W} {pause : Pause} (clock : Clock) : Life w₀ m → m.pause = some pause →
      Life w₀ (m.resume clock pause)
  /-- The rest of the world does something. -/
  | drift {m : Moment W} {e : Endpoint W} : Life w₀ m →
      memory? e.world = memory? m.endpoint.world → Life w₀ { m with endpoint := e }
  /-- The controller loses its power, and boots again. -/
  | reboot {m : Moment W} {w : W} (settings : Settings) (now : Nat) (node : Dispatcher) :
      Life w₀ m → memory? w = memory? m.endpoint.world → Life w₀ (.boot settings now node w)

/-- Throughout a life, what follows the ledger stays. -/
theorem Life.beyondLedger?_eq {w₀ : W} {m : Moment W} (h : Life w₀ m) :
    beyondLedger? m.endpoint.world = beyondLedger? w₀ := by
  have hsame {w w' : W} (hmemory : memory? w' = memory? w) :
      beyondLedger? w' = beyondLedger? w := by
    rw [beyondLedger?, hmemory, beyondLedger?]
  induction h with
  | boot settings now _ => exact beyondLedger?_operates (Coordinator.operates_boot w₀ settings now)
  | begin clock event _ _ ih => exact (Coordinator.beyondLedger?_begin _ clock event _).trans ih
  | resume clock _ _ ih => exact (Coordinator.beyondLedger?_resume _ clock _ _).trans ih
  | drift _ hmemory ih => exact (hsame hmemory).trans ih
  | @reboot m w settings now _ _ hmemory ih =>
    exact (beyondLedger?_operates (Coordinator.operates_boot w settings now)).trans
      ((hsame hmemory).trans ih)

/-! ## Boots from a ledger -/

/-- Reboots, one or more, that find the memory as the last writer left it, and a battery with a
gauge: the coordinator of the last one, its instant, and the world after it. -/
inductive Reboots (w : W) : Coordinator → Nat → W → Prop
  | first {w₁ : W} (settings : Settings) (now charge : Nat) :
      memory? w₁ = memory? w → Board.charge? w₁ = some charge →
      Reboots w (Coordinator.boot settings now w₁).1 now (Coordinator.boot settings now w₁).2
  | again {c : Coordinator} {before : Nat} {w' w₁ : W} (settings : Settings) (now charge : Nat) :
      Reboots w c before w' → memory? w₁ = memory? w' → Board.charge? w₁ = some charge →
      Reboots w (Coordinator.boot settings now w₁).1 now (Coordinator.boot settings now w₁).2

namespace Coordinator

/-- A ledger that is written can be loaded. -/
theorem loadLedger_of_memory {w : W} {l : Ledger} (hfits : l.Fits) {rest : Bytes}
    (hmemory : memory? w = some (l.toBytes ++ rest)) : loadLedger w = .ok l := by
  have hread := Durable.readMemory_eq hmemory 0 Ledger.size
  rw [List.drop_zero, List.take_left' l.length_toBytes] at hread
  rw [loadLedger, hread]
  exact Ledger.parse_toBytes hfits

theorem memory?_persist (c : Coordinator) (now : Nat) (w : W) :
    memory? (c.persist now w) = (memory? w).map fun memory =>
      (c.accounts.snapshot now).toBytes ++ memory.drop Ledger.size := by
  rw [persist, Durable.memory?_writeMemory]
  refine congrArg (Option.map · _) (funext fun memory => ?_)
  rw [extendMemory_zero, Ledger.length_toBytes]

/-- Switching the slots on does not touch the memory; writing the accounts back does. -/
theorem memory?_boot (settings : Settings) (now : Nat) (w : W) :
    memory? (boot settings now w).2 = (memory? w).map fun memory =>
      ((boot settings now w).1.accounts.snapshot now).toBytes ++ memory.drop Ledger.size := by
  have hslots (slots : List Slot) (w : W) :
      memory? (slots.foldl (fun w s => Board.setBus s true (Board.setPower s true w)) w)
        = memory? w := by
    induction slots generalizing w with
    | nil => rfl
    | cons s rest ih =>
      rw [List.foldl_cons, ih, Durable.memory?_setBus, Durable.memory?_setPower]
  -- The ledger is written last.
  rw [boot]
  dsimp only
  rw [memory?_persist, hslots, Durable.memory?_resetCounters]

/-- A boot from a ledger takes it up, and leaves the memory as it is. -/
theorem boot_of_memory {w : W} {l : Ledger} (hfits : l.Fits) {rest : Bytes}
    (hmemory : memory? w = some (l.toBytes ++ rest)) {charge : Nat}
    (hcharge : Board.charge? w = some charge) (settings : Settings) (now : Nat) :
    (boot settings now w).1.accounts = .boot settings.energy (some charge) (some l) now
      ∧ memory? (boot settings now w).2 = memory? w := by
  have haccounts : (boot settings now w).1.accounts
      = .boot settings.energy (some charge) (some l) now := by
    rw [boot]
    dsimp only
    rw [hcharge, loadLedger_of_memory hfits hmemory]
    rfl
  refine ⟨haccounts, ?_⟩
  rw [memory?_boot, haccounts, Accounts.snapshot_boot _ _ hfits, hmemory, Option.map_some,
    List.drop_left' l.length_toBytes]

end Coordinator

/-- However often the controller reboots, it finds the ledger, and leaves it as it is. -/
theorem Reboots.finds {w w' : W} {l : Ledger} (hfits : l.Fits) {rest : Bytes}
    (hmemory : memory? w = some (l.toBytes ++ rest)) {c : Coordinator} {now : Nat}
    (h : Reboots w c now w') :
    (∃ settings charge, c.accounts = .boot settings (some charge) (some l) now)
      ∧ memory? w' = memory? w := by
  induction h with
  | first settings now charge hsame hcharge =>
    rw [hmemory] at hsame
    obtain ⟨haccounts, hkept⟩ := Coordinator.boot_of_memory hfits hsame hcharge settings now
    exact ⟨⟨_, _, haccounts⟩, hkept.trans (hsame.trans hmemory.symm)⟩
  | again settings now charge _ hsame hcharge ih =>
    rw [ih.2, hmemory] at hsame
    obtain ⟨haccounts, hkept⟩ := Coordinator.boot_of_memory hfits hsame hcharge settings now
    exact ⟨⟨_, _, haccounts⟩, hkept.trans (hsame.trans hmemory.symm)⟩

/-- **The ledger survives reboots.** In every life of a board whose memory works, whatever the
memory held at first:
- the bytes that follow the ledger are those that it held at first;
- where the accounts fit into a ledger and are written, the ledger can be loaded, and however often
  the controller reboots then with a gauge that works, every entity has the same budget, the same
  use and the same time since its reset, the ledger of these accounts has the same bytes, and so
  has the memory as a whole;
- a memory that is too short for a ledger, or starts with another word, is never taken for one: a
  boot goes on as if there was none. -/
theorem ledger_survives_reboots {w₀ : W} {memory : Bytes} (hmemory : memory? w₀ = some memory)
    {m : Moment W} (h : Life w₀ m) :
    beyondLedger? m.endpoint.world = some (memory.drop Ledger.size)
    ∧ (∀ now, m.coordinator.accounts.Fits now →
      let w := m.coordinator.persist now m.endpoint.world
      Coordinator.loadLedger w = .ok (m.coordinator.accounts.snapshot now)
      ∧ beyondLedger? w = some (memory.drop Ledger.size)
      ∧ ∀ c t w', Reboots w c t w' →
        (∀ x, (c.accounts.get x).remaining = (m.coordinator.accounts.get x).remaining
          ∧ (c.accounts.get x).used = (m.coordinator.accounts.get x).used
          ∧ (c.accounts.get x).age t = (m.coordinator.accounts.get x).age now)
        ∧ (c.accounts.snapshot t).toBytes = (m.coordinator.accounts.snapshot now).toBytes
        ∧ memory? w' = memory? w)
    ∧ ∀ (w : W) contents, memory? w = some contents →
      contents.length < Ledger.size ∨ Bytes.toNatBE (contents.take 4) ≠ Ledger.magic →
      (∃ error, Coordinator.loadLedger w = .error error)
      ∧ ∀ settings t, (Coordinator.boot settings t w).1.accounts
        = .boot settings.energy (Board.charge? w) none t := by
  have hbeyond : beyondLedger? m.endpoint.world = some (memory.drop Ledger.size) := by
    rw [h.beyondLedger?_eq, beyondLedger?, hmemory, Option.map_some]
  refine ⟨hbeyond, fun now hfits => ?_, fun w contents hcontents hbad => ?_⟩
  · obtain ⟨contents, hcontents, _⟩ := Option.map_eq_some_iff.mp hbeyond
    have hledger := m.coordinator.accounts.fits_snapshot now
    have hwritten : memory? (m.coordinator.persist now m.endpoint.world)
        = some ((m.coordinator.accounts.snapshot now).toBytes ++ contents.drop Ledger.size) := by
      rw [Coordinator.memory?_persist, hcontents, Option.map_some]
    refine ⟨Coordinator.loadLedger_of_memory hledger hwritten,
      (beyondLedger?_operates (Coordinator.operates_persist _ _ now)).trans hbeyond,
      fun c t w' hreboots => ?_⟩
    obtain ⟨⟨settings, charge, haccounts⟩, hkept⟩ := hreboots.finds hledger hwritten
    refine ⟨fun x => ?_, ?_, hkept⟩
    · obtain ⟨hremaining, hused, hage⟩ := Accounts.get_snapshot hfits x
      obtain ⟨hremaining', hused', hage'⟩ :=
        Accounts.get_boot settings charge (m.coordinator.accounts.snapshot now) t x
      rw [haccounts]
      exact ⟨hremaining'.trans hremaining, hused'.trans hused, hage'.trans hage⟩
    · rw [haccounts, Accounts.snapshot_boot settings charge hledger t]
  · have herror : ∃ error, Coordinator.loadLedger w = .error error := by
      rw [Coordinator.loadLedger, Durable.readMemory_eq hcontents, List.drop_zero]
      refine Ledger.exists_parse_error (hbad.imp (fun hshort => ?_) fun hmagic => ?_)
      · rw [List.length_take]
        omega
      · rwa [List.take_take]
    refine ⟨herror, fun settings t => ?_⟩
    obtain ⟨error, herror⟩ := herror
    rw [Coordinator.boot]
    dsimp only
    rw [herror]
    rfl

/-- A desk with a gauge, and a memory that is full of something else. -/
def usedDesk : DeskWorld :=
  ⟨Net.start [.controller], .start false false (some 1000000) (List.replicate 200 0xab) none none⟩

/-- A controller has booted there and ended an accounting period. -/
def firstPeriod : Moment DeskWorld :=
  (Moment.boot {} 0 (.start 0 .controller {} Coordinator.services 0) usedDesk).begin
    ⟨2000000, 1⟩ .period

/-- It writes its accounts after three seconds, and boots again twice. -/
def rebootedTwice : Coordinator × DeskWorld :=
  Coordinator.boot {} 9500000
    (Coordinator.boot {} 9000000
      (firstPeriod.coordinator.persist 3000000 firstPeriod.endpoint.world)).2

/-- The second reboot finds the budgets and the three seconds, and the rest of the memory is still
as it was. -/
theorem second_reboot_finds_accounts :
    (∀ x, (rebootedTwice.1.accounts.get x).remaining
      = (firstPeriod.coordinator.accounts.get x).remaining)
    ∧ (rebootedTwice.1.accounts.get .controller).age 9500000 = 3000
    ∧ beyondLedger? rebootedTwice.2 = some (List.replicate 76 0xab) := by
  have hlife : Life usedDesk firstPeriod :=
    (Life.boot {} 0 (.start 0 .controller {} Coordinator.services 0)).begin ⟨2000000, 1⟩ .period rfl
  obtain ⟨_, hwritten, _⟩ := ledger_survives_reboots rfl hlife
  have hfits : firstPeriod.coordinator.accounts.Fits 3000000 := by
    intro x
    cases x with
    | controller => decide +kernel
    | house => decide +kernel
    | module s =>
      revert s
      decide +kernel
  obtain ⟨_, hbeyond, hreboots⟩ := hwritten 3000000 hfits
  have hreboot := Reboots.first (w := firstPeriod.coordinator.persist 3000000
    firstPeriod.endpoint.world) {} 9000000 1000000 rfl (by decide +kernel)
  have htwice : Reboots _ rebootedTwice.1 9500000 rebootedTwice.2 :=
    hreboot.again {} 9500000 1000000 rfl (by decide +kernel)
  obtain ⟨haccounts, _, hmemory⟩ := hreboots _ _ _ htwice
  refine ⟨fun x => (haccounts x).1, ?_, ?_⟩
  · rw [(haccounts .controller).2.2]
    decide +kernel
  · rw [beyondLedger?, hmemory]
    exact hbeyond

end ModuleBus

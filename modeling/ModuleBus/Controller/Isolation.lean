import ModuleBus.Controller.Board
import ModuleBus.Controller.ModuleTable
import ModuleBus.Settings.Basic

set_option autoImplicit false

/-! # Isolation

The bus is handed to one module at a time, so that it can talk to the controller in private.
While nobody holds the bus, each tick looks for a request, beginning after the slot that was
granted last. A module keeps the bus until it drops its request line or has held it for too many
ticks; one that overstays too often is power-cycled, which takes a tick in two parts
(`tick` and `finishCycle`). A line is granted only after it was seen idle since its last grant. -/

namespace ModuleBus

/-- What a tick did. -/
inductive IsolationEvent where
  | idle
  | granted (slot : Slot)
  | holding (slot : Slot)
  | released (slot : Slot)
  /-- The slot has held the bus for too long, as often in a row as is counted in its record. -/
  | timedOut (slot : Slot) (failures : Nat)
  | powerCycled (slot : Slot)
deriving DecidableEq

/-- A tick that ended, or one that waits while the power of a slot is off. -/
inductive Tick where
  | done (event : IsolationEvent)
  | cycling (slot : Slot)
deriving DecidableEq

/-- The isolation scheduler. -/
structure Isolation where
  settings : IsolationSettings
  /-- The slot that holds the bus. -/
  holder : Option Slot
  /-- A slot that is not granted until its line is idle or nobody else wants the bus. -/
  last : Option Slot
  /-- Slots whose line was seen idle since their last grant. -/
  rearmed : PerSlot Bool
  /-- The slot that was granted last; the next search begins after it. -/
  cursor : Slot
  /-- Ticks that the holder has held the bus. -/
  ticks : Nat
deriving DecidableEq

namespace Isolation

/-- The scheduler at boot. -/
def start (settings : IsolationSettings) : Isolation :=
  ⟨settings, none, none, .constant true, Slot.last, 0⟩

/-- The slots that a module can be in. -/
def moduleSlots : List Slot := Slot.all.filter (· != Slot.controller)

variable {W : Type} [Board W]

/-- The slot may be granted the bus. -/
def isCandidate (i : Isolation) (t : ModuleTable) (w : W) (s : Slot) : Bool :=
  s != Slot.controller && i.rearmed.get s && some s != i.last && (t.get s).state.isEnabled
    && Board.isRequesting w s

/-- The bus switches while a slot holds the bus. -/
def connectOnly (s : Slot) (w : W) : W :=
  Board.setBus s true (moduleSlots.foldl (fun w s => Board.setBus s false w) w)

/-- The bus switches while nobody holds the bus: every enabled module is connected. -/
def restoreBuses (t : ModuleTable) (w : W) : W :=
  moduleSlots.foldl (fun w s => Board.setBus s (t.get s).state.isEnabled w) w

/-- A tick while nobody holds the bus. -/
def scan (i : Isolation) (t : ModuleTable) (w : W) : IsolationEvent × Isolation × W :=
  let i := { i with last := i.last.filter (Board.isRequesting w) }
  match (Slot.allAfter i.cursor).find? (i.isCandidate t w) with
  | none => (.idle, { i with last := none }, w)
  | some s =>
    (.granted s,
     { i with
       holder := some s
       last := some s
       rearmed := i.rearmed.set s false
       cursor := s
       ticks := 0 },
     Board.setGrant s true (connectOnly s w))

/-- Takes the bus from its holder. -/
def release (i : Isolation) (t : ModuleTable) (s : Slot) (w : W) : Isolation × W :=
  ({ i with holder := none, ticks := 0 }, restoreBuses t (Board.setGrant s false w))

/-- A tick while a slot holds the bus. -/
def check (i : Isolation) (t : ModuleTable) (s : Slot) (w : W) :
    Tick × Isolation × ModuleTable × W :=
  if !Board.isRequesting w s || !(t.get s).state.isEnabled then
    let (i, w) := i.release t s w
    (.done (.released s), i, t.modify s fun r => { r with failures := 0 }, w)
  else if i.ticks < i.settings.timeoutTicks then
    (.done (.holding s), { i with ticks := i.ticks + 1 }, t, w)
  else
    let (i, w) := i.release t s w
    let t := t.modify s fun r => { r with failures := r.failures + 1 }
    let failures := (t.get s).failures
    if failures ≤ i.settings.maxFailures then (.done (.timedOut s failures), i, t, w)
    else
      (.cycling s, i, t.modify s fun r => { r with state := .disabledIsolation },
       Board.setPower s false (Board.setBus s false w))

/-- Notes the slots whose line is idle. -/
def rearm (i : Isolation) (w : W) : Isolation :=
  { i with rearmed := Vector.ofFn fun s => i.rearmed.get s || !Board.isRequesting w s }

/-- One tick; one that power-cycles a slot ends with `finishCycle`. -/
def tick (i : Isolation) (t : ModuleTable) (w : W) : Tick × Isolation × ModuleTable × W :=
  match i.holder with
  | none =>
    let (event, i, w) := i.scan t w
    (.done event, i.rearm w, t, w)
  | some s =>
    match i.check t s w with
    | (.done event, i, t, w) => (.done event, i.rearm w, t, w)
    | paused => paused

/-- The end of a tick that power-cycled a slot. -/
def finishCycle (i : Isolation) (t : ModuleTable) (s : Slot) (w : W) :
    IsolationEvent × Isolation × ModuleTable × W :=
  let w := Board.setPower s true w
  let t := t.modify s fun r => { r with failures := 0 }
  let (t, w) :=
    if (t.get s).state = .disabledIsolation then
      (t.modify s fun r => { r with state := .enabled }, Board.setBus s true w)
    else (t, w)
  (.powerCycled s, i.rearm w, t, w)

end Isolation

end ModuleBus

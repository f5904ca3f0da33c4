import Mathlib.Tactic.Push
import ModuleBus.Proofs.Controller.PrivateBus

set_option autoImplicit false

/-! # Whose declaration it is

A module that declares itself does not name its slot, and before its first declaration all modules
have the same address. The coordinator binds a declaration to the slot that holds the bus when the
declaration is handled. Only the holder can write one, but that is true of the moment at which it
is written: a declaration that waits, behind an error reply that is tried again and again, may be
handled after the bus has gone to another module.

What decides is the moment of a grant. If no declaration of another module waits then, none can
join the queue until the bus is released. If one does, its turn comes while the holder still has
the bus, and it is bound to the holder's slot. -/

namespace ModuleBus

open Wired (rails)
open Switchboard (Does)

/-- A declaration that was written, with the slot of the module that wrote it. -/
structure Declaration where
  sender : Slot
  source : Address
  name : Bytes
deriving DecidableEq

/-- The declaration as it arrives. -/
def Declaration.message (d : Declaration) : Message :=
  ⟨d.source, .controller, .command, .initialization, InitializationRequest.declare.toByte, d.name⟩

/-- The event is that a declaration is handled. -/
def Event.IsDeclaration : Event → Prop
  | .message m =>
    m.service = .initialization ∧ InitializationRequest.ofByte? m.type = some .declare
  | _ => False

/-- A controller on the backplane, and the declarations that it has not handled, oldest first. -/
structure Intake where
  moment : Moment Backplane
  waiting : List Declaration

namespace Intake

/-- The slot that holds the bus. -/
def holder (p : Intake) : Option Slot := p.moment.coordinator.isolation.holder

/-- A step of the controller with the modules that declare themselves. Declarations stay in order
and may wait for any time; all other events happen as `may` allows. -/
inductive Step (may : Intake → Event → Prop) : Intake → Intake → Prop
  | write {p : Intake} {e e' : Endpoint Backplane} {written : Nat} (name : Bytes) :
      e.world = p.moment.endpoint.world → e.world.slotOf e.node.port ≠ Slot.controller →
      e.send .controller .command .initialization InitializationRequest.declare.toByte name
        = (.ok written, e') →
      Step may p {
        moment := { p.moment with endpoint := { p.moment.endpoint with world := e'.world } }
        waiting := p.waiting ++ [⟨e.world.slotOf e.node.port, e.address, name⟩] }
  | handle {p : Intake} {d : Declaration} {rest : List Declaration} (clock : Clock) :
      p.moment.pause = none → p.waiting = d :: rest →
      Step may p ⟨p.moment.begin clock (.message d.message), rest⟩
  | other {p : Intake} {m : Moment Backplane} :
      Moment.Step (fun _ event => ¬event.IsDeclaration ∧ may p event) p.moment m →
      Step may p { p with moment := m }

/-- A run leads from one state to another. -/
def Reaches (may : Intake → Event → Prop) : Intake → Intake → Prop :=
  Relation.ReflTransGen (Step may)

/-- The declaration whose turn it is will be bound to the slot of another module. -/
def Misbinds (p : Intake) : Prop :=
  p.moment.pause = none ∧ ∃ d rest s, p.waiting = d :: rest ∧ p.holder = some s ∧ d.sender ≠ s

/-- A grant finds the declaration of another module waiting. -/
def Overtakes (may : Intake → Event → Prop) (p : Intake) : Prop :=
  p.moment.pause = none ∧ may p .tick ∧ ∃ clock s, p.holder = none
    ∧ (p.moment.begin clock .tick).coordinator.isolation.holder = some s
    ∧ ∃ d ∈ p.waiting, d.sender ≠ s

end Intake

/-! ## Who can write -/

/-- A participant that writes a message is connected. -/
theorem Backplane.isConnected_of_send {e e' : Endpoint Backplane} {destination : Address}
    {frame : FrameKind} {service : Service} {type : UInt8} {payload : Bytes} {written : Nat}
    (h : e.send destination frame service type payload = (.ok written, e')) :
    e.world.isConnected (e.world.slotOf e.node.port) = true := by
  obtain ⟨packet, hwrite⟩ := Endpoint.exists_write_of_sendEnvelope h
  by_contra hoff
  simp only [Bool.not_eq_true] at hoff
  simp [Link.write, write, hoff] at hwrite

/-! ## Who is granted the bus -/

/-- Only a tick takes the bus from nobody to somebody. -/
def Switching.Grants : Switching → Prop
  | .grant _ => True
  | _ => False

/-- Unless the bus is granted, it stays with its holder, if with anybody. -/
theorem Switchboard.Does.holder_of_not_grants {b b' : Switchboard} {s : Slot}
    (h : Does (fun x => ¬x.Grants) b b') (hs : b'.holder = some s) : b.holder = some s := by
  induction h with
  | refl _ => exact hs
  | step x hx _ _ ih =>
    have hbefore := ih hs
    cases x with
    | grant r => exact absurd trivial hx
    | release r => cases hbefore
    | _ => exact hbefore

namespace Coordinator

variable {W : Type} [Board W] [Link W] [Wired W]

/-- No event but a tick that finds nobody holding the bus grants it. -/
theorem follows_begin_of_held (c : Coordinator) (clock : Clock) (event : Event) (e : Endpoint W)
    (h : event = .tick → c.isolation.holder ≠ none) :
    (c.begin clock event e).2.1.Follows (fun x => ¬x.Grants) (c.switchboard none e.world)
      (c.begin clock event e).1 (c.begin clock event e).2.2.world := by
  refine (c.makes_begin clock event e).mono fun x hx => ?_
  cases hx with
  | grant hnone => exact absurd hnone (h rfl)
  | command _ hx => cases hx <;> exact id
  | _ => exact id

/-! ## Declarations that are handled -/

omit [Wired W] in
theorem handle_declaration (c : Coordinator) (clock : Clock) (d : Declaration) (e : Endpoint W) :
    c.handle clock d.message e = c.declare d.message e :=
  rfl

/-- Handling a declaration switches nothing. -/
theorem holder_begin_declaration (c : Coordinator) (clock : Clock) (d : Declaration)
    (e : Endpoint W) :
    (c.begin clock (.message d.message) e).2.1.isolation.holder = c.isolation.holder := by
  have hfollows := follows_receive_of_settles (fun _ => False) c d.message e clock
    (settles_declare _ c d.message e)
  have hsame : ∀ b b', Does (fun _ => False) b b' → b' = b := by
    rintro b b' (_ | ⟨x, hx, -⟩)
    · rfl
    · exact hx.elim
  exact congrArg Switchboard.holder (hsame _ _ hfollows.does)

omit [Wired W] in
/-- The slot that holds the bus gets the address. -/
theorem address_begin_declaration (c : Coordinator) (clock : Clock) (d : Declaration)
    (e : Endpoint W) {s : Slot} (hs : c.isolation.holder = some s) :
    ((c.begin clock (.message d.message) e).2.1.modules.get s).address
      = some (if d.source = .unassigned then s.assignedAddress else d.source) := by
  unfold begin
  dsimp only
  rw [coordinator_receive, handle_declaration, declare, hs]
  dsimp only [reply, modify, ModuleTable.assign]
  rw [ModuleTable.get_modify_self, ModuleTable.get_modify_self]
  rfl

omit [Wired W] in
/-- It ends at once, or has to be refused later. -/
theorem pause_begin_declaration (c : Coordinator) (clock : Clock) (d : Declaration)
    (e : Endpoint W) : (c.begin clock (.message d.message) e).1 = none
      ∨ ∃ r timer, (c.begin clock (.message d.message) e).1 = some (.refusing r timer) := by
  have hdeclare : (c.declare d.message e).1.toOption.join = none := by
    unfold declare
    split
    · rfl
    · exact pause_reply _ _ _ _
  unfold begin receive
  dsimp only
  rw [handle_declaration]
  split
  · next h =>
    rw [h] at hdeclare
    exact .inl hdeclare
  · split
    · unfold refuse
      dsimp only
      rcases ErrorReply.send _ clock _ with ⟨_ | ⟨r, timer⟩, e'⟩
      · exact .inl rfl
      · exact .inr ⟨r, timer, rfl⟩
    · exact .inl rfl

end Coordinator

/-- An error reply that waits is on its next try, and has not used up all of them. -/
theorem ErrorReply.attempt_of_send {W : Type} [Link W] {r r' : ErrorReply} {clock : Clock}
    {timer : Timer} {e : Endpoint W} (h : (r.send clock e).1 = some (r', timer)) :
    r'.attempt = r.attempt + 1 ∧ r.attempt < maxAttempts e.node.settings := by
  obtain ⟨encoder, entropy, hframe⟩ := e.sendEnvelope_frame r.refusal.destination
    (Dispatcher.isSealable r.refusal.service)
    (envelope .error r.refusal.service r.refusal.type r.refusal.code.toPayload)
  unfold send at h
  split at h
  · cases h
  · next hsend =>
    rw [hsend] at hframe
    split at h
    · next hmore =>
      rw [hframe] at hmore
      cases h
      exact ⟨rfl, hmore⟩
    · cases h

namespace Moment

variable {W : Type} [Board W] [Link W] [Wired W] {may : Moment W → Event → Prop}

/-- Sooner or later an error reply is written or given up. -/
theorem exists_idle_of_refusing (m : Moment W) (r : ErrorReply) (timer : Timer)
    (h : m.pause = some (.refusing r timer)) :
    ∃ m', Relation.ReflTransGen (Step may) m m' ∧ m'.pause = none
      ∧ m'.coordinator = m.coordinator := by
  -- Each try leaves one less.
  induction hleft : ErrorReply.maxAttempts m.endpoint.node.settings - r.attempt using
    Nat.strongRecOn generalizing m r timer with
  | _ left ih =>
    subst hleft
    have hstep : Step may m (m.resume ⟨0, 0⟩ (.refusing r timer)) := .resume ⟨0, 0⟩ h
    rcases hsend : (r.send ⟨0, 0⟩ m.endpoint).1 with _ | ⟨r', timer'⟩
    · refine ⟨_, .single hstep, ?_, rfl⟩
      simp [resume, Coordinator.resume, Coordinator.refuse, hsend]
    · obtain ⟨hattempt, hless⟩ := ErrorReply.attempt_of_send hsend
      have hsettings : (m.resume ⟨0, 0⟩ (.refusing r timer)).endpoint.node.settings
          = m.endpoint.node.settings := by
        obtain ⟨encoder, entropy, tally, hframe⟩ := r.send_frame ⟨0, 0⟩ m.endpoint
        simp [resume, Coordinator.resume, Coordinator.refuse, hframe]
      have hpause : (m.resume ⟨0, 0⟩ (.refusing r timer)).pause = some (.refusing r' timer') := by
        simp [resume, Coordinator.resume, Coordinator.refuse, hsend]
      obtain ⟨m', hreaches, hidle, hsame⟩ := ih _ (by rw [hsettings, hattempt]; omega) _ r' timer'
        hpause rfl
      exact ⟨m', .head hstep hreaches, hidle, hsame.trans rfl⟩

omit [Wired W] in
/-- A tick that finds nobody holding the bus ends at once. -/
theorem pause_tick_of_none (m : Moment W) (clock : Clock)
    (h : m.coordinator.isolation.holder = none) : (m.begin clock .tick).pause = none := by
  have htick : ∃ event, (m.coordinator.isolation.tick m.coordinator.modules
      m.endpoint.world).1 = .done event := by
    unfold Isolation.tick
    rw [h]
    exact ⟨_, rfl⟩
  obtain ⟨event, hdone⟩ := htick
  unfold begin Coordinator.begin Coordinator.isolationTick
  dsimp only
  rw [hdone]

end Moment

/-! ## Runs -/

namespace Intake

variable {may : Intake → Event → Prop} {p p' : Intake}

/-- Every step is one of the controller's. -/
theorem moment_step (h : Step may p p') : Moment.Step (fun _ _ => True) p.moment p'.moment := by
  cases h with
  | @write e e' _ name hworld _ hsend =>
    have hrails : rails e'.world = rails e.world := by
      have hkept := view_sendEnvelope Wired.rails_write e .controller
        (Dispatcher.isSealable Service.initialization.toByte)
        (envelope .command Service.initialization.toByte InitializationRequest.declare.toByte name)
      rw [Endpoint.send] at hsend
      rw [hsend] at hkept
      exact hkept
    exact .drift ⟨hrails.trans (congrArg rails hworld), rfl, rfl⟩
  | @handle d _ clock hidle _ => exact .begin clock (.message d.message) hidle trivial
  | other hstep =>
    cases hstep with
    | drift hdrift => exact .drift hdrift
    | begin clock event hidle _ => exact .begin clock event hidle trivial
    | resume clock hpause => exact .resume clock hpause

theorem moment_reaches (h : Reaches may p p') :
    Moment.Reaches (fun _ _ => True) p.moment p'.moment := by
  induction h with
  | refl => exact .refl
  | tail _ hstep ih => exact ih.tail (moment_step hstep)

/-- All declarations that wait are the holder's. -/
def IsOrderly (p : Intake) : Prop := ∀ s, p.holder = some s → ∀ d ∈ p.waiting, d.sender = s

/-- Only the holder can write, so that a grant alone can put declarations in the wrong hands. -/
theorem isOrderly_step (h : Step may p p') (hexclusive : p.moment.switchboard.IsExclusive)
    (hawaits : p.moment.Awaits) (hovertakes : ¬p.Overtakes may) (hp : p.IsOrderly) :
    p'.IsOrderly := by
  intro s hs d hd
  cases h with
  | @write e e' _ name hworld hmodule hsend =>
    rcases List.mem_append.mp hd with hold | hnew
    · exact hp s hs d hold
    · -- A module that writes is connected, and beside the holder no other is.
      rw [List.mem_singleton.mp hnew]
      by_contra hother
      have hoff := hexclusive.alone hs _ hother hmodule
      have hconnected := Backplane.isConnected_of_send hsend
      have hbus : e.world.bus.get (e.world.slotOf e.node.port) = false := by
        rw [hworld] at hoff ⊢
        exact hoff
      simp [Backplane.isConnected, hbus, hmodule] at hconnected
  | @handle d' rest clock _ hwaiting =>
    have hholder := p.moment.coordinator.holder_begin_declaration clock d' p.moment.endpoint
    refine hp s (hholder.symm.trans hs) d ?_
    rw [hwaiting]
    exact List.mem_cons_of_mem d' hd
  | other hstep =>
    cases hstep with
    | drift _ => exact hp s hs d hd
    | begin clock event hidle hmay =>
      by_cases hgrant : event = .tick → p.moment.coordinator.isolation.holder ≠ none
      · have hfollows := p.moment.coordinator.follows_begin_of_held clock event p.moment.endpoint
          hgrant
        exact hp s (hfollows.does.holder_of_not_grants hs) d hd
      · -- What waits now is the new holder's, or the grant overtakes it.
        simp only [ne_eq, Classical.not_imp, not_not] at hgrant
        obtain ⟨rfl, hnone⟩ := hgrant
        by_contra hother
        exact hovertakes ⟨hidle, hmay.2, clock, s, hnone, hs, d, hd, hother⟩
    | @resume pause clock hpause =>
      rw [Moment.Awaits, hpause] at hawaits
      have hfollows := p.moment.coordinator.follows_resume clock pause p.moment.endpoint
        (P := fun x => ¬x.Grants) (fun _ _ _ => id) (fun _ _ => id) (fun _ => id) hawaits
      exact hp s (hfollows.does.holder_of_not_grants hs) d hd

theorem reaches_of_moment {m : Moment Backplane}
    (h : Relation.ReflTransGen (Moment.Step fun _ _ => False) p.moment m) :
    Reaches may p { p with moment := m } := by
  induction h with
  | refl => exact .refl
  | tail _ hstep ih => exact ih.tail (.other hstep.of_never)

/-- A declaration can be handled to the end, before anything else happens. -/
theorem exists_handled (clock : Clock) {d : Declaration} {rest : List Declaration}
    (hidle : p.moment.pause = none) (hwaiting : p.waiting = d :: rest) :
    ∃ m, Reaches may p ⟨m, rest⟩ ∧ m.pause = none
      ∧ m.coordinator.isolation.holder = p.holder := by
  have hhandle : Reaches may p ⟨p.moment.begin clock (.message d.message), rest⟩ :=
    .single (.handle clock hidle hwaiting)
  have hholder := p.moment.coordinator.holder_begin_declaration clock d p.moment.endpoint
  rcases p.moment.coordinator.pause_begin_declaration clock d p.moment.endpoint with
    hdone | ⟨r, timer, hrefusing⟩
  · exact ⟨_, hhandle, hdone, hholder⟩
  · obtain ⟨m, hreaches, hidle', hsame⟩ := Moment.exists_idle_of_refusing
      (p.moment.begin clock (.message d.message)) r timer hrefusing
    refine ⟨m, hhandle.trans (reaches_of_moment hreaches), hidle', ?_⟩
    rw [hsame]
    exact hholder

/-- If no declaration is ever in the wrong hands, those that wait are the holder's: the turn of each
comes while the bus is still held. -/
theorem isOrderly_of_never (hnever : ∀ p', Reaches may p p' → ¬p'.Misbinds)
    (hidle : p.moment.pause = none) : p.IsOrderly := by
  intro s hs
  induction hwaiting : p.waiting generalizing p with
  | nil => simp
  | cons d rest ih =>
    have hfirst : d.sender = s := by
      by_contra hother
      exact hnever p .refl ⟨hidle, d, rest, s, hwaiting, hs, hother⟩
    obtain ⟨m, hreaches, hidle', hholder⟩ := exists_handled ⟨0, 0⟩ hidle hwaiting
    have hrest := ih (p := ⟨m, rest⟩) (fun p' h => hnever p' (hreaches.trans h)) hidle'
      (hholder.trans hs) rfl
    exact List.forall_mem_cons.mpr ⟨hfirst, hrest⟩

/-- A controller that has booted, before anybody declares itself. -/
def boot (settings : Settings) (now : Nat) (node : Dispatcher) (b : Backplane) : Intake :=
  ⟨Moment.boot settings now node b, []⟩

theorem isOrderly_reaches {settings : Settings} {now : Nat} {node : Dispatcher} {b : Backplane}
    (hlow : ∀ s, b.grants.get s = false)
    (hnever : ∀ p, Reaches may (boot settings now node b) p → ¬p.Overtakes may)
    (h : Reaches may (boot settings now node b) p) : p.IsOrderly := by
  have hboot : (boot settings now node b).moment.switchboard.IsExclusive := by
    rw [boot, Moment.switchboard_boot]
    exact .of_none rfl hlow
  induction h with
  | refl => simp [IsOrderly, boot]
  | tail hreaches hstep ih =>
    obtain ⟨hdoes, hawaits⟩ := Moment.does_of_reaches (K := fun _ => True)
      (fun _ _ _ _ _ => trivial) (fun _ _ => trivial) (moment_reaches hreaches) trivial
    have hexclusive := hdoes.preserves (fun _ _ _ hallowed hb => hb.apply hallowed) hboot
    exact isOrderly_step hstep hexclusive hawaits (hnever _ hreaches) ih

/-- **A declaration is bound to its sender's slot** in all runs if and only if no grant of such a
run overtakes the declaration of another module, written before the grant and not handled yet. A
declaration that is handled while a slot holds the bus gives that slot the address that it asks
for, whoever has written it. -/
theorem declarations_bind_senders_iff {may : Intake → Event → Prop} {settings : Settings}
    {now : Nat} {node : Dispatcher} {b : Backplane} (hlow : ∀ s, b.grants.get s = false) :
    ((∀ p, Reaches may (boot settings now node b) p → ¬p.Misbinds)
      ↔ ∀ p, Reaches may (boot settings now node b) p → ¬p.Overtakes may)
    ∧ ∀ (p : Intake) (clock : Clock) (d : Declaration) (s : Slot), p.holder = some s →
      ((p.moment.begin clock (.message d.message)).coordinator.modules.get s).address
        = some (if d.source = .unassigned then s.assignedAddress else d.source) := by
  refine ⟨⟨fun hnever p hp hovertakes => ?_, fun hnever p hp hmisbinds => ?_⟩,
    fun p clock d s hs => ?_⟩
  · -- The overtaken declaration waits with another holder, and its turn comes.
    obtain ⟨hidle, hmay, clock, s, hnone, hgrant, d, hd, hother⟩ := hovertakes
    have hgranted : Reaches may p ⟨p.moment.begin clock .tick, p.waiting⟩ :=
      .single (.other (.begin clock .tick hidle ⟨id, hmay⟩))
    refine hother (isOrderly_of_never (fun p' h => hnever p' ((hp.trans hgranted).trans h))
      (p.moment.pause_tick_of_none clock hnone) s hgrant d hd)
  · obtain ⟨_, d, rest, s, hwaiting, hs, hother⟩ := hmisbinds
    refine hother (isOrderly_reaches hlow hnever hp s hs d ?_)
    rw [hwaiting]
    exact List.mem_cons_self
  · exact p.moment.coordinator.address_begin_declaration clock d p.moment.endpoint hs

/-- A backplane with the controller's port and those of two modules, in the first and the last
slot. -/
def twoPorts : Backplane :=
  .quiet false
    [⟨Slot.controller, .controller, []⟩, ⟨Slot.first, .unassigned, []⟩,
      ⟨Slot.last, .unassigned, []⟩]

/-- The two modules drive their request lines. -/
def asks (p : Intake) (first last : Bool) : Intake :=
  { p with moment := { p.moment with endpoint := { p.moment.endpoint with
    world := Lines.setRequest 2 last (Lines.setRequest 1 first p.moment.endpoint.world) } } }

/-- The controller of two modules has booted. -/
def booted : Intake := boot {} 0 (.start 0 .controller {} Coordinator.services 0) twoPorts

/-- The first module is granted the bus. -/
def granted : Intake :=
  { booted.asks true false with moment := (booted.asks true false).moment.begin ⟨0, 0⟩ .tick }

/-- The first module, which has no address yet. -/
def firstModule : Endpoint Backplane :=
  ⟨.start 1 .unassigned {} [] 1, granted.moment.endpoint.world⟩

/-- It declares itself, without an address. -/
def written : Except DispatchError Nat × Endpoint Backplane :=
  firstModule.send .controller .command .initialization InitializationRequest.declare.toByte [0x61]

/-- The declaration waits to be handled. -/
def declared : Intake where
  moment := { granted.moment with
    endpoint := { granted.moment.endpoint with world := written.2.world } }
  waiting := granted.waiting ++ [⟨firstModule.world.slotOf 1, .unassigned, [0x61]⟩]

/-- Before that is handled it releases the bus, and the last module asks for it. -/
def released : Intake :=
  { declared.asks false true with moment := (declared.asks false true).moment.begin ⟨0, 1⟩ .tick }

theorem reaches_asks (p : Intake) (first last : Bool) :
    Reaches (fun _ _ => True) p (p.asks first last) :=
  .single (.other (.drift ⟨rfl, rfl, rfl⟩))

/-- The declaration of the first module is bound to the slot of the last one. -/
theorem late_declaration_is_misbound :
    ∃ p, Reaches (fun _ _ => True) booted p ∧ p.Misbinds := by
  have hlow : ∀ s, twoPorts.grants.get s = false := fun s => PerSlot.get_constant false s
  have hgranted : Reaches (fun _ _ => True) booted granted :=
    (reaches_asks booted true false).tail (.other (.begin ⟨0, 0⟩ .tick rfl ⟨id, trivial⟩))
  have hslot : firstModule.world.slotOf 1 = Slot.first := by decide +kernel
  have hmodule : firstModule.world.slotOf 1 ≠ Slot.controller := by
    rw [hslot]
    decide
  have hwritten : written = (.ok 12, written.2) := Prod.ext rfl rfl
  have hdeclared : Step (fun _ _ => True) granted declared :=
    .write (p := granted) (e := firstModule) [0x61] rfl hmodule hwritten
  have hreleased : Reaches (fun _ _ => True) booted released :=
    ((hgranted.tail hdeclared).trans (reaches_asks declared false true)).tail
      (.other (.begin ⟨0, 1⟩ .tick (by decide +kernel) ⟨id, trivial⟩))
  have hovertakes : released.Overtakes fun _ _ => True :=
    ⟨by decide +kernel, trivial, ⟨0, 2⟩, Slot.last, by decide +kernel, by decide +kernel,
      ⟨_, .unassigned, [0x61]⟩, List.mem_cons_self, by rw [hslot]; decide⟩
  by_contra hnever
  push Not at hnever
  exact (declarations_bind_senders_iff hlow).1.mp hnever released hreleased hovertakes

end Intake

end ModuleBus

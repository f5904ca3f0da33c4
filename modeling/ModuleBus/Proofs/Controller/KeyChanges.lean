import ModuleBus.Proofs.Controller.Keys

set_option autoImplicit false

/-! # Which events change a key

Four things change the keys that the controller holds: a declaration, which takes the keys of the
address that a slot gets and of the one that it had; an agreement on a key and a revocation, which
concern their sender only; and the end of a power cycle, which takes the key of the slot. Whatever
else the coordinator handles, the key of an address stays, and its cipher suite always does. -/

namespace ModuleBus

variable {W : Type}

/-- The address that a declaration asks a slot to be bound to. -/
def Message.bound (m : Message) (s : Slot) : Address :=
  if m.source = .unassigned then s.assignedAddress else m.source

namespace Coordinator

/-- An event declares an address or revokes its key. -/
def Names (c : Coordinator) (event : Event) (a : Address) : Prop :=
  match event with
  | .message m => m.service = .initialization ∧
    match InitializationRequest.ofByte? m.type with
    | some .declare => ∃ s, c.isolation.holder = some s ∧ m.bound s = a
    | some .revoke => m.source = a
    | _ => False
  | _ => False

/-- An event concerns the key of an address. Besides the events that declare the address or revoke
its key, these are a declaration of another address that the slot of this one is given, and an
exchange of keys that comes from the address. -/
def Touches (c : Coordinator) (event : Event) (a : Address) : Prop :=
  match event with
  | .message m => m.service = .initialization ∧
    match InitializationRequest.ofByte? m.type with
    | some .declare => ∃ s, c.isolation.holder = some s
      ∧ (m.bound s = a ∨ (c.modules.get s).address = some a)
    | some .exchangeKey | some .revoke => m.source = a
    | _ => False
  | _ => False

/-- The second part of an event concerns the key of an address: its slot was power-cycled. -/
def TouchesAfter (c : Coordinator) (pause : Pause) (a : Address) : Prop :=
  match pause with
  | .cycling s _ => (c.modules.get s).address = some a
  | _ => False

end Coordinator

/-- The suite is the same, and so are all keys but some. -/
structure KeepsKeys (touched : Address → Prop) (e e' : Endpoint W) : Prop where
  suite : e'.node.suite = e.node.suite
  key : ∀ a, ¬touched a → e'.node.key? a = e.node.key? a

namespace KeepsKeys

variable {touched : Address → Prop} {e e' e'' : Endpoint W}

theorem of_eq (hsuite : e'.node.suite = e.node.suite) (hkeys : e'.node.keys = e.node.keys) :
    KeepsKeys touched e e' :=
  ⟨hsuite, fun a _ => by rw [Dispatcher.key?, hkeys, Dispatcher.key?]⟩

theorem refl (e : Endpoint W) : KeepsKeys touched e e := of_eq rfl rfl

theorem trans (h : KeepsKeys touched e e') (h' : KeepsKeys touched e' e'') :
    KeepsKeys touched e e'' :=
  ⟨h'.suite.trans h.suite, fun a ha => (h'.key a ha).trans (h.key a ha)⟩

theorem revoke (h : KeepsKeys touched e e') {a : Address} (ha : touched a) :
    KeepsKeys touched e (e'.update (·.revokeKey a)) := by
  refine h.trans ⟨rfl, fun b hb => ?_⟩
  have hne : b ≠ a := by
    rintro rfl
    exact hb ha
  rw [Endpoint.update, Dispatcher.key?_revokeKey, if_neg hne]

theorem install (h : KeepsKeys touched e e') {a : Address} (ha : touched a) (key : SessionKey) :
    KeepsKeys touched e (e'.update (·.installKey a key)) := by
  refine h.trans ⟨rfl, fun b hb => ?_⟩
  have hne : b ≠ a := by
    rintro rfl
    exact hb ha
  exact e'.node.key?_installKey_of_ne key hne

end KeepsKeys

variable [Link W] {touched : Address → Prop}

theorem keepsKeys_sendEnvelope (e : Endpoint W) (destination : Address) (maySeal : Bool)
    (bytes : Bytes) : KeepsKeys touched e (e.sendEnvelope destination maySeal bytes).2 := by
  obtain ⟨encoder, entropy, h⟩ := e.sendEnvelope_frame destination maySeal bytes
  exact .of_eq (by rw [h]) (by rw [h])

theorem keepsKeys_errorReply (r : ErrorReply) (clock : Clock) (e : Endpoint W) :
    KeepsKeys touched e (r.send clock e).2 := by
  obtain ⟨encoder, entropy, tally, h⟩ := r.send_frame clock e
  exact .of_eq (by rw [h]) (by rw [h])

namespace Coordinator

variable {c : Coordinator} {e : Endpoint W} (m : Message) (clock : Clock)

theorem keepsKeys_reply (c : Coordinator) (payload : Bytes) (e : Endpoint W) :
    KeepsKeys touched e (c.reply m payload e).2.2 :=
  keepsKeys_sendEnvelope e _ _ _

theorem keepsKeys_declare (h : ∀ s, c.isolation.holder = some s →
    touched (m.bound s) ∧ ∀ a, (c.modules.get s).address = some a → touched a) :
    KeepsKeys touched e (c.declare m e).2.2 := by
  unfold declare
  split
  · exact .refl e
  · next s hs =>
    obtain ⟨hbound, hold⟩ := h s hs
    refine KeepsKeys.trans (.revoke ?_ hbound) (keepsKeys_reply m _ _ _)
    split
    · next old hprevious =>
      exact .revoke (.refl e) (hold old (Option.filter_eq_some_iff.mp hprevious).1)
    · exact .refl e

theorem keepsKeys_exchangeKey (h : touched m.source) :
    KeepsKeys touched e (c.exchangeKey m e).2.2 := by
  unfold exchangeKey
  split
  · exact .refl e
  · dsimp only
    split
    · exact .of_eq rfl rfl
    · next key _ =>
      have hdrawn : KeepsKeys touched e
          (e.update fun d => { d with entropy := d.entropy.next }) := .of_eq rfl rfl
      have hreply := hdrawn.trans
        (keepsKeys_reply m c (e.node.suite.publicPoint e.node.entropy.secret) _)
      split
      · next hwritten =>
        rw [hwritten] at hreply
        exact hreply
      · next hwritten =>
        rw [hwritten] at hreply
        exact hreply.install h key

theorem keepsKeys_handleInitialization (hservice : m.service = .initialization) :
    KeepsKeys (c.Touches (.message m)) e (c.handleInitialization m e).2.2 := by
  unfold handleInitialization
  split
  · exact .refl e
  · next htype =>
    refine keepsKeys_declare m fun s hs => ?_
    simp only [Touches, htype, hservice, true_and]
    exact ⟨⟨s, hs, .inl rfl⟩, fun a ha => ⟨s, hs, .inr ha⟩⟩
  · next htype =>
    refine keepsKeys_exchangeKey m ?_
    simp only [Touches, htype, hservice, true_and]
  · exact keepsKeys_reply m c _ e
  · next htype =>
    refine KeepsKeys.trans (.revoke (.refl e) ?_) (keepsKeys_reply m _ _ _)
    simp only [Touches, htype, hservice, true_and]
  · exact keepsKeys_reply m c _ e

variable [Board W]

theorem keepsKeys_handleEnergy : KeepsKeys touched e (c.handleEnergy clock m e).2.2 := by
  unfold handleEnergy
  split
  · exact .refl e
  · dsimp only
    split
    · exact .refl e
    · exact keepsKeys_reply m c _ e
    · exact keepsKeys_reply m _ _ e
    · split
      · exact keepsKeys_reply m _ _ e
      · exact .refl e
    · split
      · exact .refl e
      · exact .of_eq rfl rfl

omit [Board W] in
theorem keepsKeys_handleTimeLocation : KeepsKeys touched e (c.handleTimeLocation m e).2.2 := by
  unfold handleTimeLocation
  dsimp only
  split
  · exact keepsKeys_reply m c _ e
  · exact keepsKeys_reply m c _ e
  · exact .refl e
  · exact .refl e

omit [Board W] in
theorem keepsKeys_handleWatchdog : KeepsKeys touched e (c.handleWatchdog m e).2.2 := by
  unfold handleWatchdog
  split
  · exact .refl e
  · split
    · exact .refl e
    · exact keepsKeys_reply m _ _ e

omit [Link W] in
theorem keepsKeys_handleNetworking : KeepsKeys touched e (c.handleNetworking clock m e).2.2 := by
  unfold handleNetworking
  split
  · split
    · exact .refl e
    · split
      · exact .refl e
      · exact .of_eq rfl rfl
  · exact .refl e

theorem keepsKeys_handle : KeepsKeys (c.Touches (.message m)) e (c.handle clock m e).2.2 := by
  unfold handle
  split
  · next hservice => exact keepsKeys_handleInitialization m hservice
  · exact keepsKeys_handleEnergy m clock
  · exact keepsKeys_handleTimeLocation m
  · exact keepsKeys_handleWatchdog m
  · exact keepsKeys_handleNetworking m clock
  · exact .refl e

theorem keepsKeys_receive : KeepsKeys (c.Touches (.message m)) e (c.receive clock m e).2.2 := by
  have hhandle := keepsKeys_handle m clock (c := c) (e := e)
  unfold receive
  split
  · next hok =>
    rw [hok] at hhandle
    exact hhandle
  · next hrefused =>
    rw [hrefused] at hhandle
    split
    · exact hhandle.trans (keepsKeys_errorReply _ clock _)
    · exact hhandle

/-! ## Ticks -/

section

omit [Link W]

/-- A tick that ends at once has not power-cycled anything. -/
theorem Isolation.tick_ne_powerCycled (i : Isolation) (t : ModuleTable) (w : W) (s : Slot) :
    (i.tick t w).1 ≠ .done (.powerCycled s) := by
  unfold Isolation.tick
  split
  · unfold Isolation.scan
    dsimp only
    split <;> simp
  · next r _ =>
    have hcheck : (i.check t r w).1 ≠ .done (.powerCycled s) := by
      unfold Isolation.check
      dsimp only
      split
      · simp
      · split
        · simp
        · split <;> simp
    split
    · next heq =>
      rw [heq] at hcheck
      exact hcheck
    · exact hcheck

omit [Board W] in
theorem keepsKeys_forgetKey (s : Slot)
    (h : ∀ a, (c.modules.get s).address = some a → touched a) :
    KeepsKeys touched e (c.forgetKey s e).2 := by
  unfold forgetKey
  dsimp only
  split
  · next a ha => exact .revoke (.refl e) (h a ha)
  · exact .refl e

theorem keepsKeys_afterTick (event : IsolationEvent)
    (h : ∀ s, event = .powerCycled s → ∀ a, (c.modules.get s).address = some a → touched a) :
    KeepsKeys touched e (c.afterTick event e).2 := by
  unfold afterTick
  split
  · next c' e' hevent =>
    have hkeeps : KeepsKeys touched e e' := by
      split at hevent
      · next s =>
        have hforget := keepsKeys_forgetKey (e := e) s (h s rfl)
        rw [hevent] at hforget
        exact hforget
      · cases hevent
        exact .refl e
    refine hkeeps.trans ?_
    dsimp only
    split
    · exact .refl e'
    · exact .of_eq rfl rfl

theorem keepsKeys_isolationTick : KeepsKeys touched e (c.isolationTick e).2.2 := by
  have hnever := Isolation.tick_ne_powerCycled c.isolation c.modules e.world
  have hticked : KeepsKeys touched e
      { e with world := (c.isolation.tick c.modules e.world).2.2.2 } := .of_eq rfl rfl
  unfold isolationTick
  dsimp only
  split
  · next event hdone =>
    refine hticked.trans ?_
    refine keepsKeys_afterTick event fun s hs => ?_
    rw [hdone, hs] at hnever
    exact absurd rfl (hnever s)
  · exact hticked

theorem keepsKeys_finishTick (s : Slot)
    (h : ∀ a, (c.modules.get s).address = some a → touched a) :
    KeepsKeys touched e (c.finishTick s e).2.2 := by
  have hplates := Isolation.plates_finishCycle c.isolation c.modules e.world s
  have hcycled : KeepsKeys touched e
      { e with world := (c.isolation.finishCycle c.modules s e.world).2.2.2 } := .of_eq rfl rfl
  unfold finishTick
  dsimp only
  refine hcycled.trans ?_
  refine keepsKeys_afterTick _ fun r hr a ha => h a ?_
  -- The end of the cycle leaves the address of the slot as it was.
  obtain rfl : r = s := by
    cases hr
    rfl
  rw [← ha]
  exact (congrArg Prod.fst (congrFun hplates r)).symm

end

/-! ## Events -/

/-- An event changes no keys but those that it concerns. -/
theorem keepsKeys_begin (event : Event) :
    KeepsKeys (c.Touches event) e (c.begin clock event e).2.2 := by
  cases event with
  | message m => exact keepsKeys_receive m clock
  | tick =>
    have htick : KeepsKeys (c.Touches .tick) e (c.isolationTick e).2.2 := keepsKeys_isolationTick
    unfold begin
    dsimp only
    split
    · next hdone =>
      rw [hdone] at htick
      exact htick
    · next hcycling =>
      rw [hcycling] at htick
      exact htick
  | period | check | wake | command _ =>
    unfold begin
    dsimp only
    exact .of_eq rfl rfl
  | fix _ => exact .refl e

theorem keepsKeys_resume (pause : Pause) :
    KeepsKeys (c.TouchesAfter pause) e (c.resume clock pause e).2.2 := by
  cases pause with
  | cycling s _ => exact keepsKeys_finishTick s fun _ ha => ha
  | pulsing _ _ _ | resetting _ _ => exact .of_eq rfl rfl
  | refusing r _ => exact keepsKeys_errorReply r clock e

end Coordinator

end ModuleBus

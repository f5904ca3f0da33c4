import ModuleBus.Handshake
import ModuleBus.Proofs.Dispatch.Keys
import ModuleBus.Proofs.Dispatch.Pending

set_option autoImplicit false

/-! # What one step of a handshake does

A step either registers a new call, with a ticket that nobody has had, or takes the controller's
point from the reply to the call that waits for it and ends the handshake, or leaves it without a
call (`Handshake.Moves`). -/

namespace ModuleBus

/-! ## Tickets -/

namespace PendingCalls

variable {p p' : PendingCalls} {key : CallKey} {t : Ticket}

/-- A ticket that was not given out has no reply and no entry. -/
def IsFresh (p : PendingCalls) : Prop :=
  ∀ t, p.next ≤ t → p.replies t = [] ∧ ∀ key, (key, t) ∉ p.waiting

theorem IsFresh.register (h : p.IsFresh) (hregister : p.register key = (some t, p')) :
    p'.IsFresh := by
  obtain ⟨_, _, rfl⟩ := register_eq_some hregister
  intro t ht
  have hlt : p.next < t := ht
  obtain ⟨hreplies, hwaiting⟩ := h t (Nat.le_of_lt hlt)
  refine ⟨hreplies, fun key' hmem => ?_⟩
  rcases List.mem_cons.mp hmem with heq | hmem
  · exact Nat.ne_of_gt hlt (congrArg Prod.snd heq)
  · exact hwaiting key' hmem

theorem IsFresh.forget (h : p.IsFresh) (t : Ticket) : (p.forget t).IsFresh := by
  intro t' ht'
  obtain ⟨hreplies, hwaiting⟩ := h t' ht'
  refine ⟨?_, fun key hmem => hwaiting key (mem_waiting_forget.mp hmem).2⟩
  rw [replies_forget, hreplies, ite_self]

theorem IsFresh.answer (h : p.IsFresh) (hentry : (key, t) ∈ p.waiting) (r : Reply) :
    (p.answer key t r).IsFresh := by
  intro t' ht'
  obtain ⟨hreplies, hwaiting⟩ := h t' ht'
  have hne : t' ≠ t := by
    rintro rfl
    exact hwaiting key hentry
  refine ⟨?_, fun key' hmem => hwaiting key' (mem_waiting_answer.mp hmem).2⟩
  rw [replies_answer, if_neg hne, hreplies]

end PendingCalls

theorem Dispatcher.isFresh_route {d : Dispatcher} (h : d.pending.IsFresh) (m : Message) :
    (d.route m).2.pending.IsFresh := by
  rcases d.pending_route_cases m with hsame | ⟨t, _, hentry, hanswer⟩
  · rw [hsame]
    exact h
  · rw [hanswer]
    exact h.answer hentry _

/-! ## What a participant does without a new call -/

variable {W : Type}

/-- Tickets may have been given out, and calls forgotten. -/
structure Prepares (e e' : Endpoint W) : Prop where
  suite : e'.node.suite = e.node.suite
  next : e.node.pending.next ≤ e'.node.pending.next
  fresh : e.node.pending.IsFresh → e'.node.pending.IsFresh

namespace Prepares

variable {e e' e'' : Endpoint W}

theorem of_eq (hsuite : e'.node.suite = e.node.suite)
    (hpending : e'.node.pending = e.node.pending) : Prepares e e' :=
  ⟨hsuite, Nat.le_of_eq (by rw [hpending]), by rw [hpending]; exact id⟩

theorem refl (e : Endpoint W) : Prepares e e := of_eq rfl rfl

theorem trans (h : Prepares e e') (h' : Prepares e' e'') : Prepares e e'' :=
  ⟨h'.suite.trans h.suite, Nat.le_trans h.next h'.next, h'.fresh ∘ h.fresh⟩

theorem abandon (e : Endpoint W) (call : Call) : Prepares e (call.abandon e) :=
  ⟨rfl, Nat.le_refl _, fun h => h.forget call.ticket⟩

end Prepares

variable [Link W]

theorem Endpoint.prepares_send (e : Endpoint W) (destination : Address) (frame : FrameKind)
    (service : Service) (type : UInt8) (payload : Bytes) :
    Prepares e (e.send destination frame service type payload).2 := by
  obtain ⟨encoder, entropy, h⟩ := e.send_frame destination frame service type payload
  exact .of_eq (by rw [h]) (by rw [h])

namespace Call

variable {clock : Clock} {key : CallKey} {payload : Bytes} {timeout : Nat} {e e' : Endpoint W}
  {call : Call}

omit [Link W] in
theorem step_eq_some {result : Except DispatchError Bytes}
    (h : call.step clock e = some (result, e')) :
    e' = call.abandon e ∧ ∀ bytes, result = .ok bytes →
      e.node.pending.reply? call.ticket = some ⟨.response, bytes⟩ := by
  unfold step at h
  split at h
  · next reply hreply =>
    cases h
    refine ⟨rfl, fun bytes hbytes => ?_⟩
    obtain ⟨frame, payload⟩ := reply
    cases frame with
    | response =>
      cases hbytes
      exact hreply
    | _ => cases hbytes
  · split at h
    · cases h
      exact ⟨rfl, nofun⟩
    · cases h

theorem prepares_start (clock : Clock) (key : CallKey) (payload : Bytes) (timeout : Nat)
    (e : Endpoint W) : Prepares e (start clock key payload timeout e).2 := by
  unfold start
  split
  · exact .refl e
  · next t p hregister =>
    dsimp only
    have hregistered : Prepares e (e.update fun d => { d with pending := p }) := by
      obtain ⟨_, _, rfl⟩ := PendingCalls.register_eq_some hregister
      exact ⟨rfl, Nat.le_succ _, fun h => h.register hregister⟩
    have hsent := hregistered.trans (Endpoint.prepares_send _ key.peer .command key.service key.type
      payload)
    split
    · next h =>
      rw [h] at hsent
      exact hsent.trans (.abandon _ _)
    · next h =>
      rw [h] at hsent
      exact hsent

/-- A call that is started is registered, and sending it moves nobody. -/
theorem register_of_start (h : start clock key payload timeout e = (.ok call, e')) :
    e.node.pending.register key = (some call.ticket, e'.node.pending)
      ∧ e'.address = e.address := by
  unfold start at h
  split at h
  · cases h
  · next t p hregister =>
    dsimp only at h
    generalize hregistered : (e.update fun d => { d with pending := p }) = e₁ at h
    obtain ⟨encoder, entropy, hframe⟩ :=
      e₁.send_frame key.peer .command key.service key.type payload
    have haddress : (e₁.send key.peer .command key.service key.type payload).2.address
        = e₁.address := e₁.address_sendEnvelope _ _ _
    split at h
    · cases h
    · next hsent =>
      cases h
      rw [hsent] at hframe haddress
      subst hregistered
      rw [hregister, hframe]
      exact ⟨rfl, haddress⟩

/-- A call that is started has a ticket of its own. -/
theorem start_eq_ok (h : start clock key payload timeout e = (.ok call, e')) :
    e'.node.pending.next = call.ticket + 1 ∧ e.node.pending.next ≤ call.ticket
      ∧ (e.node.pending.IsFresh → e'.node.pending.replies call.ticket = [])
      ∧ e'.address = e.address := by
  obtain ⟨hregister, haddress⟩ := register_of_start h
  obtain ⟨_, hticket, hpending⟩ := PendingCalls.register_eq_some hregister
  have hnew : e.node.pending.next ≤ call.ticket := Nat.le_of_eq hticket.symm
  refine ⟨by rw [hpending, hticket], hnew, fun hfresh => ?_, haddress⟩
  rw [hpending]
  exact (hfresh _ hnew).1

end Call

/-! ## Steps -/

namespace Handshake

/-- The call that a handshake waits for. -/
def call? (h : Handshake) : Option Call :=
  match h.waiting with
  | .declaring call | .exchanging _ _ call => some call
  | _ => none

/-- What a step of a handshake may do. -/
inductive Moves (h : Handshake) (e : Endpoint W) (h' : Handshake) (e' : Endpoint W) : Prop where
  /-- A new call waits for its reply. One for a key comes from the address that was taken. -/
  | called (call : Call) (hcall : h'.call? = some call)
      (hticket : e.node.pending.next ≤ call.ticket)
      (hnext : e'.node.pending.next = call.ticket + 1)
      (hreplies : e.node.pending.IsFresh → e'.node.pending.replies call.ticket = [])
      (haddress : ∀ a secret, h'.waiting = .exchanging a secret call → e'.address = a)
      (hopen : h'.address? = none)
  /-- The handshake goes on without a call. -/
  | waits (hnone : h'.call? = none) (hopen : h'.address? = none)
  /-- The controller's point has come, and makes the key. -/
  | finished (a : Address) (secret : Nat) (call : Call) (point : Bytes) (key : SessionKey)
      (hwaiting : h.waiting = .exchanging a secret call)
      (hreply : e.node.pending.reply? call.ticket = some ⟨.response, point⟩)
      (hagree : e.node.suite.agree secret point = .ok key) (hfinished : h'.waiting = .finished a)
      (haddress : e'.address = e.address) (hkey : e'.node.key? .controller = some key)

variable {h h' : Handshake} {clock : Clock} {e e' : Endpoint W}

section

variable [Lines W]

omit [Link W] in
theorem prepares_giveUp (h : Handshake) (clock : Clock) (e : Endpoint W) :
    Prepares e (h.giveUp clock e).2 :=
  .of_eq rfl rfl

omit [Link W] in
theorem moves_giveUp (h₁ : Handshake) (e₁ : Endpoint W) :
    h.Moves e (h₁.giveUp clock e₁).1 (h₁.giveUp clock e₁).2 :=
  .waits rfl rfl

theorem moves_declare (h : Handshake) (clock : Clock) (e : Endpoint W) :
    Prepares e (h.declare clock e).2
      ∧ h.Moves e (h.declare clock e).1 (h.declare clock e).2 := by
  unfold declare
  dsimp only
  generalize hrevoked : e.update (·.revokeKey .controller) = e₁
  have hprepares : Prepares e e₁ := hrevoked ▸ .of_eq rfl rfl
  have hstart := hprepares.trans (Call.prepares_start clock (Client.declare h.name).key
    (Client.declare h.name).payload h.settings.declareTimeout e₁)
  split
  · next hfailed =>
    rw [hfailed] at hstart
    exact ⟨hstart.trans (prepares_giveUp h clock _), moves_giveUp h _⟩
  · next call e₂ hsent =>
    rw [hsent] at hstart
    obtain ⟨hnext, hticket, hreplies, _⟩ := Call.start_eq_ok hsent
    exact ⟨hstart, .called call rfl (Nat.le_trans hprepares.next hticket) hnext
      (hreplies ∘ hprepares.fresh) nofun rfl⟩

theorem moves_exchange (h₁ : Handshake) (clock : Clock) (a : Address) {e₁ : Endpoint W}
    (hprepares : Prepares e e₁) :
    Prepares e (h₁.exchange clock a e₁).2
      ∧ h.Moves e (h₁.exchange clock a e₁).1 (h₁.exchange clock a e₁).2 := by
  unfold exchange
  dsimp only
  generalize (if a = e₁.address then e₁ else e₁.setAddress a).node.entropy.secret = secret
  generalize hmoved : (if a = e₁.address then e₁ else e₁.setAddress a).update
    (fun d => { d with entropy := d.entropy.next }) = e₂
  -- The module has taken the address before it asks for a key.
  have haddress : e₂.address = a := by
    rw [← hmoved]
    split
    · next hsame => exact hsame.symm
    · rfl
  have hmove : Prepares e e₂ := by
    refine hprepares.trans ?_
    rw [← hmoved]
    split
    · exact .of_eq rfl rfl
    · exact .of_eq rfl rfl
  have hstart := hmove.trans (Call.prepares_start clock
    (Client.exchangeKey (e₂.node.suite.publicPoint secret)).key
    (Client.exchangeKey (e₂.node.suite.publicPoint secret)).payload
    h₁.settings.keyExchangeTimeout e₂)
  split
  · next hfailed =>
    rw [hfailed] at hstart
    exact ⟨hstart.trans (prepares_giveUp _ clock _), moves_giveUp _ _⟩
  · next call e₃ hsent =>
    rw [hsent] at hstart
    obtain ⟨hnext, hticket, hreplies, hkept⟩ := Call.start_eq_ok hsent
    refine ⟨hstart, .called call rfl (Nat.le_trans hmove.next hticket) hnext
      (hreplies ∘ hmove.fresh) ?_ rfl⟩
    rintro b secret' ⟨⟩
    exact hkept.trans haddress

omit [Link W] in
theorem moves_complete {a : Address} {secret : Nat} {call : Call} {point : Bytes}
    (clock : Clock) (hwaiting : h.waiting = .exchanging a secret call)
    (hreply : e.node.pending.reply? call.ticket = some ⟨.response, point⟩) :
    Prepares e (h.complete clock a secret point (call.abandon e)).2
      ∧ h.Moves e (h.complete clock a secret point (call.abandon e)).1
        (h.complete clock a secret point (call.abandon e)).2 := by
  unfold complete
  dsimp only
  split
  · exact ⟨(Prepares.abandon e call).trans (prepares_giveUp _ clock _), moves_giveUp _ _⟩
  · next key hagree =>
    exact ⟨(Prepares.abandon e call).trans (.of_eq rfl rfl),
      .finished a secret call point key hwaiting hreply hagree rfl rfl
        (Dispatcher.key?_installKey_self _ _ _)⟩

theorem moves_advance (hstep : h.advance clock e = some (h', e')) :
    Prepares e e' ∧ h.Moves e h' e' := by
  unfold advance at hstep
  split at hstep
  · split at hstep
    · split at hstep
      · cases hstep
        exact ⟨.refl e, .waits rfl rfl⟩
      · cases hstep
        exact ⟨prepares_giveUp h clock e, moves_giveUp h e⟩
    · cases hstep
  · split at hstep
    · have hmoves := moves_declare h clock e
      rw [Option.some.inj hstep] at hmoves
      exact hmoves
    · cases hstep
  · next call hwaiting =>
    obtain ⟨⟨reply, e₁⟩, hcall, hnext⟩ := Option.map_eq_some_iff.mp hstep
    obtain ⟨rfl, _⟩ := Call.step_eq_some hcall
    dsimp only at hnext
    split at hnext
    · next a _ =>
      have hmoves := moves_exchange (h := h) h clock a (.abandon e call)
      rw [hnext] at hmoves
      exact hmoves
    · cases hnext
      exact ⟨(Prepares.abandon e call).trans (prepares_giveUp h clock _), moves_giveUp h _⟩
  · next a secret call hwaiting =>
    obtain ⟨⟨reply, e₁⟩, hcall, hnext⟩ := Option.map_eq_some_iff.mp hstep
    obtain ⟨rfl, hreply⟩ := Call.step_eq_some hcall
    cases reply with
    | ok point =>
      have hmoves := moves_complete clock hwaiting (hreply point rfl)
      dsimp only at hnext
      rw [hnext] at hmoves
      exact hmoves
    | error error =>
      cases hnext
      exact ⟨(Prepares.abandon e call).trans (prepares_giveUp h clock _), moves_giveUp h _⟩
  · cases hstep

omit [Link W] [Lines W] in
theorem prepares_abandonCall (h : Handshake) (e : Endpoint W) : Prepares e (h.abandonCall e) := by
  unfold abandonCall
  split
  · exact .abandon e _
  · exact .abandon e _
  · exact .refl e

/-- What a step of a handshake does. -/
theorem moves_step (hstep : h.step clock e = some (h', e')) :
    Prepares e e' ∧ h.Moves e h' e' := by
  unfold step at hstep
  split at hstep
  · cases hstep
  · split at hstep
    · cases hstep
      exact ⟨.refl e, .waits rfl rfl⟩
    · split at hstep
      · cases hstep
        exact ⟨.of_eq rfl rfl, .waits rfl rfl⟩
      · cases hstep
  · split at hstep
    · cases hstep
      exact ⟨.of_eq rfl rfl, .waits rfl rfl⟩
    · cases hstep
  · split at hstep
    · next hadvance =>
      cases hstep
      exact moves_advance hadvance
    · split at hstep
      · cases hstep
      · cases hstep
        exact ⟨(prepares_abandonCall h e).trans (prepares_giveUp h clock _), moves_giveUp h _⟩

end

end Handshake

end ModuleBus

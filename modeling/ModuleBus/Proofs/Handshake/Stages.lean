import Mathlib.Logic.Function.Basic
import ModuleBus.Proofs.Handshake.Steps

set_option autoImplicit false

/-! # The stages of an attempt

At every stage of a handshake the lines of the module, its key and what has happened in the attempt
fit together (`Stands`). An attempt is given up in one place, where the key for the controller is
forgotten and the request line released, and the handshake pauses there until the next attempt
asserts the line again; the only other end is that the controller's point arrives and makes a key.
Both replies are then known to have come in the same attempt: each was kept under the ticket of a
call that the attempt registered (`Awaits`), and a ticket that is new has no replies, so that late
replies to older attempts do not count. -/

namespace ModuleBus

variable {W : Type}

/-! ## Lines that can be seen -/

/-- A world in which the levels of the lines that modules drive can be seen. -/
structure Driven (W : Type) where
  world : W
  request : Port → Bool
  lamp : Port → Bool

instance [Link W] : Link (Driven W) where
  write p a packet w :=
    let (result, world) := Link.write p a packet w.world
    (result, { w with world := world })
  receive p w :=
    let (reception, world) := Link.receive p w.world
    (reception, { w with world := world })
  setAddress p a w := { w with world := Link.setAddress p a w.world }

instance [Lines W] : Lines (Driven W) where
  setRequest p on w :=
    { w with world := Lines.setRequest p on w.world, request := Function.update w.request p on }
  isGranted w := Lines.isGranted w.world
  setIndicator p on w :=
    { w with world := Lines.setIndicator p on w.world, lamp := Function.update w.lamp p on }

/-- What the modules drive. -/
def Driven.lines (w : Driven W) : (Port → Bool) × (Port → Bool) := (w.request, w.lamp)

theorem Driven.lines_write [Link W] (p : Port) (a : Address) (packet : Bytes) (w : Driven W) :
    (Link.write p a packet w).2.lines = w.lines := rfl

namespace Endpoint

/-- The levels of a participant's request line and of its lamp. -/
def levels (e : Endpoint (Driven W)) : Bool × Bool :=
  (e.world.request e.node.port, e.world.lamp e.node.port)

variable [Link W]

theorem levels_sendEnvelope (e : Endpoint (Driven W)) (a : Address) (maySeal : Bool)
    (bytes : Bytes) : (e.sendEnvelope a maySeal bytes).2.levels = e.levels := by
  obtain ⟨encoder, entropy, hframe⟩ := e.sendEnvelope_frame a maySeal bytes
  obtain ⟨hrequest, hlamp⟩ := Prod.mk.inj (view_sendEnvelope Driven.lines_write e a maySeal bytes)
  rw [levels, hframe, hrequest, hlamp]
  rfl

theorem levels_send (e : Endpoint (Driven W)) (a : Address) (frame : FrameKind) (service : Service)
    (type : UInt8) (payload : Bytes) : (e.send a frame service type payload).2.levels = e.levels :=
  e.levels_sendEnvelope _ _ _

end Endpoint

theorem Call.levels_start [Link W] (clock : Clock) (key : CallKey) (payload : Bytes) (timeout : Nat)
    (e : Endpoint (Driven W)) : (start clock key payload timeout e).2.levels = e.levels := by
  unfold start
  split
  · rfl
  · next t p _ =>
    dsimp only
    have hsent := (e.update fun d => { d with pending := p }).levels_send key.peer .command
      key.service key.type payload
    split
    · next h =>
      rw [h] at hsent
      exact hsent
    · next h =>
      rw [h] at hsent
      exact hsent

namespace Handshake

variable [Lines W]

theorem levels_setRequest (e : Endpoint (Driven W)) (on : Bool) :
    (setRequest e on).levels = (on, e.levels.2) :=
  congrArg (·, e.levels.2) (Function.update_self ..)

theorem levels_setIndicator (e : Endpoint (Driven W)) (on : Bool) :
    (setIndicator e on).levels = (e.levels.1, on) :=
  congrArg (e.levels.1, ·) (Function.update_self ..)

end Handshake

/-! ## What happens in an attempt -/

/-- The message is a response of the controller to a request for initialization. -/
structure Message.Answers (m : Message) (type : InitializationRequest) : Prop where
  key : m.replyKey = ⟨.controller, .initialization, type.toByte⟩
  frame : m.frame = .response

/-- What happens in an attempt. -/
inductive Occurrence where
  | granted
  | arrived (m : Message)
  /-- A secret was drawn, and its public point is sent. -/
  | proposed (secret : Nat)
deriving DecidableEq

/-- What the step that has led to this stage of a handshake adds to the record of its attempt. -/
def Handshake.marks (h : Handshake) : List Occurrence :=
  match h.waiting with
  | .settling _ => [.granted]
  | .exchanging _ secret _ => [.proposed secret]
  | _ => []

/-! ## Calls of an attempt -/

/-- A call of an attempt waits for its reply. Every response that is kept for it has arrived in the
attempt, after what was in its record when the call was sent. -/
structure Awaits (e : Endpoint (Driven W)) (call : Call) (type : InitializationRequest)
    (earlier attempt : List Occurrence) : Prop where
  sent : earlier.Sublist attempt
  key : ∀ key, (key, call.ticket) ∈ e.node.pending.waiting →
    key = ⟨.controller, .initialization, type.toByte⟩
  replied : ∀ r ∈ e.node.pending.replies call.ticket, r.frame = .response →
    ∃ m : Message, m.Answers type ∧ m.payload = r.payload ∧ (.arrived m :: earlier).Sublist attempt

namespace Awaits

variable {e e' : Endpoint (Driven W)} {call : Call} {type : InitializationRequest}
  {earlier attempt : List Occurrence}

theorem congr (h : Awaits e call type earlier attempt)
    (hpending : e'.node.pending = e.node.pending) : Awaits e' call type earlier attempt :=
  ⟨h.sent, by rw [hpending]; exact h.key, by rw [hpending]; exact h.replied⟩

/-- A call that has just been sent has no replies. -/
theorem of_start [Link W] {clock : Clock} {payload : Bytes} {timeout : Nat}
    (hfresh : e.node.pending.IsFresh) (hsent : earlier.Sublist attempt)
    (h : Call.start clock ⟨.controller, .initialization, type.toByte⟩ payload timeout e
      = (.ok call, e')) : Awaits e' call type earlier attempt := by
  obtain ⟨hregister, _⟩ := Call.register_of_start h
  obtain ⟨_, hticket, hpending⟩ := PendingCalls.register_eq_some hregister
  obtain ⟨hreplies, hwaiting⟩ := hfresh _ (Nat.le_of_eq hticket.symm)
  constructor
  case sent => exact hsent
  case key =>
    intro key hmem
    rw [hpending] at hmem
    rcases List.mem_cons.mp hmem with heq | hmem
    · exact congrArg Prod.fst heq
    · exact absurd hmem (hwaiting key)
  case replied =>
    intro r hr
    have hnone : e'.node.pending.replies call.ticket = [] := by
      rw [hpending]
      exact hreplies
    rw [hnone] at hr
    cases hr

/-- A message that arrives is not kept for the call, or it is the reply to it. -/
theorem arrive (h : Awaits e call type earlier attempt) (m : Message) :
    Awaits (e.update fun d => (d.route m).2) call type earlier (.arrived m :: attempt) := by
  have holder {r : Reply} (hr : r ∈ e.node.pending.replies call.ticket)
      (hframe : r.frame = .response) : ∃ m' : Message, m'.Answers type ∧ m'.payload = r.payload
        ∧ (.arrived m' :: earlier).Sublist (.arrived m :: attempt) := by
    obtain ⟨m', hanswers, hpayload, hlog⟩ := h.replied r hr hframe
    exact ⟨m', hanswers, hpayload, hlog.cons _⟩
  constructor
  case sent => exact h.sent.cons _
  case key =>
    intro key hmem
    exact h.key key ((e.node.waiting_route_sublist m).subset hmem)
  case replied =>
    intro r hr hframe
    rcases e.node.pending_route_cases m with hsame | ⟨t, _, hentry, hanswer⟩
    · rw [Endpoint.update, hsame] at hr
      exact holder hr hframe
    · rw [Endpoint.update, hanswer, PendingCalls.replies_answer] at hr
      split at hr
      · next ht =>
        rcases List.mem_cons.mp hr with rfl | hr
        · exact ⟨m, ⟨h.key _ (ht ▸ hentry), hframe⟩, rfl, h.sent.cons_cons _⟩
        · exact holder hr hframe
      · exact holder hr hframe

/-- The reply that ends the call has arrived in the attempt. -/
theorem exists_of_reply? {bytes : Bytes} (h : Awaits e call type earlier attempt)
    (hreply : e.node.pending.reply? call.ticket = some ⟨.response, bytes⟩) :
    ∃ m : Message, m.Answers type ∧ m.payload = bytes
      ∧ (.arrived m :: earlier).Sublist attempt := by
  rw [PendingCalls.reply?_eq_head?] at hreply
  exact h.replied _ (List.mem_of_mem_head? hreply) rfl

end Awaits

/-! ## What holds at each stage -/

/-- The attempt has been completed: both replies have come, the second one with a point that makes
the key with the secret of the attempt, and everything is as it is to be after a handshake. -/
structure IsCompleted (e : Endpoint (Driven W)) (attempt : List Occurrence) (a : Address) :
    Prop where
  exchanged : ∃ (declared offered : Message) (secret : Nat) (key : SessionKey),
    [.arrived offered, .proposed secret, .arrived declared, .granted].Sublist attempt
      ∧ declared.Answers .declare ∧ declared.payload.head? = some a.value
      ∧ offered.Answers .exchangeKey ∧ e.node.suite.agree secret offered.payload = .ok key
      ∧ e.node.key? .controller = some key
  address : e.address = a
  levels : e.levels = (false, false)

/-- What holds of the lines, the key and the record at each stage. -/
inductive Stands (h : Handshake) (e : Endpoint (Driven W)) (attempt : List Occurrence) : Prop where
  | asking {timer : Timer} (hwaiting : h.waiting = .forGrant timer)
      (hlevels : e.levels = (true, true)) (hnone : .granted ∉ attempt)
  /-- The attempt has been given up. -/
  | pausing {timer : Timer} (hwaiting : h.waiting = .backoff timer)
      (hlevels : e.levels = (false, true))
      (hkey : .granted ∈ attempt → e.node.key? .controller = none)
  | settling {timer : Timer} (hwaiting : h.waiting = .settling timer)
      (hlevels : e.levels = (true, true)) (hgranted : [.granted].Sublist attempt)
  | delaying {timer : Timer} (hwaiting : h.waiting = .delaying timer)
      (hlevels : e.levels = (true, true)) (hgranted : [.granted].Sublist attempt)
  | declaring {call : Call} (hwaiting : h.waiting = .declaring call)
      (hlevels : e.levels = (true, true)) (hawaits : Awaits e call .declare [.granted] attempt)
  | exchanging {a : Address} {secret : Nat} {call : Call} {declared : Message}
      (hwaiting : h.waiting = .exchanging a secret call) (hlevels : e.levels = (true, true))
      (haddress : e.address = a) (hdeclared : declared.Answers .declare)
      (hbyte : declared.payload.head? = some a.value)
      (hawaits : Awaits e call .exchangeKey [.proposed secret, .arrived declared, .granted] attempt)
  | finished {a : Address} (hwaiting : h.waiting = .finished a)
      (hcompleted : IsCompleted e attempt a)

theorem Stands.isCompleted {h : Handshake} {e : Endpoint (Driven W)} {attempt : List Occurrence}
    {a : Address} (hstands : Stands h e attempt) (hfinished : h.waiting = .finished a) :
    IsCompleted e attempt a := by
  cases hstands with
  | finished hwaiting hcompleted =>
    cases hwaiting.symm.trans hfinished
    exact hcompleted
  | asking hwaiting _ _ | pausing hwaiting _ _ | settling hwaiting _ _ | delaying hwaiting _ _
  | declaring hwaiting _ _ | exchanging hwaiting _ _ _ _ _ =>
    exact nomatch hwaiting.symm.trans hfinished

/-- While the next attempt is waited for, the line is released, and the key of an attempt with a
grant forgotten. -/
theorem Stands.isReleased {h : Handshake} {e : Endpoint (Driven W)} {attempt : List Occurrence}
    {timer : Timer} (hstands : Stands h e attempt) (hpausing : h.waiting = .backoff timer) :
    e.levels.1 = false ∧ (.granted ∈ attempt → e.node.key? .controller = none) := by
  cases hstands with
  | pausing _ hlevels hkey => exact ⟨congrArg Prod.fst hlevels, hkey⟩
  | asking hwaiting _ _ | settling hwaiting _ _ | delaying hwaiting _ _ | declaring hwaiting _ _
  | exchanging hwaiting _ _ _ _ _ | finished hwaiting _ =>
    exact nomatch hwaiting.symm.trans hpausing

/-- What happens around a handshake changes nothing at its stage, if the grant is not recorded
anew. -/
theorem Stands.mono {h : Handshake} {e e' : Endpoint (Driven W)} {attempt : List Occurrence}
    (new : List Occurrence) (hstands : Stands h e attempt) (hsuite : e'.node.suite = e.node.suite)
    (hkeys : e'.node.keys = e.node.keys) (haddress : e'.address = e.address)
    (hlevels : e'.levels = e.levels) (hnew : .granted ∉ new)
    (hawaits : ∀ {call type earlier}, Awaits e call type earlier attempt →
      Awaits e' call type earlier (new ++ attempt)) : Stands h e' (new ++ attempt) := by
  have hkey : e'.node.key? .controller = e.node.key? .controller := by
    rw [Dispatcher.key?, hkeys]
    rfl
  have hgranted : .granted ∈ new ++ attempt ↔ .granted ∈ attempt := by simp [hnew]
  have hlog {log : List Occurrence} (h : log.Sublist attempt) : log.Sublist (new ++ attempt) :=
    h.trans (List.sublist_append_right _ _)
  cases hstands with
  | asking hwaiting hl hnone => exact .asking hwaiting (hlevels.trans hl) (mt hgranted.mp hnone)
  | pausing hwaiting hl hforgotten =>
    exact .pausing hwaiting (hlevels.trans hl) fun h => hkey.trans (hforgotten (hgranted.mp h))
  | settling hwaiting hl hg => exact .settling hwaiting (hlevels.trans hl) (hlog hg)
  | delaying hwaiting hl hg => exact .delaying hwaiting (hlevels.trans hl) (hlog hg)
  | declaring hwaiting hl ha => exact .declaring hwaiting (hlevels.trans hl) (hawaits ha)
  | exchanging hwaiting hl haddr hdeclared hbyte ha =>
    exact .exchanging hwaiting (hlevels.trans hl) (haddress.trans haddr) hdeclared hbyte
      (hawaits ha)
  | finished hwaiting hcompleted =>
    obtain ⟨⟨declared, offered, secret, key, hl, hdeclared, hbyte, hoffered, hagree, hheld⟩, haddr,
      hdark⟩ := hcompleted
    exact .finished hwaiting ⟨⟨declared, offered, secret, key, hlog hl, hdeclared, hbyte, hoffered,
      hsuite ▸ hagree, hkey.trans hheld⟩, haddress.trans haddr, hlevels.trans hdark⟩

/-- The attempt goes on, or has just ended. -/
structure Continues (h h' : Handshake) (e' : Endpoint (Driven W)) (attempt : List Occurrence) :
    Prop where
  attempts : h'.attempts = h.attempts
  stands : Stands h' e' (h'.marks ++ attempt)

/-- The next attempt begins. -/
structure Restarts (h h' : Handshake) (e' : Endpoint (Driven W)) : Prop where
  paused : ∃ timer, h.waiting = .backoff timer
  attempts : h'.attempts = h.attempts + 1
  waiting : ∃ timer, h'.waiting = .forGrant timer
  levels : e'.levels = (true, true)

theorem Restarts.stands {h h' : Handshake} {e' : Endpoint (Driven W)} (hrestarts : Restarts h h' e') :
    Stands h' e' [] := by
  obtain ⟨timer, hwaiting⟩ := hrestarts.waiting
  exact .asking hwaiting hrestarts.levels List.not_mem_nil

namespace Handshake

variable {h h' : Handshake} {clock : Clock} {e e' : Endpoint (Driven W)}
  {attempt : List Occurrence}

theorem levels_abandonCall (h : Handshake) (e : Endpoint (Driven W)) :
    (h.abandonCall e).levels = e.levels := by
  unfold abandonCall
  split <;> rfl

section

variable [Lines W]

/-- An attempt that is given up leaves no key and no request. -/
theorem continues_giveUp (clock : Clock) (hattempts : h'.attempts = h.attempts)
    (hlamp : e.levels.2 = true) :
    Continues h (h'.giveUp clock e).1 (h'.giveUp clock e).2 attempt := by
  refine ⟨hattempts, .pausing rfl ?_ fun _ => ?_⟩
  · have hlevels : (h'.giveUp clock e).2.levels = (false, e.levels.2) := levels_setRequest _ _
    rw [hlevels, hlamp]
  · exact (Dispatcher.key?_revokeKey _ _ _).trans (if_pos rfl)

variable [Link W]

theorem continues_declare (clock : Clock) (hfresh : e.node.pending.IsFresh)
    (hlevels : e.levels = (true, true)) (hgranted : [.granted].Sublist attempt) :
    Continues h (h.declare clock e).1 (h.declare clock e).2 attempt := by
  unfold declare
  dsimp only
  have hstart := Call.levels_start clock (Client.declare h.name).key
    (Client.declare h.name).payload h.settings.declareTimeout (e.update (·.revokeKey .controller))
  have hbefore : (e.update (·.revokeKey .controller)).levels = (true, true) := hlevels
  have hfresh' : (e.update (·.revokeKey .controller)).node.pending.IsFresh := hfresh
  rw [hbefore] at hstart
  split
  · next hfailed =>
    rw [hfailed] at hstart
    exact continues_giveUp clock rfl (by rw [hstart])
  · next call e' hsent =>
    rw [hsent] at hstart
    exact ⟨rfl, .declaring rfl hstart (.of_start hfresh' hgranted hsent)⟩

theorem continues_exchange (h : Handshake) (clock : Clock) {declared : Message} {a : Address}
    (hfresh : e.node.pending.IsFresh) (hlevels : e.levels = (true, true))
    (hdeclared : declared.Answers .declare) (hbyte : declared.payload.head? = some a.value)
    (hlog : [.arrived declared, .granted].Sublist attempt) :
    Continues h (h.exchange clock a e).1 (h.exchange clock a e).2 attempt := by
  unfold exchange
  dsimp only
  generalize (if a = e.address then e else e.setAddress a).node.entropy.secret = secret
  generalize hmoved : (if a = e.address then e else e.setAddress a).update
    (fun d => { d with entropy := d.entropy.next }) = e₁
  obtain ⟨haddress, hbefore, hpending⟩ : e₁.address = a ∧ e₁.levels = (true, true)
      ∧ e₁.node.pending = e.node.pending := by
    rw [← hmoved]
    split
    · next hsame => exact ⟨hsame.symm, hlevels, rfl⟩
    · exact ⟨rfl, hlevels, rfl⟩
  have hstart := Call.levels_start clock
    (Client.exchangeKey (e₁.node.suite.publicPoint secret)).key
    (Client.exchangeKey (e₁.node.suite.publicPoint secret)).payload
    h.settings.keyExchangeTimeout e₁
  rw [hbefore] at hstart
  split
  · next hfailed =>
    rw [hfailed] at hstart
    exact continues_giveUp clock rfl (by rw [hstart])
  · next call e' hsent =>
    rw [hsent] at hstart
    refine ⟨rfl, .exchanging rfl hstart ?_ hdeclared hbyte ?_⟩
    · exact (Call.register_of_start hsent).2.trans haddress
    · exact .of_start (hpending ▸ hfresh) (hlog.cons_cons _) hsent

omit [Link W] in
theorem continues_complete (h : Handshake) (clock : Clock) {declared offered : Message}
    {a : Address} {secret : Nat} (hlevels : e.levels = (true, true)) (haddress : e.address = a)
    (hdeclared : declared.Answers .declare) (hbyte : declared.payload.head? = some a.value)
    (hoffered : offered.Answers .exchangeKey)
    (hlog : [.arrived offered, .proposed secret, .arrived declared, .granted].Sublist attempt) :
    Continues h (h.complete clock a secret offered.payload e).1
      (h.complete clock a secret offered.payload e).2 attempt := by
  unfold complete
  dsimp only
  split
  · exact continues_giveUp clock rfl (by rw [hlevels])
  · next key hagree =>
    refine ⟨rfl, .finished rfl ⟨⟨declared, offered, secret, key, hlog, hdeclared, hbyte, hoffered,
      hagree, ?_⟩, haddress, ?_⟩⟩
    · exact Dispatcher.key?_installKey_self _ _ _
    · rw [levels_setIndicator, levels_setRequest]

/-- The controller's answer to the declaration comes, or the call for it fails. -/
theorem continues_declaring {call : Call} (hwaiting : h.waiting = .declaring call)
    (hlevels : e.levels = (true, true)) (hawaits : Awaits e call .declare [.granted] attempt)
    (hfresh : e.node.pending.IsFresh) (hstep : h.advance clock e = some (h', e')) :
    Continues h h' e' attempt := by
  simp only [advance, hwaiting] at hstep
  obtain ⟨⟨reply, e₁⟩, hcall, hnext⟩ := Option.map_eq_some_iff.mp hstep
  obtain ⟨rfl, hreply⟩ := Call.step_eq_some hcall
  have hforgotten : (call.abandon e).node.pending.IsFresh := hfresh.forget call.ticket
  dsimp only at hnext
  split at hnext
  · next a hread =>
    cases reply with
    | error error => cases hread
    | ok bytes =>
      obtain ⟨declared, hdeclared, hpayload, hlog⟩ := hawaits.exists_of_reply? (hreply bytes rfl)
      have hbyte : declared.payload.head? = some a.value := by
        obtain ⟨b, hb, rfl⟩ := Option.map_eq_some_iff.mp (Except.ok.inj hread)
        rw [hpayload, hb]
      have hcontinues := continues_exchange h clock hforgotten hlevels hdeclared hbyte hlog
      rw [hnext] at hcontinues
      exact hcontinues
  · cases hnext
    exact continues_giveUp clock rfl (congrArg Prod.snd hlevels)

/-- The controller's point comes, or the call for it fails. -/
theorem continues_exchanging {a : Address} {secret : Nat} {call : Call} {declared : Message}
    (hwaiting : h.waiting = .exchanging a secret call) (hlevels : e.levels = (true, true))
    (haddress : e.address = a) (hdeclared : declared.Answers .declare)
    (hbyte : declared.payload.head? = some a.value)
    (hawaits : Awaits e call .exchangeKey [.proposed secret, .arrived declared, .granted] attempt)
    (hstep : h.advance clock e = some (h', e')) : Continues h h' e' attempt := by
  simp only [advance, hwaiting] at hstep
  obtain ⟨⟨reply, e₁⟩, hcall, hnext⟩ := Option.map_eq_some_iff.mp hstep
  obtain ⟨rfl, hreply⟩ := Call.step_eq_some hcall
  cases reply with
  | ok point =>
    obtain ⟨offered, hoffered, rfl, hlog⟩ := hawaits.exists_of_reply? (hreply point rfl)
    have hcontinues := continues_complete h clock (e := call.abandon e) hlevels haddress hdeclared
      hbyte hoffered hlog
    dsimp only at hnext
    rw [hnext] at hcontinues
    exact hcontinues
  | error error =>
    cases hnext
    exact continues_giveUp clock rfl (congrArg Prod.snd hlevels)

theorem continues_advance (hstands : Stands h e attempt) (hfresh : e.node.pending.IsFresh)
    (hstep : h.advance clock e = some (h', e')) : Continues h h' e' attempt := by
  cases hstands with
  | asking hwaiting _ _ | pausing hwaiting _ _ | finished hwaiting _ =>
    simp only [advance, hwaiting] at hstep
    cases hstep
  | settling hwaiting hlevels hgranted =>
    simp only [advance, hwaiting] at hstep
    split at hstep
    · split at hstep
      · cases hstep
        exact ⟨rfl, .delaying rfl hlevels hgranted⟩
      · cases hstep
        exact continues_giveUp clock rfl (by rw [hlevels])
    · cases hstep
  | delaying hwaiting hlevels hgranted =>
    simp only [advance, hwaiting] at hstep
    split at hstep
    · have hcontinues := continues_declare (h := h) clock hfresh hlevels hgranted
      rw [Option.some.inj hstep] at hcontinues
      exact hcontinues
    · cases hstep
  | declaring hwaiting hlevels hawaits =>
    exact continues_declaring hwaiting hlevels hawaits hfresh hstep
  | exchanging hwaiting hlevels haddress hdeclared hbyte hawaits =>
    exact continues_exchanging hwaiting hlevels haddress hdeclared hbyte hawaits hstep

/-- While the line is asserted a step goes on with the attempt, or ends it; after that the next one
begins. -/
theorem step_cases (hstands : Stands h e attempt) (hfresh : e.node.pending.IsFresh)
    (hstep : h.step clock e = some (h', e')) :
    e.levels = (true, true) ∧ Continues h h' e' attempt ∨ Restarts h h' e' := by
  have hadvances : h.advance clock e = some (h', e') → Continues h h' e' attempt :=
    continues_advance hstands hfresh
  unfold step at hstep
  cases hstands with
  | asking hwaiting hlevels hnone =>
    refine .inl ⟨hlevels, ?_⟩
    simp only [hwaiting] at hstep
    split at hstep
    · cases hstep
      exact ⟨rfl, .settling rfl hlevels ((List.nil_sublist attempt).cons_cons _)⟩
    · split at hstep
      · cases hstep
        refine ⟨rfl, .pausing rfl ?_ fun hgranted => absurd hgranted hnone⟩
        exact (levels_setRequest e false).trans (by rw [hlevels])
      · cases hstep
  | pausing hwaiting hlevels _ =>
    simp only [hwaiting] at hstep
    split at hstep
    · cases hstep
      refine .inr ⟨⟨_, hwaiting⟩, rfl, ⟨_, rfl⟩, ?_⟩
      exact (levels_setRequest _ true).trans (by rw [levels_setIndicator])
    · cases hstep
  | settling hwaiting hlevels _ | delaying hwaiting hlevels _ | declaring hwaiting hlevels _
  | exchanging hwaiting hlevels _ _ _ _ =>
    refine .inl ⟨hlevels, ?_⟩
    simp only [hwaiting] at hstep
    split at hstep
    · next hadvance =>
      cases hstep
      exact hadvances hadvance
    · split at hstep
      · cases hstep
      · cases hstep
        exact continues_giveUp clock rfl (by rw [levels_abandonCall, hlevels])
  | finished hwaiting _ =>
    simp only [hwaiting] at hstep
    cases hstep

end

end Handshake

end ModuleBus

import ModuleBus.Dispatch.Server
import ModuleBus.Proofs.Handshake.Steps

set_option autoImplicit false

/-! # One call at a time

Whoever waits for the reply to one call at most, and forgets that call before the next one begins,
keeps the table of calls clean: it has no call in it but the one that is waited for. How a
participant goes from one call to the next, while the queue of requests stays as it is, is told for
one function after another (`Endpoint.Minds`); only a server takes requests from the queue. -/

namespace ModuleBus

/-! ## The table of calls -/

/-- The table has no call in it but the one with the ticket. -/
structure PendingCalls.IsOnly (p : PendingCalls) (t : Option Ticket) : Prop where
  waiting : ∀ w ∈ p.waiting, t = some w.2
  answered : ∀ a ∈ p.answered, t = some a.1

namespace PendingCalls.IsOnly

variable {p p' : PendingCalls} {key : CallKey} {t : Option Ticket} {s : Ticket}

theorem eq_nil (h : p.IsOnly Option.none) : p.waiting = [] ∧ p.answered = [] :=
  ⟨List.eq_nil_iff_forall_not_mem.mpr fun w hw => Option.some_ne_none _ (h.waiting w hw).symm,
    List.eq_nil_iff_forall_not_mem.mpr fun a ha => Option.some_ne_none _ (h.answered a ha).symm⟩

theorem register (h : p.IsOnly Option.none) (hregister : p.register key = (some s, p')) :
    p'.IsOnly (some s) := by
  obtain ⟨-, rfl, rfl⟩ := register_eq_some hregister
  obtain ⟨hwaiting, hanswered⟩ := h.eq_nil
  refine ⟨fun w hw => ?_, fun a ha => ?_⟩
  · rw [hwaiting, List.mem_singleton] at hw
    rw [hw]
  · rw [hanswered] at ha
    cases ha

theorem forget (h : p.IsOnly (some s)) : (p.forget s).IsOnly Option.none := by
  refine ⟨fun w hw => ?_, fun a ha => ?_⟩
  · obtain ⟨hmem, hne⟩ := List.mem_filter.mp hw
    have hs := Option.some.inj (h.waiting w hmem)
    simp [hs] at hne
  · obtain ⟨hmem, hne⟩ := List.mem_filter.mp ha
    have hs := Option.some.inj (h.answered a hmem)
    simp [hs] at hne

theorem answer (h : p.IsOnly t) (hentry : (key, s) ∈ p.waiting) (r : Reply) :
    (p.answer key s r).IsOnly t := by
  refine ⟨fun w hw => h.waiting w (List.mem_filter.mp hw).1, fun a ha => ?_⟩
  obtain rfl | ha' := List.mem_cons.mp ha
  · exact h.waiting _ hentry
  · exact h.answered a ha'

end PendingCalls.IsOnly

theorem Dispatcher.isOnly_route {d : Dispatcher} {t : Option Ticket} (h : d.pending.IsOnly t)
    (m : Message) : (d.route m).2.pending.IsOnly t := by
  rcases d.pending_route_cases m with hsame | ⟨s, -, hentry, hanswer⟩
  · rw [hsame]
    exact h
  · rw [hanswer]
    exact h.answer hentry _

/-! ## From one call to the next -/

variable {W : Type}

/-- Between two states of an endpoint the queue stays, and the call that is waited for goes from one
to another. -/
structure Endpoint.Minds (t t' : Option Ticket) (e e' : Endpoint W) : Prop where
  inbound : e'.node.inbound = e.node.inbound
  calls : e.node.pending.IsOnly t → e'.node.pending.IsOnly t'

namespace Endpoint.Minds

variable {t t' t'' : Option Ticket} {e e' e'' : Endpoint W}

theorem of_eq (hinbound : e'.node.inbound = e.node.inbound)
    (hpending : e'.node.pending = e.node.pending) : Minds t t e e' :=
  ⟨hinbound, fun h => hpending ▸ h⟩

theorem refl (e : Endpoint W) : Minds t t e e := of_eq rfl rfl

theorem trans (h : Minds t t' e e') (h' : Minds t' t'' e' e'') : Minds t t'' e e'' :=
  ⟨h'.inbound.trans h.inbound, h'.calls ∘ h.calls⟩

theorem abandon (call : Call) (e : Endpoint W) :
    Minds (some call.ticket) none e (call.abandon e) :=
  ⟨rfl, fun h => h.forget⟩

end Endpoint.Minds

open Endpoint (Minds)

/-- The reply to the request leaves the calls and the queue alone. -/
def Request.IsTame {α : Type} (r : Request α) : Prop :=
  ∀ bytes d, (r.onReply bytes d).inbound = d.inbound ∧ (r.onReply bytes d).pending = d.pending

/-- The reply to the exchange, if there is one, leaves the calls and the queue alone. -/
def Exchange.IsTame {α : Type} : Exchange α → Prop
  | .refused _ | .notice _ _ => True
  | .request r _ => r.IsTame

namespace Exchanging

variable {α : Type}

/-- The reply that is waited for, if any, leaves the other calls and the queue alone. -/
def IsTame : Exchanging α → Prop
  | finished _ => True
  | waiting _ r => r.IsTame

/-- The ticket of the call that is waited for. -/
def ticket? : Exchanging α → Option Ticket
  | finished _ => none
  | waiting call _ => some call.ticket

theorem minds_abandon (x : Exchanging α) (e : Endpoint W) :
    Minds x.ticket? none e (x.abandon e) := by
  cases x with
  | finished result => exact .refl e
  | waiting call r => exact .abandon call e

theorem minds_step {x x' : Exchanging α} {clock : Clock} {e e' : Endpoint W} (hx : x.IsTame)
    (h : x.step clock e = some (x', e')) : x'.IsTame ∧ Minds x.ticket? x'.ticket? e e' := by
  cases x with
  | finished result => cases h
  | waiting call r =>
    obtain ⟨⟨reply, e₁⟩, hcall, heq⟩ := Option.map_eq_some_iff.mp h
    obtain ⟨rfl, -⟩ := Call.step_eq_some hcall
    cases heq
    refine ⟨trivial, (Minds.abandon call e).trans ?_⟩
    cases reply with
    | error error => exact .refl _
    | ok bytes => exact .of_eq (hx bytes _).1 (hx bytes _).2

end Exchanging

variable [Link W]

theorem Endpoint.minds_send {t : Option Ticket} (e : Endpoint W) (destination : Address)
    (frame : FrameKind) (service : Service) (type : UInt8) (payload : Bytes) :
    Minds t t e (e.send destination frame service type payload).2 := by
  obtain ⟨encoder, entropy, h⟩ := e.send_frame destination frame service type payload
  exact .of_eq (by rw [h]) (by rw [h])

/-- The ticket of a call that may have been sent. -/
def Call.sent? : Except DispatchError Call → Option Ticket
  | .error _ => none
  | .ok call => some call.ticket

theorem Call.minds_start (clock : Clock) (key : CallKey) (payload : Bytes) (timeout : Nat)
    (e : Endpoint W) :
    Minds none (sent? (start clock key payload timeout e).1) e
      (start clock key payload timeout e).2 := by
  unfold start
  rcases hregister : e.node.pending.register key with ⟨_ | ticket, pending⟩
  · exact .refl e
  · have hregistered : Minds none (some ticket) e
        (e.update fun d => { d with pending := pending }) :=
      ⟨rfl, fun h => h.register hregister⟩
    have hsent := hregistered.trans
      (Endpoint.minds_send _ key.peer .command key.service key.type payload)
    dsimp only
    rcases hsend : (e.update fun d => { d with pending := pending }).send key.peer .command
      key.service key.type payload with ⟨error | written, e₁⟩
    · rw [hsend] at hsent
      exact hsent.trans (.abandon ⟨ticket, clock.after timeout⟩ _)
    · rw [hsend] at hsent
      exact hsent

theorem Exchanging.minds_start {α : Type} {x : Exchange α} (hx : x.IsTame) (clock : Clock)
    (e : Endpoint W) :
    (start x clock e).1.IsTame ∧ Minds none (start x clock e).1.ticket? e (start x clock e).2 := by
  cases x with
  | refused error => exact ⟨trivial, .refl e⟩
  | notice n result => exact ⟨trivial, e.minds_send _ _ _ _ _⟩
  | request r timeout =>
    have hcall := Call.minds_start clock r.key r.payload timeout e
    unfold start
    dsimp only
    rcases hstart : Call.start clock r.key r.payload timeout e with ⟨error | call, e₁⟩
    · rw [hstart] at hcall
      exact ⟨trivial, hcall⟩
    · rw [hstart] at hcall
      exact ⟨hx, hcall⟩

/-! ## Servers -/

theorem ErrorReply.minds_send {t : Option Ticket} (r : ErrorReply) (clock : Clock)
    (e : Endpoint W) : Minds t t e (r.send clock e).2 := by
  obtain ⟨encoder, entropy, tally, h⟩ := r.send_frame clock e
  exact .of_eq (by rw [h]) (by rw [h])

namespace Server

variable {H : Type} {t : Option Ticket} (s : Server H) (clock : Clock) (m : Message)
  (e : Endpoint W)

theorem minds_refuse (r : ErrorReply) : Minds t t e (s.refuse clock r e).2 := by
  have hsend := r.minds_send (t := t) clock e
  unfold refuse
  split
  · next h =>
    rw [h] at hsend
    exact hsend
  · next h =>
    rw [h] at hsend
    exact hsend

theorem minds_fail (code : ErrorCode) : Minds t t e (s.fail clock m code e).2 := by
  unfold fail
  dsimp only
  split
  · exact minds_refuse _ clock e _
  · exact .refl e

theorem minds_answer (payload : Bytes) : Minds t t e (s.answer clock m payload e).2 := by
  have hsend := e.minds_send (t := t) m.source .response m.service m.type payload
  unfold answer Endpoint.reply
  split
  · next h =>
    rw [h] at hsend
    exact hsend
  · next h =>
    rw [h] at hsend
    exact hsend.trans (minds_fail s clock m _ _)

theorem minds_serve [Handler H W] : Minds t t e (s.serve clock m e).2 := by
  have hhandled : Minds t t e { e with world := (Handler.handle clock m s.handler e.world).2.2 } :=
    .of_eq rfl rfl
  unfold serve
  dsimp only
  split
  · exact hhandled.trans (minds_answer _ clock m _ _)
  · exact hhandled
  · exact hhandled.trans (minds_fail _ clock m _ _)
  · exact hhandled

/-- A server that waits for a request takes the first one up. Any other leaves the queue alone. -/
theorem minds_step [Handler H W] {s' : Server H} {e' : Endpoint W}
    (h : s.step clock e = some (s', e')) :
    (s.waiting = .forRequest ∧ ∃ m, e.node.inbound = m :: e'.node.inbound
        ∧ (e.node.pending.IsOnly t → e'.node.pending.IsOnly t))
      ∨ (s.waiting ≠ .forRequest ∧ Minds t t e e') := by
  unfold step at h
  split at h
  · next hwaiting =>
    split at h
    · cases h
    · next m rest hinbound =>
      have hserve := minds_serve (t := t) s clock m (e.update fun d => { d with inbound := rest })
      rw [Option.some.inj h] at hserve
      refine .inl ⟨hwaiting, m, ?_, hserve.calls⟩
      rw [hinbound, hserve.inbound]
      rfl
  · next m payload timer hwaiting =>
    split at h
    · have hanswer := minds_answer (t := t) s clock m e payload
      rw [Option.some.inj h] at hanswer
      exact .inr ⟨by rw [hwaiting]; exact nofun, hanswer⟩
    · cases h
  · next r timer hwaiting =>
    split at h
    · have hrefuse := minds_refuse (t := t) s clock e r
      rw [Option.some.inj h] at hrefuse
      exact .inr ⟨by rw [hwaiting]; exact nofun, hrefuse⟩
    · cases h

end Server

end ModuleBus

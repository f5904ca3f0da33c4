import ModuleBus.Dispatch.Listener
import ModuleBus.Proofs.Dispatch.Answers
import ModuleBus.Proofs.Dispatch.Pending

set_option autoImplicit false

/-! # What a listener hears

A message that arrives as a whole makes an inquiry if it can be opened and read and is a command or
a notification, of a known service or not. A step of a listener that takes in no inquiry writes
nothing, unless it tries an error reply again. An inquiry is queued, or answered with an error at
once, or dropped. -/

namespace ModuleBus

open Endpoint (Pays Idles)

variable {W : Type}

/-! ## What arrives -/

/-- The inquiry that the bytes of a whole message make. Responses and errors make none, nor does
what cannot be opened or read. -/
def Dispatcher.inquiry? (d : Dispatcher) (source : Address) (sealed : Bool) (bytes : Bytes) :
    Option Inquiry :=
  match d.open? source sealed bytes with
  | none => none
  | some plain =>
    match Message.decode source d.address plain with
    | .ok m => if m.frame.isRequest then some m.inquiry else none
    | .error (.unknownService frame service type) =>
      if frame.isRequest then some ⟨source, frame, service, type⟩ else none
    | .error _ => none

namespace Dispatcher

variable (d : Dispatcher) (source : Address) (sealed : Bool) (bytes : Bytes)

/-- A request is queued, or refused if it is a command, or dropped. -/
theorem route_request {m : Message} (hm : m.frame.isRequest = true) :
    ((d.route m).1 = none ∧ (d.route m).2.inbound = d.inbound ++ [m])
      ∨ ((d.route m).2.inbound = d.inbound
        ∧ ∀ r ∈ (d.route m).1, (Debt.refusal r).IsTo m.inquiry) := by
  have hrefusal (code : ErrorCode) : ∀ r ∈ (if m.frame = .command then
      some (⟨m.source, m.service.toByte, m.type, code⟩ : Refusal) else none),
      (Debt.refusal r).IsTo m.inquiry := by
    intro r hr
    split at hr
    · next hcommand =>
      cases hr
      exact ⟨hcommand, rfl, rfl, rfl⟩
    · cases hr
  unfold route
  dsimp only
  rw [if_neg (by simp [hm])]
  split
  · exact .inr ⟨rfl, hrefusal _⟩
  · split
    · exact .inr ⟨rfl, hrefusal _⟩
    · exact .inl ⟨rfl, rfl⟩

/-- Responses and errors are not queued. -/
theorem route_reply {m : Message} (hm : m.frame.isRequest = false) :
    (d.route m).1 = none ∧ (d.route m).2.inbound = d.inbound := by
  unfold route
  dsimp only
  rw [if_pos (by simp [hm])]
  split
  · exact ⟨rfl, rfl⟩
  · exact ⟨rfl, rfl⟩

theorem suite_accept : (d.accept source sealed bytes).2.suite = d.suite := by
  obtain ⟨pending, inbound, tally, hframe⟩ := d.accept_frame source sealed bytes
  rw [hframe]

/-- Only commands and notifications are inquiries. -/
theorem isRequest_of_inquiry? {q : Inquiry} (h : d.inquiry? source sealed bytes = some q) :
    q.frame.isRequest = true := by
  unfold inquiry? at h
  split at h
  · cases h
  · split at h
    · split at h
      · next hrequest =>
        cases h
        exact hrequest
      · cases h
    · split at h
      · next hrequest =>
        cases h
        exact hrequest
      · cases h
    · cases h

/-- What makes no inquiry is neither queued nor refused. -/
theorem accept_of_inquiry?_eq_none (h : d.inquiry? source sealed bytes = none) :
    (d.accept source sealed bytes).1 = none
      ∧ (d.accept source sealed bytes).2.inbound = d.inbound := by
  unfold inquiry? at h
  unfold accept
  split
  · exact ⟨rfl, rfl⟩
  · next plain hplain =>
    rw [hplain] at h
    dsimp only at h
    split
    · next m hm =>
      rw [hm] at h
      dsimp only at h
      refine d.route_reply ?_
      by_contra hrequest
      rw [if_pos (by simpa using hrequest)] at h
      cases h
    · next hm =>
      rw [hm] at h
      cases h
    · exact ⟨rfl, rfl⟩

/-- An inquiry is queued, or refused if it is a command, or dropped. -/
theorem accept_of_inquiry? {q : Inquiry} (h : d.inquiry? source sealed bytes = some q) :
    ((d.accept source sealed bytes).1 = none
        ∧ ∃ m, m.inquiry = q ∧ (d.accept source sealed bytes).2.inbound = d.inbound ++ [m])
      ∨ ((d.accept source sealed bytes).2.inbound = d.inbound
        ∧ ∀ r ∈ (d.accept source sealed bytes).1, (Debt.refusal r).IsTo q) := by
  unfold inquiry? at h
  split at h
  · cases h
  · next plain hplain =>
    split at h
    · next m hm =>
      split at h
      · next hrequest =>
        cases h
        simp only [accept, hplain, hm]
        exact (d.route_request hrequest).imp_left fun ⟨hnone, hqueued⟩ => ⟨hnone, m, rfl, hqueued⟩
      · cases h
    · next frame service type hm =>
      split at h
      · cases h
        refine .inr ?_
        unfold accept
        rw [hplain]
        dsimp only
        rw [hm]
        split
        · next h => cases h
        · next h =>
          cases h
          refine ⟨rfl, fun r hr => ?_⟩
          cases hr
          exact ⟨rfl, rfl, rfl, rfl⟩
        · exact ⟨rfl, fun r hr => nomatch hr⟩
      · cases h
    · cases h

end Dispatcher

/-! ## Listeners -/

namespace Listener

/-- What the listener still has to write. -/
def debt? (l : Listener) : Option Debt :=
  match l.waiting with
  | .retry r _ => some (.refusal r.refusal)
  | _ => none

variable [Link W]

/-- The inquiry that the listener takes in with its next step. -/
def arrival? (l : Listener) (e : Endpoint W) : Option Inquiry :=
  match l.waiting with
  | .forPacket _ =>
    match (Link.receive e.node.port e.world).1 with
    | .packet bytes =>
      match l.reassembler.push (bytes.take maxPacket) with
      | (.ok (some done), reassembler) =>
        if done.truncated then none
        else e.node.inquiry? done.source done.sealed (reassembler.content done)
      | _ => none
    | _ => none
  | _ => none

theorem isRequest_of_arrival? {l : Listener} {e : Endpoint W} {q : Inquiry}
    (h : l.arrival? e = some q) : q.frame.isRequest = true := by
  unfold arrival? at h
  split at h
  · split at h
    · split at h
      · split at h
        · cases h
        · exact e.node.isRequest_of_inquiry? _ _ _ h
      · cases h
    · cases h
  · cases h

end Listener

/-- What a step of a listener does, who takes an inquiry in or none, and had a debt before and has
one after. -/
inductive Hears (arrival : Option Inquiry) (debt debt' : Option Debt)
    (e e' : Endpoint (Tapped W)) : Prop
  | queues {m : Message} : arrival = some m.inquiry → debt' = none →
      e'.node.inbound = e.node.inbound ++ [m] → e'.node.suite = e.node.suite →
      e'.world.tap = e.world.tap → Hears arrival debt debt' e e'
  | answers {q : Inquiry} : arrival = some q → Pays q debt' e e' → Hears arrival debt debt' e e'
  | pays {d : Debt} : arrival = none → debt = some d → (∀ q, d.IsTo q → Pays q debt' e e') →
      Hears arrival debt debt' e e'
  | idles : arrival = none → debt = none → debt' = none → Idles e e' →
      Hears arrival debt debt' e e'

namespace Listener

variable [Link W] (l : Listener) (clock : Clock) (e : Endpoint (Tapped W))

theorem pays_refuse {q : Inquiry} (r : ErrorReply) (hr : (Debt.refusal r.refusal).IsTo q) :
    Pays q (l.refuse clock r e).1.debt? e (l.refuse clock r e).2 := by
  have hsend := r.pays_send hr clock e
  unfold refuse
  split
  · next h =>
    rw [h] at hsend
    exact hsend
  · next h =>
    rw [h] at hsend
    exact hsend

/-- Looking into the inbox writes nothing. -/
theorem idles_receive (e : Endpoint (Tapped W)) :
    Idles e { e with world := (Link.receive e.node.port e.world).2 } :=
  ⟨rfl, rfl, rfl⟩

/-- A packet that is taken in may end a message, and that may make an inquiry. -/
theorem hears_take {deadline : Timer} (hwaiting : l.waiting = .forPacket deadline) {bytes : Bytes}
    {world : Tapped W} (hreceive : Link.receive e.node.port e.world = (.packet bytes, world)) :
    Hears (l.arrival? e) l.debt?
      (l.take clock (bytes.take maxPacket) { e with world := world }).1.debt? e
      (l.take clock (bytes.take maxPacket) { e with world := world }).2 := by
  have hdebt : l.debt? = none := by simp only [debt?, hwaiting]
  have hworld := idles_receive e
  rw [hreceive] at hworld
  -- A packet that cannot be read, one that ends no message, and one that ends a truncated message
  -- leave nothing to accept.
  rcases hpush : l.reassembler.push (bytes.take maxPacket) with ⟨error | done, reassembler⟩
  · refine .idles (by simp only [arrival?, hwaiting, hreceive, hpush]) hdebt ?_ ?_
    · simp only [take, hpush, listen, debt?]
    · simp only [take, hpush]
      exact hworld
  · cases done with
    | none =>
      refine .idles (by simp only [arrival?, hwaiting, hreceive, hpush]) hdebt ?_ ?_
      · simp only [take, hpush, listen, debt?]
      · simp only [take, hpush]
        exact hworld
    | some done =>
      by_cases htruncated : done.truncated = true
      · refine .idles (by simp only [arrival?, hwaiting, hreceive, hpush, htruncated, if_true])
          hdebt ?_ ?_
        · simp only [take, hpush, htruncated, if_true, listen, debt?]
        · simp only [take, hpush, htruncated, if_true]
          exact hworld.trans ⟨rfl, rfl, rfl⟩
      · have harrival : l.arrival? e = e.node.inquiry? done.source done.sealed
            (reassembler.content done) := by
          simp only [arrival?, hwaiting, hreceive, hpush, htruncated]
          exact if_neg (by simp)
        have hsuite := e.node.suite_accept done.source done.sealed (reassembler.content done)
        simp only [take, hpush, htruncated]
        rw [if_neg (by simp), harrival, hdebt]
        -- The message is whole, and accepted: what the dispatcher does with it is known.
        rcases haccept : e.node.accept done.source done.sealed (reassembler.content done) with
          ⟨refusal, node⟩
        rw [haccept] at hsuite
        have htaken (hinbound : node.inbound = e.node.inbound) :
            Idles e { node := node, world := world } :=
          ⟨hinbound, hsuite, hworld.tap⟩
        cases hinquiry : e.node.inquiry? done.source done.sealed (reassembler.content done) with
        | none =>
          obtain ⟨hnone, hinbound⟩ := e.node.accept_of_inquiry?_eq_none _ _ _ hinquiry
          rw [haccept] at hnone hinbound
          obtain rfl : refusal = none := hnone
          exact .idles rfl rfl rfl (htaken hinbound)
        | some q =>
          rcases e.node.accept_of_inquiry? _ _ _ hinquiry with
            ⟨hnone, m, rfl, hqueued⟩ | ⟨hinbound, hrefusal⟩
          · rw [haccept] at hnone hqueued
            obtain rfl : refusal = none := hnone
            exact .queues rfl rfl hqueued hsuite hworld.tap
          · rw [haccept] at hinbound hrefusal
            cases refusal with
            | none => exact .answers rfl ((htaken hinbound).pays nofun)
            | some r =>
              exact .answers rfl ((htaken hinbound).trans_pays
                (pays_refuse _ clock _ (.first r) (hrefusal r rfl)))

theorem hears_step {l' : Listener} {e' : Endpoint (Tapped W)}
    (h : l.step clock e = some (l', e')) : Hears (l.arrival? e) l.debt? l'.debt? e e' := by
  have hworld := idles_receive e
  unfold step at h
  split at h
  · next timer hwaiting =>
    split at h
    · cases h
      exact .idles (by simp only [arrival?, hwaiting]) (by simp only [debt?, hwaiting]) rfl
        (.refl e)
    · cases h
  · next r timer hwaiting =>
    split at h
    · refine .pays (d := .refusal r.refusal) (by simp only [arrival?, hwaiting])
        (by simp only [debt?, hwaiting]) fun q hq => ?_
      have hrefuse := pays_refuse l clock e r hq
      rw [Option.some.inj h] at hrefuse
      exact hrefuse
    · cases h
  · next deadline hwaiting =>
    have hdebt : l.debt? = none := by simp only [debt?, hwaiting]
    split at h
    · next hreceive =>
      split at h
      · cases h
        exact .idles (by simp only [arrival?, hwaiting, hreceive]) hdebt rfl ⟨rfl, rfl, rfl⟩
      · cases h
    · next hreceive =>
      rw [hreceive] at hworld
      cases h
      exact .idles (by simp only [arrival?, hwaiting, hreceive]) hdebt hdebt hworld
    · next hreceive =>
      rw [hreceive] at hworld
      cases h
      exact .idles (by simp only [arrival?, hwaiting, hreceive]) hdebt rfl
        (hworld.trans ⟨rfl, rfl, rfl⟩)
    · next bytes world hreceive =>
      have htake := hears_take l clock e hwaiting hreceive
      rw [Option.some.inj h] at htake
      exact htake

end Listener

end ModuleBus

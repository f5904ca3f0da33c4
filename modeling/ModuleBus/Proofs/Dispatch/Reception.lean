import ModuleBus.Proofs.Dispatch.Listening
import ModuleBus.Proofs.Dispatch.Minding

set_option autoImplicit false

/-! # Where packets go

A step of a listener takes in a packet or does not (`Listener.packet?`). With one it refuses the
packet, continues a message or ends it, and a message that has ended may be queued as the last
request (`Listener.Takes`). Without one it may give up the message in progress or try a refusal
again, and begins neither (`Listener.Rests`). The calls of others stay away from the table. -/

namespace ModuleBus

/-! ## Messages that are taken in -/

namespace Dispatcher

variable {d : Dispatcher} {t : Option Ticket} (source : Address) (sealed : Bool) (bytes : Bytes)

theorem isOnly_accept (h : d.pending.IsOnly t) :
    (d.accept source sealed bytes).2.pending.IsOnly t := by
  unfold accept
  split
  · exact h
  · split
    · exact isOnly_route h _
    · exact h
    · exact h

/-- A message that is taken in is queued as the last request, or not at all. -/
theorem inbound_accept (d : Dispatcher) :
    (d.accept source sealed bytes).2.inbound = d.inbound
      ∨ ∃ m, (d.accept source sealed bytes).2.inbound = d.inbound ++ [m] := by
  cases hinquiry : d.inquiry? source sealed bytes with
  | none => exact .inl (d.accept_of_inquiry?_eq_none source sealed bytes hinquiry).2
  | some q =>
    rcases d.accept_of_inquiry? source sealed bytes hinquiry with ⟨-, m, -, hqueued⟩ | ⟨hsame, -⟩
    · exact .inr ⟨m, hqueued⟩
    · exact .inl hsame

end Dispatcher

namespace Reassembler

/-- After a packet that is not refused, a message is in progress unless the packet has ended it. -/
theorem isIdle_push {r : Reassembler} {packet : Bytes} {done : Option Reassembled}
    (h : (r.push packet).1 = .ok done) : (r.push packet).2.isIdle = done.isSome := by
  revert h
  unfold push
  split
  · exact fun h => by cases h
  · split
    · exact fun h => by cases h
    · dsimp only
      split
      · exact fun h => by cases h; rfl
      · exact fun h => by cases h; rfl

end Reassembler

/-! ## Listeners -/

namespace Listener

/-- The listener is to try a refusal again. -/
def isRetrying (l : Listener) : Bool :=
  match l.waiting with
  | .retry _ _ => true
  | .forPacket _ | .pause _ => false

variable {W : Type} [Link W] {l l' : Listener} {clock : Clock} {e e' : Endpoint W}

/-- The packet that the next step takes in. -/
def packet? (l : Listener) (e : Endpoint W) : Option Bytes :=
  match l.waiting with
  | .forPacket _ =>
    match (Link.receive e.node.port e.world).1 with
    | .packet bytes => some (bytes.take maxPacket)
    | .nothing | .lost | .failed _ => none
  | .pause _ | .retry _ _ => none

/-- What a step without a packet does. -/
structure Rests (l l' : Listener) (d d' : Dispatcher) : Prop where
  buffer : l'.reassembler.buffer = l.reassembler.buffer
  idle : l.reassembler.isIdle = true → l'.reassembler.isIdle = true
  retrying : l'.isRetrying = true → l.isRetrying = true
  inbound : d'.inbound = d.inbound
  calls : ∀ t, d.pending.IsOnly t → d'.pending.IsOnly t

/-- What a step with a packet does to the queue and the refusal, if the reassembler refuses the
packet, continues a message with it, or ends one. -/
inductive Takes (l' : Listener) (d d' : Dispatcher) : Except CodecError (Option Reassembled) → Prop
  | refused {error : CodecError} : l'.isRetrying = false → d'.inbound = d.inbound →
      Takes l' d d' (.error error)
  | continued : l'.isRetrying = false → d'.inbound = d.inbound → Takes l' d d' (.ok none)
  | ended {done : Reassembled} :
      (d'.inbound = d.inbound ∨ ∃ m, d'.inbound = d.inbound ++ [m]) →
      Takes l' d d' (.ok (some done))

theorem refuse_frame (l : Listener) (clock : Clock) (r : ErrorReply) (e : Endpoint W) :
    (l.refuse clock r e).1.reassembler = l.reassembler
      ∧ (l.refuse clock r e).2.node.inbound = e.node.inbound
      ∧ (l.refuse clock r e).2.node.pending = e.node.pending := by
  obtain ⟨encoder, entropy, tally, hsend⟩ := r.send_frame clock e
  unfold refuse
  split
  · next h =>
    rw [h] at hsend
    exact ⟨rfl, by rw [hsend], by rw [hsend]⟩
  · next h =>
    rw [h] at hsend
    exact ⟨rfl, by rw [hsend], by rw [hsend]⟩

theorem takes_take (l : Listener) (clock : Clock) (packet : Bytes) (e : Endpoint W) :
    (l.take clock packet e).1.reassembler = (l.reassembler.push packet).2
      ∧ Takes (l.take clock packet e).1 e.node (l.take clock packet e).2.node
        (l.reassembler.push packet).1
      ∧ ∀ t, e.node.pending.IsOnly t → (l.take clock packet e).2.node.pending.IsOnly t := by
  rcases hpush : l.reassembler.push packet with ⟨error | done, reassembler⟩
  · simp only [take, hpush]
    exact ⟨rfl, .refused rfl rfl, fun t h => h⟩
  · cases done with
    | none =>
      simp only [take, hpush]
      exact ⟨rfl, .continued rfl rfl, fun t h => h⟩
    | some done =>
      simp only [take, hpush]
      split
      · exact ⟨rfl, .ended (.inl rfl), fun t h => h⟩
      · have hinbound := e.node.inbound_accept done.source done.sealed (reassembler.content done)
        have hcalls (t : Option Ticket) (h : e.node.pending.IsOnly t) :=
          Dispatcher.isOnly_accept done.source done.sealed (reassembler.content done) h
        split
        · next haccept =>
          rw [haccept] at hinbound
          simp only [haccept] at hcalls
          exact ⟨rfl, .ended hinbound, hcalls⟩
        · next refusal node haccept =>
          rw [haccept] at hinbound
          simp only [haccept] at hcalls
          obtain ⟨hreassembler, hsame, hpending⟩ :=
            refuse_frame { l with reassembler := reassembler } clock (.first refusal)
              { e with node := node }
          refine ⟨hreassembler, .ended (by rw [hsame]; exact hinbound), fun t h => ?_⟩
          rw [hpending]
          exact hcalls t h

theorem rests_step (hpacket : l.packet? e = none) (h : l.step clock e = some (l', e')) :
    Rests l l' e.node e'.node := by
  unfold step at h
  unfold packet? at hpacket
  split at h
  · split at h
    · cases h
      exact ⟨rfl, id, fun h => (by cases h), rfl, fun _ h => h⟩
    · cases h
  · next r timer hwaiting =>
    split at h
    · obtain ⟨hreassembler, hinbound, hpending⟩ := refuse_frame l clock r e
      rw [Option.some.inj h] at hreassembler hinbound hpending
      refine ⟨congrArg _ hreassembler, fun h => ?_, fun _ => ?_, hinbound, fun t h => ?_⟩
      · rw [hreassembler]
        exact h
      · rw [isRetrying, hwaiting]
      · rw [hpending]
        exact h
    · cases h
  · next deadline hwaiting =>
    rw [hwaiting] at hpacket
    split at h
    · split at h
      · cases h
        exact ⟨rfl, fun _ => rfl, fun h => (by cases h), rfl, fun _ h => h⟩
      · cases h
    · cases h
      exact ⟨rfl, id, id, rfl, fun _ h => h⟩
    · cases h
      exact ⟨rfl, id, fun h => (by cases h), rfl, fun _ h => h⟩
    · next hreceive =>
      rw [hreceive] at hpacket
      cases hpacket

theorem takes_step {packet : Bytes} (hpacket : l.packet? e = some packet)
    (h : l.step clock e = some (l', e')) :
    l.isRetrying = false ∧ l'.reassembler = (l.reassembler.push packet).2
      ∧ Takes l' e.node e'.node (l.reassembler.push packet).1
      ∧ ∀ t, e.node.pending.IsOnly t → e'.node.pending.IsOnly t := by
  unfold packet? at hpacket
  split at hpacket
  · next deadline hwaiting =>
    split at hpacket
    · next bytes hreceive =>
      cases hpacket
      have htakes := takes_take l clock (bytes.take maxPacket)
        { e with world := (Link.receive e.node.port e.world).2 }
      rcases hreceived : Link.receive e.node.port e.world with ⟨reception, world⟩
      rw [hreceived] at hreceive htakes
      cases hreceive
      simp only [step, hwaiting, hreceived] at h
      rw [Option.some.inj h] at htakes
      exact ⟨by rw [isRetrying, hwaiting], htakes⟩
    all_goals cases hpacket
  all_goals cases hpacket

end Listener

end ModuleBus

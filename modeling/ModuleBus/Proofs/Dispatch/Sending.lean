import ModuleBus.Dispatch.Call

set_option autoImplicit false

/-! # What sending leaves alone

A message that goes out uses up a sequence number and, if it is sealed, a nonce, whether it is
written, refused or interrupted. Everything else that a participant remembers stays, and so does
whatever of the world a packet leaves alone. -/

namespace ModuleBus

/-- The command of a request as it arrives, from an address. -/
def Request.message {α : Type} (r : Request α) (source : Address) : Message :=
  ⟨source, r.key.peer, .command, r.key.service, r.key.type, r.payload⟩

/-- Making packets of an envelope uses up a sequence number and, to seal it, a nonce. -/
theorem Dispatcher.frame_frame (d : Dispatcher) (destination : Address) (maySeal : Bool)
    (bytes : Bytes) : ∃ encoder entropy,
      (d.frame destination maySeal bytes).2 = { d with encoder := encoder, entropy := entropy } := by
  unfold frame
  split
  · exact ⟨_, _, rfl⟩
  · exact ⟨_, d.entropy, rfl⟩

variable {W : Type} [Link W]

theorem Endpoint.sendEnvelope_frame (e : Endpoint W) (destination : Address) (maySeal : Bool)
    (bytes : Bytes) : ∃ encoder entropy, (e.sendEnvelope destination maySeal bytes).2.node
      = { e.node with encoder := encoder, entropy := entropy } := by
  have hframe := e.node.frame_frame destination maySeal bytes
  unfold sendEnvelope
  split
  · next h =>
    rw [h] at hframe
    exact hframe
  · next h =>
    rw [h] at hframe
    exact hframe

theorem Dispatcher.address_frame (d : Dispatcher) (destination : Address) (maySeal : Bool)
    (bytes : Bytes) : (d.frame destination maySeal bytes).2.address = d.address := by
  unfold frame
  split <;> rfl

theorem Endpoint.address_sendEnvelope (e : Endpoint W) (destination : Address) (maySeal : Bool)
    (bytes : Bytes) : (e.sendEnvelope destination maySeal bytes).2.address = e.address := by
  have hframe := e.node.address_frame destination maySeal bytes
  unfold sendEnvelope
  split
  · next h =>
    rw [h] at hframe
    exact hframe
  · next h =>
    rw [h] at hframe
    exact hframe

theorem Endpoint.send_frame (e : Endpoint W) (destination : Address) (frame : FrameKind)
    (service : Service) (type : UInt8) (payload : Bytes) : ∃ encoder entropy,
      (e.send destination frame service type payload).2.node
        = { e.node with encoder := encoder, entropy := entropy } :=
  e.sendEnvelope_frame _ _ _

/-- An error reply that is given up leaves a remark. -/
theorem ErrorReply.send_frame (r : ErrorReply) (clock : Clock) (e : Endpoint W) :
    ∃ encoder entropy tally, (r.send clock e).2.node
      = { e.node with encoder := encoder, entropy := entropy, tally := tally } := by
  obtain ⟨encoder, entropy, hsend⟩ := e.sendEnvelope_frame r.refusal.destination
    (Dispatcher.isSealable r.refusal.service)
    (envelope .error r.refusal.service r.refusal.type r.refusal.code.toPayload)
  unfold send
  split
  · next h =>
    rw [h] at hsend
    exact ⟨encoder, entropy, e.node.tally, hsend⟩
  · next e' h =>
    rw [h] at hsend
    split
    · exact ⟨encoder, entropy, e.node.tally, hsend⟩
    · refine ⟨encoder, entropy, (e'.note .error).node.tally, ?_⟩
      rw [Endpoint.note, Endpoint.update, Dispatcher.note, hsend]

/-! ## Messages that are written

Every message makes a packet at least, so that one that is written writes a packet. -/

theorem FrameEncoder.packets_ne_nil {e : FrameEncoder} {destination : Address} {payload : Bytes}
    {sealed : Bool} {outgoing : Outgoing}
    (h : (e.encode destination payload sealed).1 = .ok outgoing) : outgoing.packets ≠ [] := by
  have hcount : packetCount payload.length ≠ 0 := by
    rw [packetCount]
    omega
  obtain ⟨-, rfl⟩ := encode_eq_ok_iff.mp h
  simpa using hcount

theorem Dispatcher.packets_ne_nil {d : Dispatcher} {destination : Address} {maySeal : Bool}
    {bytes : Bytes} {outgoing : Outgoing}
    (h : (d.frame destination maySeal bytes).1 = .ok outgoing) : outgoing.packets ≠ [] := by
  unfold frame at h
  split at h
  · exact FrameEncoder.packets_ne_nil h
  · exact FrameEncoder.packets_ne_nil h

theorem Endpoint.exists_write_of_sendEnvelope {e e' : Endpoint W} {destination : Address}
    {maySeal : Bool} {bytes : Bytes} {written : Nat}
    (h : e.sendEnvelope destination maySeal bytes = (.ok written, e')) :
    ∃ packet, (Link.write e.node.port destination packet e.world).1 = .ok () := by
  have hport : (e.node.frame destination maySeal bytes).2.port = e.node.port := by
    obtain ⟨encoder, entropy, hframe⟩ := e.node.frame_frame destination maySeal bytes
    rw [hframe]
  unfold sendEnvelope at h
  split at h
  · cases h
  · next outgoing node hframe =>
    rw [hframe] at hport
    obtain ⟨packet, rest, hpackets⟩ := List.exists_cons_of_ne_nil
      (Dispatcher.packets_ne_nil (congrArg Prod.fst hframe))
    rw [hpackets, hport, writeAll] at h
    refine ⟨packet, ?_⟩
    rcases hwrite : Link.write e.node.port destination packet e.world with ⟨error | ⟨⟩, w⟩
    · rw [hwrite] at h
      cases h
    · rfl

/-! ## Messages that do not show in the world -/

section

variable {α : Type} {view : W → α}
  (hview : ∀ p a packet w, view (Link.write p a packet w).2 = view w)

include hview

theorem view_writeAll (p : Port) (a : Address) (packets : List Bytes) (w : W) :
    view (writeAll p a packets w).2 = view w := by
  induction packets generalizing w with
  | nil => rfl
  | cons packet rest ih =>
    have hwrite := hview p a packet w
    rw [writeAll]
    split
    · next h => rw [h] at hwrite; exact hwrite
    · next h =>
      rw [h] at hwrite
      exact (ih _).trans hwrite

theorem view_sendEnvelope (e : Endpoint W) (a : Address) (maySeal : Bool) (bytes : Bytes) :
    view (e.sendEnvelope a maySeal bytes).2.world = view e.world := by
  unfold Endpoint.sendEnvelope
  split
  · rfl
  · exact view_writeAll hview _ _ _ e.world

theorem view_errorReply (r : ErrorReply) (clock : Clock) (e : Endpoint W) :
    view (r.send clock e).2.world = view e.world := by
  have hsend := view_sendEnvelope hview e r.refusal.destination
    (Dispatcher.isSealable r.refusal.service)
    (envelope .error r.refusal.service r.refusal.type r.refusal.code.toPayload)
  unfold ErrorReply.send
  split
  · next h => rw [h] at hsend; exact hsend
  · next h =>
    rw [h] at hsend
    split
    · exact hsend
    · exact hsend

end

end ModuleBus

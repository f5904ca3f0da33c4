import ModuleBus.Proofs.Dispatch.Sending
import ModuleBus.Proofs.Packet.Header
import ModuleBus.Proofs.Controller.Footprint
import ModuleBus.Dispatch.Server

set_option autoImplicit false

/-! # Answers to an inquiry

A request that arrives, known or not, is an inquiry: who asks, and with which kind of frame, service
and type. What a participant writes to it is seen where its link is tapped: packets that the link
has taken. They answer the inquiry if they are the beginnings of some answers that broke off, and
after those at most one answer as a whole; an answer is a response, or an error if the inquiry is a
command, to the one who asks, with the service and the type that were asked for. -/

namespace ModuleBus

/-! ## Tapped links -/

/-- A world whose link is tapped: the packets that it took, and for which address, oldest first. -/
structure Tapped (W : Type) where
  world : W
  tap : List (Address × Bytes)

section

variable {H W : Type}

instance [Link W] : Link (Tapped W) where
  write p a packet w :=
    match Link.write p a packet w.world with
    | (.error error, world) => (.error error, { w with world := world })
    | (.ok (), world) => (.ok (), ⟨world, w.tap ++ [(a, packet)]⟩)
  receive p w :=
    let (reception, world) := Link.receive p w.world
    (reception, { w with world := world })
  setAddress p a w := { w with world := Link.setAddress p a w.world }

instance [Board W] : Board (Tapped W) where
  setPower s on w := { w with world := Board.setPower s on w.world }
  setBus s on w := { w with world := Board.setBus s on w.world }
  isRequesting w := Board.isRequesting w.world
  setGrant s on w := { w with world := Board.setGrant s on w.world }
  feedWatchdog w := { w with world := Board.feedWatchdog w.world }
  counter w := Board.counter w.world
  resetCounters w := { w with world := Board.resetCounters w.world }
  charge? w := Board.charge? w.world
  readMemory w := Board.readMemory w.world
  writeMemory offset data w :=
    let (result, world) := Board.writeMemory offset data w.world
    (result, { w with world := world })

instance [Handler H W] : Handler H (Tapped W) where
  handle clock m h w :=
    let (outcome, h, world) := Handler.handle clock m h w.world
    (outcome, h, { w with world := world })

/-- Operating the board writes nothing to the link. -/
theorem tap_operates [Board W] {w w' : Tapped W} (h : Board.Operates w w') : w'.tap = w.tap := by
  induction h with
  | refl => rfl
  | setPower _ _ _ ih => exact ih
  | setBus _ _ _ ih => exact ih
  | setGrant _ _ _ ih => exact ih
  | feedWatchdog _ ih => exact ih
  | resetCounters _ ih => exact ih
  | keep _ _ ih => exact ih

variable [Link W]

/-- The link takes all packets, or some and then fails. -/
theorem tap_writeAll (p : Port) (a : Address) (packets : List Bytes) (w : Tapped W) :
    match (writeAll p a packets w).1 with
    | .ok _ => (writeAll p a packets w).2.tap = w.tap ++ packets.map (a, ·)
    | .error _ => ∃ k < packets.length,
      (writeAll p a packets w).2.tap = w.tap ++ (packets.take k).map (a, ·) := by
  induction packets generalizing w with
  | nil => simp [writeAll]
  | cons packet rest ih =>
    rw [writeAll]
    simp only [Link.write]
    rcases Link.write p a packet w.world with ⟨error | ⟨⟩, world⟩
    · exact ⟨0, by simp, by simp⟩
    · have hrest := ih ⟨world, w.tap ++ [(a, packet)]⟩
      dsimp only
      rcases hwritten : writeAll p a rest (⟨world, w.tap ++ [(a, packet)]⟩ : Tapped W) with
        ⟨error | count, w'⟩
      · rw [hwritten] at hrest
        obtain ⟨k, hk, htap⟩ := hrest
        exact ⟨k + 1, by simpa using hk, by simpa using htap⟩
      · rw [hwritten] at hrest
        simpa [Except.map] using hrest

end

/-! ## Inquiries and answers -/

/-- What a request asks for, and who asks. The service need not be known. -/
structure Inquiry where
  source : Address
  frame : FrameKind
  service : UInt8
  type : UInt8
deriving DecidableEq

/-- What a message asks for. -/
def Message.inquiry (m : Message) : Inquiry := ⟨m.source, m.frame, m.service.toByte, m.type⟩

/-- The packets are those of an answer: a response, or an error if a command is answered. -/
def Inquiry.IsAnswer (q : Inquiry) (suite : Suite) (packets : List Bytes) : Prop :=
  ∃ (d : Dispatcher) (kind : FrameKind) (payload : Bytes) (outgoing : Outgoing),
    d.suite = suite ∧ (kind = .response ∨ kind = .error ∧ q.frame = .command)
      ∧ (d.frame q.source (Dispatcher.isSealable q.service)
          (envelope kind q.service q.type payload)).1 = .ok outgoing
      ∧ outgoing.packets = packets

/-- The packets that a link took answer an inquiry: at most one answer is whole, and then it is the
last. -/
inductive Answering (suite : Suite) (q : Inquiry) : List (Address × Bytes) → (whole : Bool) → Prop
  | nothing : Answering suite q [] false
  | interrupted {log : List (Address × Bytes)} {packets : List Bytes} {k : Nat} :
      Answering suite q log false → q.IsAnswer suite packets → k < packets.length →
      Answering suite q (log ++ (packets.take k).map (q.source, ·)) false
  | answered {log : List (Address × Bytes)} {packets : List Bytes} :
      Answering suite q log false → q.IsAnswer suite packets →
      Answering suite q (log ++ packets.map (q.source, ·)) true

theorem Answering.append {suite : Suite} {q : Inquiry} {log new : List (Address × Bytes)}
    {whole : Bool} (h : Answering suite q log false) (hnew : Answering suite q new whole) :
    Answering suite q (log ++ new) whole := by
  induction hnew with
  | nothing => simpa using h
  | interrupted _ hanswer hk ih => simpa using ih.interrupted hanswer hk
  | answered _ hanswer ih => simpa using ih.answered hanswer

/-! ## Whole messages

A message is whole once its last packet is written, which is the only one that no more follow. So
it can be seen on the link how many answers were whole. -/

/-- No more packets follow this one in its message. -/
def endsMessage (packet : Bytes) : Bool :=
  match Header.parse packet with
  | .ok h => !h.more
  | .error _ => false

theorem endsMessage_packet (e : FrameEncoder) (payload : Bytes) (sealed : Bool) (i : Nat) :
    endsMessage (e.packet payload sealed i)
      = !decide (i + 1 < FrameEncoder.packetCount payload.length) := by
  obtain ⟨h, hparse, hmore⟩ := Header.exists_parse_toBytes ⟨e.layout,
    i + 1 < FrameEncoder.packetCount payload.length, sealed, e.source, e.next,
    UInt16.ofNat payload.length, UInt16.ofNat (i * maxChunk)⟩
    ((payload.drop (i * maxChunk)).take maxChunk)
  rw [endsMessage, FrameEncoder.packet]
  rw [hparse]
  dsimp only
  rw [hmore]

/-- The packets of a message are some that others follow, and one that ends it. -/
theorem FrameEncoder.exists_last {e : FrameEncoder} {destination : Address} {payload : Bytes}
    {sealed : Bool} {outgoing : Outgoing}
    (h : (e.encode destination payload sealed).1 = .ok outgoing) :
    ∃ before last, outgoing.packets = before ++ [last] ∧ endsMessage last = true
      ∧ ∀ packet ∈ before, endsMessage packet = false := by
  obtain ⟨n, hcount⟩ : ∃ n, packetCount payload.length = n + 1 :=
    Nat.exists_eq_add_one.mpr (Nat.lt_of_lt_of_le Nat.zero_lt_one (Nat.le_max_left 1 _))
  obtain ⟨-, rfl⟩ := encode_eq_ok_iff.mp h
  refine ⟨(List.range n).map (e.packet payload sealed), e.packet payload sealed n, ?_, ?_,
    fun packet hpacket => ?_⟩
  · rw [hcount, List.range_succ, List.map_append, List.map_singleton]
  · rw [endsMessage_packet, hcount, decide_eq_false (Nat.lt_irrefl _), Bool.not_false]
  · obtain ⟨i, hi, rfl⟩ := List.mem_map.mp hpacket
    rw [endsMessage_packet, hcount, decide_eq_true (Nat.succ_lt_succ (List.mem_range.mp hi)),
      Bool.not_true]

theorem Inquiry.IsAnswer.exists_last {q : Inquiry} {suite : Suite} {packets : List Bytes}
    (h : q.IsAnswer suite packets) :
    ∃ before last, packets = before ++ [last] ∧ endsMessage last = true
      ∧ ∀ packet ∈ before, endsMessage packet = false := by
  obtain ⟨d, kind, payload, outgoing, _, _, hframe, rfl⟩ := h
  unfold Dispatcher.frame at hframe
  split at hframe
  · exact FrameEncoder.exists_last hframe
  · exact FrameEncoder.exists_last hframe

/-- Among the packets that answer an inquiry is one that ends a message, if an answer is whole, and
none otherwise. -/
theorem Answering.countP {suite : Suite} {q : Inquiry} {log : List (Address × Bytes)}
    {whole : Bool} (h : Answering suite q log whole) :
    (log.countP fun entry => endsMessage entry.2) = whole.toNat := by
  induction h with
  | nothing => rfl
  | @interrupted _ _ k _ hanswer hk ih =>
    obtain ⟨before, last, rfl, _, hbefore⟩ := hanswer.exists_last
    rw [List.length_append, List.length_singleton] at hk
    rw [List.countP_append, ih, List.take_append_of_le_length (Nat.le_of_lt_succ hk),
      List.countP_map]
    -- The packet that ends the message is its last, and was not written.
    have hnone : (before.take k).countP endsMessage = 0 := List.countP_eq_zero.mpr
      fun packet hpacket => by simp [hbefore packet (List.mem_of_mem_take hpacket)]
    exact congrArg (Bool.toNat false + ·) hnone
  | answered _ hanswer ih =>
    obtain ⟨before, last, rfl, hlast, hbefore⟩ := hanswer.exists_last
    have hnone : before.countP endsMessage = 0 :=
      List.countP_eq_zero.mpr fun packet hpacket => by simp [hbefore packet hpacket]
    have hone : (before ++ [last]).countP endsMessage = 1 := by
      rw [List.countP_append, hnone, List.countP_singleton, if_pos hlast]
    rw [List.countP_append, ih, List.countP_map]
    exact congrArg (Bool.toNat false + ·) hone

/-! ## Debts -/

/-- What may still be written to an inquiry. -/
inductive Debt where
  | answer (request : Message)
  | refusal (refusal : Refusal)

/-- The debt is to an inquiry. Only commands are refused. -/
def Debt.IsTo (q : Inquiry) : Debt → Prop
  | answer m => m.inquiry = q
  | refusal r =>
    q.frame = .command ∧ r.destination = q.source ∧ r.service = q.service ∧ r.type = q.type

namespace Endpoint

variable {W : Type}

/-- Between two states of an endpoint, the packets that the link took answer an inquiry; if a debt
remains, none of the answers is whole. -/
structure Pays (q : Inquiry) (debt : Option Debt) (e e' : Endpoint (Tapped W)) : Prop where
  inbound : e'.node.inbound = e.node.inbound
  suite : e'.node.suite = e.node.suite
  written : ∃ new whole, e'.world.tap = e.world.tap ++ new ∧ Answering e.node.suite q new whole
    ∧ ∀ d ∈ debt, d.IsTo q ∧ whole = false

/-- Between two states of an endpoint nothing was written, and no request came or went. -/
structure Idles (e e' : Endpoint (Tapped W)) : Prop where
  inbound : e'.node.inbound = e.node.inbound
  suite : e'.node.suite = e.node.suite
  tap : e'.world.tap = e.world.tap

variable {q : Inquiry} {debt : Option Debt} {d : Debt} {e e' e'' : Endpoint (Tapped W)}

theorem Idles.refl (e : Endpoint (Tapped W)) : Idles e e := ⟨rfl, rfl, rfl⟩

theorem Idles.trans (h : Idles e e') (h' : Idles e' e'') : Idles e e'' :=
  ⟨h'.inbound.trans h.inbound, h'.suite.trans h.suite, h'.tap.trans h.tap⟩

theorem OnBoard.idles [Board W] (h : e.OnBoard e') : Idles e e' :=
  ⟨h.inbound, h.suite, tap_operates h.world⟩

/-- Whoever writes nothing may stay in debt. -/
theorem Idles.pays (h : Idles e e') (hdebt : ∀ d ∈ debt, d.IsTo q) : Pays q debt e e' :=
  ⟨h.inbound, h.suite, [], false, by simpa using h.tap, .nothing, fun d hd => ⟨hdebt d hd, rfl⟩⟩

/-- After an answer that broke off, another may follow. -/
theorem Pays.trans (h : Pays q (some d) e e') (h' : Pays q debt e' e'') : Pays q debt e e'' := by
  obtain ⟨new, whole, htap, hnew, hbroken⟩ := h.written
  obtain ⟨new', whole', htap', hnew', hdebt⟩ := h'.written
  -- A debt remained, so the first answer is not whole.
  obtain ⟨_, rfl⟩ := hbroken d rfl
  refine ⟨h'.inbound.trans h.inbound, h'.suite.trans h.suite, new ++ new', whole', ?_, ?_, hdebt⟩
  · rw [htap', htap, List.append_assoc]
  · exact hnew.append (h.suite ▸ hnew')

theorem Idles.trans_pays (h : Idles e e') (h' : Pays q debt e' e'') : Pays q debt e e'' := by
  obtain ⟨new, whole, htap, hnew, hdebt⟩ := h'.written
  exact ⟨h'.inbound.trans h.inbound, h'.suite.trans h.suite, new, whole, h.tap ▸ htap,
    h.suite ▸ hnew, hdebt⟩

theorem Pays.trans_idles (h : Pays q debt e e') (h' : Idles e' e'') : Pays q debt e e'' := by
  obtain ⟨new, whole, htap, hnew, hdebt⟩ := h.written
  exact ⟨h'.inbound.trans h.inbound, h'.suite.trans h.suite, new, whole, h'.tap.trans htap, hnew,
    hdebt⟩

/-! ## Writing an answer -/

variable [Link W]

theorem tap_send (e : Endpoint (Tapped W)) (destination : Address) (frame : FrameKind)
    (service : Service) (type : UInt8) (payload : Bytes) :
    ∃ new, (e.send destination frame service type payload).2.world.tap = e.world.tap ++ new := by
  unfold send sendEnvelope
  split
  · exact ⟨[], (List.append_nil _).symm⟩
  · next outgoing node hframe =>
    have htap := tap_writeAll node.port destination outgoing.packets e.world
    dsimp only
    split at htap
    · exact ⟨_, htap⟩
    · obtain ⟨k, _, htap⟩ := htap
      exact ⟨_, htap⟩

/-- An answer that is sent is written as a whole, or breaks off. -/
theorem pays_sendEnvelope {kind : FrameKind}
    (hkind : kind = .response ∨ kind = .error ∧ q.frame = .command) (payload : Bytes)
    (e : Endpoint (Tapped W)) :
    match e.sendEnvelope q.source (Dispatcher.isSealable q.service)
      (envelope kind q.service q.type payload) with
    | (.ok _, e') => Pays q none e e'
    | (.error _, e') => ∀ d : Debt, d.IsTo q → Pays q (some d) e e' := by
  obtain ⟨encoder, entropy, hframe⟩ := e.node.frame_frame q.source
    (Dispatcher.isSealable q.service) (envelope kind q.service q.type payload)
  rw [sendEnvelope]
  rcases houtgoing : e.node.frame q.source (Dispatcher.isSealable q.service)
    (envelope kind q.service q.type payload) with ⟨error | outgoing, node⟩
  · rw [houtgoing] at hframe
    obtain rfl : node = { e.node with encoder := encoder, entropy := entropy } := hframe
    intro d hd
    refine Idles.pays ⟨rfl, rfl, rfl⟩ fun d' hd' => ?_
    cases hd'
    exact hd
  · rw [houtgoing] at hframe
    obtain rfl : node = { e.node with encoder := encoder, entropy := entropy } := hframe
    have hanswer : q.IsAnswer e.node.suite outgoing.packets :=
      ⟨e.node, kind, payload, outgoing, rfl, hkind, congrArg Prod.fst houtgoing, rfl⟩
    have htap := tap_writeAll e.node.port q.source outgoing.packets e.world
    dsimp only
    rcases hwritten : writeAll e.node.port q.source outgoing.packets e.world with
      ⟨error | count, world⟩
    · rw [hwritten] at htap
      obtain ⟨k, hk, htap⟩ := htap
      intro d hd
      refine ⟨rfl, rfl, _, false, htap, ?_, fun d' hd' => ?_⟩
      · exact Answering.nothing.interrupted hanswer hk
      · cases hd'
        exact ⟨hd, rfl⟩
    · rw [hwritten] at htap
      exact ⟨rfl, rfl, _, true, htap, Answering.nothing.answered hanswer, fun d hd => nomatch hd⟩

variable {m : Message} {payload : Bytes}

/-- A response that is written pays what a request is owed. -/
theorem pays_reply {written : Nat} (h : e.reply m payload = (.ok written, e')) :
    Pays m.inquiry none e e' := by
  have hsend := pays_sendEnvelope (q := m.inquiry) (.inl rfl) payload e
  rw [reply, send] at h
  rw [Message.inquiry] at hsend ⊢
  dsimp only at hsend
  rw [h] at hsend
  exact hsend

/-- A response that breaks off leaves it to be paid. -/
theorem pays_of_reply_error {error : DispatchError} (h : e.reply m payload = (.error error, e')) :
    Pays m.inquiry (some (.answer m)) e e' := by
  have hsend := pays_sendEnvelope (q := m.inquiry) (.inl rfl) payload e
  rw [reply, send] at h
  rw [Message.inquiry] at hsend ⊢
  dsimp only at hsend
  rw [h] at hsend
  exact hsend _ rfl

end Endpoint

/-- An error reply pays a command, unless it breaks off and waits for the next try. -/
theorem ErrorReply.pays_send {W : Type} [Link W] {q : Inquiry} {r : ErrorReply}
    (hr : (Debt.refusal r.refusal).IsTo q) (clock : Clock) (e : Endpoint (Tapped W)) :
    Endpoint.Pays q ((r.send clock e).1.map fun waiting => .refusal waiting.1.refusal) e
      (r.send clock e).2 := by
  obtain ⟨hframe, hdestination, hservice, htype⟩ := hr
  have hsend := Endpoint.pays_sendEnvelope (q := q) (.inr ⟨rfl, hframe⟩)
    r.refusal.code.toPayload e
  rw [← hdestination, ← hservice, ← htype] at hsend
  unfold send
  split
  · next h =>
    rw [h] at hsend
    exact hsend
  · next e' h =>
    rw [h] at hsend
    have hbroken := hsend (.refusal r.refusal) ⟨hframe, hdestination, hservice, htype⟩
    split
    · exact hbroken
    · have hgiven : Endpoint.Idles e' (e'.note .error) := ⟨rfl, rfl, rfl⟩
      exact hbroken.trans (hgiven.pays nofun)

end ModuleBus

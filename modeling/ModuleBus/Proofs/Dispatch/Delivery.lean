import ModuleBus.Bench.Net
import ModuleBus.Dispatch.Listener
import ModuleBus.Proofs.Dispatch.Sending
import ModuleBus.Proofs.Packet.Interleaving

set_option autoImplicit false

/-! # From one participant to another

A message is put into an envelope, sealed if there is a key, and cut into packets; on the way in the
same is done backwards. Each layer undoes its counterpart: the receiver collects the bytes that
travelled (`Listener.receives_of_isIdle`), opens what was sealed because it has the same key
(`open?_wire`), and reads the envelope back (`accept_wire`). All packets of a message carry the flag
that tells whether it was sealed. -/

namespace ModuleBus

namespace Dispatcher

/-! ## Sealing and opening -/

/-- What goes to a peer is sealed. -/
def seals (d : Dispatcher) (destination : Address) (maySeal : Bool) : Bool :=
  maySeal && d.hasKey destination

/-- The bytes of an envelope as they travel. -/
def wire (d : Dispatcher) (destination : Address) (maySeal : Bool) (bytes : Bytes) : Bytes :=
  match if maySeal then d.key? destination else none with
  | some key => d.suite.lock key d.entropy.nonce bytes
  | none => bytes

theorem isSealable_toByte (service : Service) :
    isSealable service.toByte = true ↔ service ≠ .initialization := by
  cases service <;> decide

/-- The packets of an envelope are cut from the bytes that travel. -/
theorem frame_fst (d : Dispatcher) (destination : Address) (maySeal : Bool) (bytes : Bytes) :
    (d.frame destination maySeal bytes).1
      = (d.encoder.encode destination (d.wire destination maySeal bytes)
        (d.seals destination maySeal)).1 := by
  unfold frame wire seals hasKey
  cases maySeal with
  | false => rfl
  | true =>
    rw [if_pos rfl, Bool.true_and]
    cases d.key? destination with
    | none => rfl
    | some key => rfl

theorem isFrom_of_frame {d : Dispatcher} {destination : Address} {maySeal : Bool} {bytes : Bytes}
    {outgoing : Outgoing} (hlayout : d.encoder.layout = .current)
    (h : (d.frame destination maySeal bytes).1 = .ok outgoing) :
    (⟨d.wire destination maySeal bytes, d.seals destination maySeal, outgoing⟩ : Sent).IsFrom
      d.address := by
  rw [frame_fst] at h
  exact Sent.isFrom_of_encode hlayout h

/-- Who has the same key reads what travels. -/
theorem open?_wire {s r : Dispatcher} (hopens : s.suite.Opens) (hsuite : r.suite = s.suite)
    (hkeys : s.key? r.address = r.key? s.address) (maySeal : Bool) (bytes : Bytes) :
    r.open? s.address (s.seals r.address maySeal) (s.wire r.address maySeal bytes)
      = some bytes := by
  unfold open? wire seals hasKey
  cases maySeal with
  | false => rfl
  | true =>
    rw [if_pos rfl, Bool.true_and, ← hkeys]
    cases hkey : s.key? r.address with
    | none => rfl
    | some key =>
      simp only [Option.isSome_some, Bool.not_true, Bool.false_eq_true, if_false]
      rw [hsuite, hopens key _ bytes s.entropy.length_nonce]
      rfl

/-- The bytes that travel are taken in as the message that was sent. -/
theorem accept_wire {s r : Dispatcher} (hopens : s.suite.Opens) (hsuite : r.suite = s.suite)
    (hkeys : s.key? r.address = r.key? s.address) (maySeal : Bool) {m : Message}
    (hsource : m.source = s.address) (hdestination : m.destination = r.address) :
    r.accept s.address (s.seals r.address maySeal) (s.wire r.address maySeal m.encode)
      = r.route m := by
  unfold accept
  rw [open?_wire hopens hsuite hkeys]
  dsimp only
  rw [← hsource, ← hdestination, m.decode_encode]

end Dispatcher

/-! ## Listening to a message -/

namespace Listener

variable {V : Type} [Link V]

/-- What a listener does once a message was handed on: it listens on, or refuses the message. -/
def settle (l : Listener) (clock : Clock) (routed : Option Refusal × Dispatcher) (world : V) :
    Listener × Endpoint V :=
  match routed with
  | (none, node) => (l.listen clock, ⟨node, world⟩)
  | (some refusal, node) => l.refuse clock (.first refusal) ⟨node, world⟩

/-- Handed some packets one after another, whenever and to whatever endpoint, a listener leaves the
participant and the world alone until the last packet. Then it is idle again, and hands on the bytes
of the message `p` and nothing else. -/
def Receives (V : Type) [Link V] (p : Partial) (payload : Bytes) (l : Listener) : List Bytes → Prop
  | [] => False
  | [packet] => ∀ (clock : Clock) (e : Endpoint V) (w : V),
    Link.receive e.node.port e.world = (.packet packet, w) →
    ∃ l' : Listener, l'.reassembler.isIdle = true
      ∧ l.step clock e = some (l'.settle clock (e.node.accept p.source p.sealed payload) w)
  | packet :: next :: rest => ∀ (clock : Clock) (e : Endpoint V) (w : V),
    Link.receive e.node.port e.world = (.packet packet, w) →
    ∃ l' : Listener, l.step clock e = some (l', { e with world := w })
      ∧ Receives V p payload l' (next :: rest)

/-- Handed some packets one after another, whenever and in whatever world, a listener leaves its
participant and the world alone until the last packet. Then it is idle again, and hands on the
message `m` and nothing else. -/
def Delivers (V : Type) [Link V] (m : Message) (node : Dispatcher) (l : Listener) :
    List Bytes → Prop
  | [] => False
  | [packet] => ∀ (clock : Clock) (w w' : V), Link.receive node.port w = (.packet packet, w') →
    ∃ l' : Listener, l'.reassembler.isIdle = true
      ∧ l.step clock ⟨node, w⟩ = some (l'.settle clock (node.route m) w')
  | packet :: next :: rest => ∀ (clock : Clock) (w w' : V),
    Link.receive node.port w = (.packet packet, w') →
    ∃ l' : Listener, l.step clock ⟨node, w⟩ = some (l', ⟨node, w'⟩)
      ∧ Delivers V m node l' (next :: rest)

variable {l : Listener} {node : Dispatcher} {clock : Clock} {w w' : V} {packet : Bytes}
  {deadline : Timer}

theorem step_of_packet (hwaiting : l.waiting = .forPacket deadline)
    (hreceive : Link.receive node.port w = (.packet packet, w'))
    (hlength : packet.length ≤ maxPacket) :
    l.step clock ⟨node, w⟩ = some (l.take clock packet ⟨node, w'⟩) := by
  unfold step
  rw [hwaiting]
  dsimp only
  rw [hreceive]
  dsimp only
  rw [List.take_of_length_le hlength]

/-- The bytes of a message that has ended are handed on. -/
theorem take_of_ended {done : Reassembled} {r : Reassembler} {e : Endpoint V}
    (hpush : l.reassembler.push packet = (.ok (some done), r)) (hwhole : done.truncated = false) :
    l.take clock packet e = { l with reassembler := r }.settle clock
      (e.node.accept done.source done.sealed (r.content done)) e.world := by
  unfold take settle
  rw [hpush]
  refine (if_neg (by simp [hwhole])).trans ?_
  rcases e.node.accept done.source done.sealed (r.content done) with ⟨refusal | refusal, node'⟩
  · rfl
  · rfl

/-- The fragments of a message that are left are collected, and its bytes are handed on. -/
theorem receives_drop {p : Partial} {payload opened : Bytes} {packets : List Bytes} {k : Nat}
    (hfragments : AreFragments p payload packets) (hroom : payload.length ≤ opened.length)
    (hcollecting : l.reassembler = .collecting opened p payload k)
    (hwaiting : l.waiting = .forPacket deadline) (hk : k < packets.length) :
    l.Receives V p payload (packets.drop k) := by
  have hcount := hfragments.length_packets
  obtain ⟨left, hleft⟩ : ∃ left, packets.length = k + 1 + left :=
    ⟨packets.length - (k + 1), by omega⟩
  induction left generalizing k l deadline with
  | zero =>
    have hfragment := hfragments.isFragment (List.getElem?_eq_getElem hk)
    have hpush := (Reassembler.push_fragment opened hfragment (by omega)).trans
      (if_neg (by omega))
    rw [← hcollecting] at hpush
    rw [List.drop_eq_getElem_cons hk, List.drop_of_length_le (by omega)]
    intro clock e w hreceive
    refine ⟨{ l with reassembler := ⟨none, opened.overwrite 0 payload⟩ }, rfl, ?_⟩
    rw [step_of_packet hwaiting hreceive hfragment.length_le,
      take_of_ended hpush (decide_eq_false (Nat.not_lt.mpr hroom))]
    have hcontent : (opened.overwrite 0 payload).take (min payload.length opened.length)
        = payload := by
      rw [Nat.min_eq_left hroom]
      exact Bytes.take_overwrite_zero hroom
    simp only [Reassembler.content, Partial.ended, hcontent]
  | succ left ih =>
    have hmore : k + 1 < packets.length := by omega
    have hfragment := hfragments.isFragment (List.getElem?_eq_getElem hk)
    have hpush := (Reassembler.push_fragment opened hfragment (by omega)).trans
      (if_pos (by omega))
    rw [← hcollecting] at hpush
    have hnext := List.drop_eq_getElem_cons hmore
    rw [List.drop_eq_getElem_cons hk, hnext]
    intro clock e w hreceive
    rw [step_of_packet hwaiting hreceive hfragment.length_le, take, hpush]
    refine ⟨_, rfl, ?_⟩
    rw [← hnext]
    exact ih rfl rfl hmore (by omega)

/-- An idle listener that waits for a packet receives any message that its buffer has room for. -/
theorem receives_of_isIdle {p : Partial} {payload : Bytes} {packets : List Bytes}
    (hfragments : AreFragments p payload packets)
    (hroom : payload.length ≤ l.reassembler.buffer.length)
    (hidle : l.reassembler.isIdle = true) (hwaiting : l.waiting = .forPacket deadline) :
    l.Receives V p payload packets := by
  have hcollecting : l.reassembler = .collecting l.reassembler.buffer p payload 0 := by
    rw [Reassembler.collecting_zero]
    exact Reassembler.eq_start hidle
  have hpackets : 0 < packets.length := by
    rw [hfragments.length_packets]
    exact Nat.le_max_left 1 _
  exact receives_drop hfragments hroom hcollecting hwaiting hpackets

/-- Bytes that are handed on are taken in as the message that they are. -/
theorem Receives.delivers {p : Partial} {payload : Bytes} {packets : List Bytes} {message : Message}
    (h : l.Receives V p payload packets)
    (haccept : node.accept p.source p.sealed payload = node.route message) :
    l.Delivers V message node packets := by
  induction packets generalizing l with
  | nil => exact h
  | cons packet rest ih =>
    cases rest with
    | nil =>
      intro clock w w' hreceive
      obtain ⟨l', hidle, hstep⟩ := h clock ⟨node, w⟩ w' hreceive
      rw [haccept] at hstep
      exact ⟨l', hidle, hstep⟩
    | cons next rest =>
      intro clock w w' hreceive
      obtain ⟨l', hstep, hrest⟩ := h clock ⟨node, w⟩ w' hreceive
      exact ⟨l', hstep, ih hrest⟩

end Listener

/-! ## Delivery -/

namespace Endpoint

variable {W V : Type} [Link W] [Link V]

/-- A message that could be sent was cut into packets, and these were written. -/
theorem exists_outgoing {e : Endpoint W} {destination : Address} {maySeal : Bool} {bytes : Bytes}
    {n : Nat} (hok : (e.sendEnvelope destination maySeal bytes).1 = .ok n) :
    ∃ outgoing, (e.node.frame destination maySeal bytes).1 = .ok outgoing
      ∧ writeAll e.node.port destination outgoing.packets e.world
        = (.ok n, (e.sendEnvelope destination maySeal bytes).2.world) := by
  obtain ⟨encoder, entropy, hnode⟩ := e.node.frame_frame destination maySeal bytes
  unfold sendEnvelope at hok ⊢
  cases hframe : e.node.frame destination maySeal bytes with
  | mk result node =>
    rw [hframe] at hok hnode
    cases result with
    | error error => cases hok
    | ok outgoing =>
      refine ⟨outgoing, rfl, ?_⟩
      dsimp only at hok hnode ⊢
      rw [hnode] at hok ⊢
      cases hwritten : writeAll e.node.port destination outgoing.packets e.world with
      | mk count world =>
        rw [hwritten] at hok
        cases count with
        | error error => cases hok
        | ok count =>
          obtain rfl := Except.ok.inj hok
          rfl

/-- **What is sent arrives.** A message was sent to a participant that has the same key for the
sender as the sender has for it, or none either, and its bytes fit the buffer of the idle listener
there. The packets that were written, handed to that listener in order, make it hand on this one
message; and each of them says that it is sealed exactly if there is a key and the service is not
that of the initialization. -/
theorem delivers_send {s : Endpoint W} {r : Endpoint V} {l : Listener} {deadline : Timer}
    {frame : FrameKind} {service : Service} {type : UInt8} {payload : Bytes} {n : Nat}
    (hlayout : s.node.encoder.layout = .current) (hopens : s.node.suite.Opens)
    (hsuite : r.node.suite = s.node.suite)
    (hkeys : s.node.key? r.address = r.node.key? s.address)
    (hidle : l.reassembler.isIdle = true) (hwaiting : l.waiting = .forPacket deadline)
    (hok : (s.send r.address frame service type payload).1 = .ok n)
    (hroom : (s.node.wire r.address (Dispatcher.isSealable service.toByte)
      (envelope frame service.toByte type payload)).length ≤ l.reassembler.buffer.length) :
    ∃ outgoing,
      (s.node.frame r.address (Dispatcher.isSealable service.toByte)
        (envelope frame service.toByte type payload)).1 = .ok outgoing
      ∧ writeAll s.node.port r.address outgoing.packets s.world
        = (.ok n, (s.send r.address frame service type payload).2.world)
      ∧ (∀ packet ∈ outgoing.packets, ∃ header, Header.parse packet = .ok header
        ∧ (header.sealed = true ↔ s.node.hasKey r.address = true ∧ service ≠ .initialization))
      ∧ l.Delivers V ⟨s.address, r.address, frame, service, type, payload⟩ r.node
        outgoing.packets := by
  obtain ⟨outgoing, hframe, hwritten⟩ := exists_outgoing hok
  have hm := Dispatcher.isFrom_of_frame hlayout hframe
  refine ⟨outgoing, hframe, hwritten, fun packet hpacket => ?_, ?_⟩
  · rw [hm.packets] at hpacket
    obtain ⟨k, _, rfl⟩ := List.mem_map.mp hpacket
    refine ⟨_, Header.parse_toBytes_append rfl _, ?_⟩
    rw [Sent.header, Dispatcher.seals, Bool.and_eq_true, Dispatcher.isSealable_toByte, and_comm]
  · have haccept := Dispatcher.accept_wire
      (m := ⟨s.address, r.address, frame, service, type, payload⟩) hopens hsuite hkeys
      (Dispatcher.isSealable service.toByte) rfl rfl
    exact (Listener.receives_of_isIdle (Sent.areFragments hm) hroom hidle hwaiting).delivers haccept

/-- A module that shares a key with the controller. -/
def keyedModule : Endpoint Net where
  node := (Dispatcher.start 0 ⟨0x10⟩ {} [] 0).installKey .controller ⟨List.replicate 32 7⟩
  world := .start [⟨0x10⟩, .controller]

/-- The controller. -/
def keyedController : Endpoint Net where
  node := (Dispatcher.start 1 .controller {} [.energy] 1).installKey ⟨0x10⟩ ⟨List.replicate 32 7⟩
  world := .start [⟨0x10⟩, .controller]

/-- A question that the module asks under the key is delivered. -/
theorem sealed_question_is_delivered :
    ∃ outgoing, (keyedModule.node.frame .controller true (envelope .command 5 0 [1])).1
        = .ok outgoing
      ∧ (Listener.start {}).Delivers Net ⟨⟨0x10⟩, .controller, .command, .energy, 0, [1]⟩
        keyedController.node outgoing.packets := by
  have hroom : (keyedModule.node.wire .controller true (envelope .command 5 0 [1])).length
      ≤ (Listener.start {}).reassembler.buffer.length := by
    decide +kernel
  have hok : (keyedModule.send .controller .command .energy 0 [1]).1 = .ok 40 := by
    decide +kernel
  obtain ⟨outgoing, hframe, _, _, hdelivers⟩ :=
    delivers_send (s := keyedModule) (r := keyedController) (l := .start {}) rfl
      Suite.opens_standard rfl rfl rfl rfl hok hroom
  exact ⟨outgoing, hframe, hdelivers⟩

end Endpoint

end ModuleBus

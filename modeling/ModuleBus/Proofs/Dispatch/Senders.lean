import Mathlib.Logic.Relation
import ModuleBus.Bench.Net
import ModuleBus.Proofs.Dispatch.Answers

set_option autoImplicit false

/-! # Senders side by side

Any number of senders share one participant. Each makes the packets of its message first, which
uses up a sequence number, then waits for a lock, and writes packet by packet while it has the lock.
Between any two of these steps the others may act, and the sender may be dropped, which gives the
lock back.

Since only the one that has the lock writes, what the link takes falls into stretches, one for each
message of which anything was written at all, and a stretch is the beginning of its message. The
sequence number tells two messages apart as long as the counter has not gone once around. -/

namespace ModuleBus

/-! ## What senders send -/

/-- What a sender is about. -/
inductive Sending where
  /-- A message that nobody answers. A reply is one. -/
  | message (notice : Notice)
  /-- The command of a call that was registered. -/
  | command (ticket : Ticket) (key : CallKey) (payload : Bytes)
  | refusal (reply : ErrorReply)

namespace Sending

/-- The address that the message goes to. -/
def destination : Sending → Address
  | message n => n.peer
  | command _ key _ => key.peer
  | refusal r => r.refusal.destination

/-- The byte of the service that the message belongs to. -/
def service : Sending → UInt8
  | message n => n.service.toByte
  | command _ key _ => key.service.toByte
  | refusal r => r.refusal.service

/-- The envelope of the message. -/
def text : Sending → Bytes
  | message n => envelope n.frame n.service.toByte n.type n.payload
  | command _ key payload => envelope .command key.service.toByte key.type payload
  | refusal r => envelope .error r.refusal.service r.refusal.type r.refusal.code.toPayload

/-- Makes the packets of the message. -/
def frame (a : Sending) (d : Dispatcher) : Except CodecError Outgoing × Dispatcher :=
  d.frame a.destination (Dispatcher.isSealable a.service) a.text

/-- A call that ends early is forgotten. -/
def abandon (a : Sending) (d : Dispatcher) : Dispatcher :=
  match a with
  | command ticket _ _ => { d with pending := d.pending.forget ticket }
  | message _ | refusal _ => d

end Sending

/-- A message whose packets were made, and how many messages had been encoded before, refused ones
included. -/
structure Draft where
  sending : Sending
  number : Nat
  outgoing : Outgoing

/-- How many messages were encoded after one and before another, refused ones included. -/
def Draft.between (d d' : Draft) : Nat := d'.number - d.number - 1

/-- The message is cut into pieces of one text, and every packet tells the sequence number of the
message and where in the text its piece begins. -/
def Draft.IsInOrder (d : Draft) : Prop :=
  ∃ (text : Bytes) (header : Nat → Header),
    d.outgoing.packets = (List.range (FrameEncoder.packetCount text.length)).map
      (fun i => (header i).toBytes ++ (text.drop (i * maxChunk)).take maxChunk)
    ∧ ∀ i < FrameEncoder.packetCount text.length,
      (header i).sequence = d.outgoing.sequence ∧ (header i).offset.toNat = i * maxChunk

/-- How far a sender has come. -/
inductive Progress where
  /-- It has not begun, or has ended. -/
  | idle
  /-- The message is to be encoded, perhaps not for the first time. -/
  | ready (sending : Sending)
  /-- The packets are made, and the sender waits for the lock. -/
  | queued (draft : Draft)
  /-- The sender has the lock, and so many packets are written. -/
  | writing (draft : Draft) (taken : Nat)
  /-- The command of a call was sent. -/
  | waiting (ticket : Ticket)

namespace Progress

/-- The message that the sender wants to write or is writing. -/
def draft? : Progress → Option Draft
  | queued d | writing d _ => some d
  | idle | ready _ | waiting _ => none

/-- What dropping the sender does to the participant. -/
def abandon (p : Progress) (d : Dispatcher) : Dispatcher :=
  match p with
  | idle => d
  | ready a => a.abandon d
  | queued draft | writing draft _ => draft.sending.abandon d
  | waiting ticket => { d with pending := d.pending.forget ticket }

end Progress

namespace Sending

/-- A sender whose message was written. -/
def written : Sending → Progress
  | command ticket _ _ => .waiting ticket
  | message _ | refusal _ => .idle

/-- A sender whose message cannot be encoded, or was not written to its end. Error replies are
tried again. -/
def failed (a : Sending) (d : Dispatcher) : Progress × Dispatcher :=
  match a with
  | refusal r =>
    if r.attempt < ErrorReply.maxAttempts d.settings then
      (.ready (.refusal { r with attempt := r.attempt + 1 }), d)
    else (.idle, d.note .error)
  | message _ | command _ _ _ => (.idle, a.abandon d)

end Sending

/-- Giving up and going on leave the sequence number as it is. -/
theorem Sending.encoder_abandon (a : Sending) (d : Dispatcher) :
    (a.abandon d).encoder = d.encoder := by
  cases a <;> rfl

theorem Progress.encoder_abandon (p : Progress) (d : Dispatcher) :
    (p.abandon d).encoder = d.encoder := by
  cases p with
  | idle => rfl
  | ready a => exact a.encoder_abandon d
  | queued draft => exact draft.sending.encoder_abandon d
  | writing draft k => exact draft.sending.encoder_abandon d
  | waiting ticket => rfl

theorem Sending.draft?_written (a : Sending) : a.written.draft? = none := by
  cases a <;> rfl

theorem Sending.failed_frame (a : Sending) (d : Dispatcher) :
    (a.failed d).1.draft? = none ∧ (a.failed d).2.encoder = d.encoder := by
  unfold failed
  split
  · split
    · exact ⟨rfl, rfl⟩
    · exact ⟨rfl, rfl⟩
  · exact ⟨rfl, rfl⟩
  · exact ⟨rfl, rfl⟩

/-- What the link took of a message while its sender had the lock. -/
structure Stretch where
  draft : Draft
  taken : Nat
  /-- The sender has written all. -/
  isWhole : Bool

/-- The packets of a stretch, with their address. -/
def Stretch.packets (s : Stretch) : List (Address × Bytes) :=
  (s.draft.outgoing.packets.take s.taken).map (s.draft.sending.destination, ·)

/-! ## Encoding

What is encoded is cut in the order of the offsets, and uses up one sequence number whether it is
accepted or refused. -/

theorem FrameEncoder.isInOrder_of_encode {e : FrameEncoder} {destination : Address}
    {payload : Bytes} {sealed : Bool} {outgoing : Outgoing}
    (h : (e.encode destination payload sealed).1 = .ok outgoing) (a : Sending) (number : Nat) :
    outgoing.sequence = e.next ∧ (⟨a, number, outgoing⟩ : Draft).IsInOrder := by
  obtain ⟨hrefusal, rfl⟩ := encode_eq_ok_iff.mp h
  have hlength := length_lt_of_refusal hrefusal
  refine ⟨rfl, payload, fun i => ⟨e.layout, i + 1 < packetCount payload.length, sealed, e.source,
    e.next, UInt16.ofNat payload.length, UInt16.ofNat (i * maxChunk)⟩, rfl, fun i hi => ⟨rfl, ?_⟩⟩
  -- A piece begins within the text, so that its offset fits its field.
  refine UInt16.toNat_ofNat_of_lt' ?_
  simp only [packetCount, maxChunk, maxPacket, headerSize, UInt16.size] at hi hlength ⊢
  omega

theorem Sending.isInOrder_of_frame {a : Sending} {d d' : Dispatcher} {outgoing : Outgoing}
    (h : a.frame d = (.ok outgoing, d')) (number : Nat) :
    outgoing.sequence = d.encoder.next ∧ (⟨a, number, outgoing⟩ : Draft).IsInOrder := by
  replace h := congrArg Prod.fst h
  unfold frame Dispatcher.frame at h
  split at h
  · exact FrameEncoder.isInOrder_of_encode h a number
  · exact FrameEncoder.isInOrder_of_encode h a number

theorem Sending.next_of_frame {a : Sending} {d d' : Dispatcher}
    {result : Except CodecError Outgoing} (h : a.frame d = (result, d')) :
    d'.encoder.next = d.encoder.next + 1 := by
  obtain rfl : (a.frame d).2 = d' := congrArg Prod.snd h
  unfold frame Dispatcher.frame
  split
  · rfl
  · rfl

/-! ## Senders -/

variable {W : Type}

/-- A participant with its senders, each under a number. -/
structure Senders (W : Type) where
  endpoint : Endpoint (Tapped W)
  progress : Nat → Progress
  /-- The sender that has the lock. -/
  holder : Option Nat
  /-- How many messages were encoded, refused ones included. -/
  encoded : Nat
  /-- The messages that were encoded, newest first. -/
  drafts : List Draft
  /-- What the link took, newest first. -/
  log : List Stretch

namespace Senders

/-- No sender has begun. -/
structure IsOpening (x : Senders W) : Prop where
  progress : ∀ i, x.progress i = .idle
  holder : x.holder = none
  encoded : x.encoded = 0
  drafts : x.drafts = []
  log : x.log = []

/-- A sender has come to another point. -/
def turn (x : Senders W) (i : Nat) (p : Progress) : Senders W :=
  { x with progress := fun j => if j = i then p else x.progress j }

/-- A sender gives back the lock, if it has it. -/
def release (x : Senders W) (i : Nat) : Senders W :=
  { x with holder := if x.holder = some i then none else x.holder }

/-- The participant remembers something else. -/
def remember (x : Senders W) (d : Dispatcher) : Senders W :=
  { x with endpoint := { x.endpoint with node := d } }

/-- A sender fails to send its message. -/
def fail (x : Senders W) (i : Nat) (a : Sending) : Senders W :=
  ((x.release i).remember (a.failed x.endpoint.node).2).turn i (a.failed x.endpoint.node).1

/-- A sender is dropped, or a call ends. -/
def drop (x : Senders W) (i : Nat) : Senders W :=
  ((x.release i).remember ((x.progress i).abandon x.endpoint.node)).turn i .idle

/-- A sender has encoded its message. -/
def encode (x : Senders W) (i : Nat) (a : Sending) (outgoing : Outgoing) (d : Dispatcher) :
    Senders W :=
  { (x.remember d).turn i (.queued ⟨a, x.encoded, outgoing⟩) with
    encoded := x.encoded + 1
    drafts := ⟨a, x.encoded, outgoing⟩ :: x.drafts }

/-- A sender has taken the lock. -/
def lock (x : Senders W) (i : Nat) (d : Draft) : Senders W :=
  { x.turn i (.writing d 0) with holder := some i, log := ⟨d, 0, false⟩ :: x.log }

/-- The link has taken one more packet. -/
def write (x : Senders W) (i : Nat) (d : Draft) (k : Nat) (w : Tapped W) : Senders W :=
  { x.turn i (.writing d (k + 1)) with
    endpoint := { x.endpoint with world := w }
    log := ⟨d, k + 1, false⟩ :: x.log.tail }

/-- A sender has written all packets. -/
def finish (x : Senders W) (i : Nat) (d : Draft) (k : Nat) : Senders W :=
  { (x.release i).turn i d.sending.written with log := ⟨d, k, true⟩ :: x.log.tail }

/-- One step of one sender. The rest of the participant, and of the world, may do anything in
between that encodes and writes nothing. -/
inductive Step [Link W] (x : Senders W) : Senders W → Prop
  | begin {i : Nat} {a : Sending} : x.progress i = .idle →
      (∀ ticket key payload, a ≠ .command ticket key payload) → Step x (x.turn i (.ready a))
  | call {i : Nat} {key : CallKey} {ticket : Ticket} {pending : PendingCalls} (payload : Bytes) :
      x.progress i = .idle → x.endpoint.node.pending.register key = (some ticket, pending) →
      Step x ((x.remember { x.endpoint.node with pending := pending }).turn i
        (.ready (.command ticket key payload)))
  | encode {i : Nat} {a : Sending} {outgoing : Outgoing} {d : Dispatcher} :
      x.progress i = .ready a → a.frame x.endpoint.node = (.ok outgoing, d) →
      Step x (x.encode i a outgoing d)
  | refuse {i : Nat} {a : Sending} {error : CodecError} {d : Dispatcher} :
      x.progress i = .ready a → a.frame x.endpoint.node = (.error error, d) →
      Step x ({ x.remember d with encoded := x.encoded + 1 }.fail i a)
  | lock {i : Nat} {d : Draft} : x.progress i = .queued d → x.holder = none → Step x (x.lock i d)
  | write {i : Nat} {d : Draft} {k : Nat} {packet : Bytes} {w : Tapped W} :
      x.progress i = .writing d k → d.outgoing.packets[k]? = some packet →
      Link.write x.endpoint.node.port d.sending.destination packet x.endpoint.world = (.ok (), w) →
      Step x (x.write i d k w)
  | interrupt {i : Nat} {d : Draft} {k : Nat} {packet : Bytes} {error : TransportError}
      {w : Tapped W} :
      x.progress i = .writing d k → d.outgoing.packets[k]? = some packet →
      Link.write x.endpoint.node.port d.sending.destination packet x.endpoint.world
        = (.error error, w) →
      Step x ({ x with endpoint := { x.endpoint with world := w } }.fail i d.sending)
  | finish {i : Nat} {d : Draft} {k : Nat} :
      x.progress i = .writing d k → d.outgoing.packets.length = k → Step x (x.finish i d k)
  | drop (i : Nat) : Step x (x.drop i)
  | drift {e : Endpoint (Tapped W)} : e.node.encoder.next = x.endpoint.node.encoder.next →
      e.world.tap = x.endpoint.world.tap → Step x { x with endpoint := e }

/-! ## What stays true -/

/-- What is noted of the senders is what has happened since the start, and only the one that has
the lock is writing. -/
structure IsSound (start x : Senders W) : Prop where
  next : x.endpoint.node.encoder.next
    = start.endpoint.node.encoder.next + UInt16.ofNat x.encoded
  tap : x.endpoint.world.tap = start.endpoint.world.tap ++ x.log.reverse.flatMap Stretch.packets
  drafts {d : Draft} : d ∈ x.drafts → d.number < x.encoded ∧ d.IsInOrder
    ∧ (∃ node, (d.sending.frame node).1 = .ok d.outgoing)
    ∧ d.outgoing.sequence = start.endpoint.node.encoder.next + UInt16.ofNat d.number
  numbers : (x.drafts.map Draft.number).Nodup
  log {s : Stretch} : s ∈ x.log → s.draft ∈ x.drafts ∧ s.taken ≤ s.draft.outgoing.packets.length
    ∧ (s.isWhole = true → s.taken = s.draft.outgoing.packets.length)
  once : (x.log.map fun s => s.draft.number).Nodup
  queued {i : Nat} {d : Draft} : x.progress i = .queued d →
    d ∈ x.drafts ∧ d.number ∉ x.log.map fun s => s.draft.number
  apart {i j : Nat} {d d' : Draft} : x.progress i = .queued d → x.progress j = .queued d' →
    d.number = d'.number → i = j
  writing {i : Nat} {d : Draft} {k : Nat} : x.progress i = .writing d k →
    x.holder = some i ∧ x.log = ⟨d, k, false⟩ :: x.log.tail

variable {start x : Senders W} {i : Nat} {a : Sending} {d : Draft} {k : Nat} {p : Progress}

theorem IsOpening.isSound (h : x.IsOpening) : IsSound x x where
  next := by rw [h.encoded]; exact (UInt16.add_zero _).symm
  tap := by rw [h.log]; exact (List.append_nil _).symm
  drafts hd := by rw [h.drafts] at hd; cases hd
  numbers := by rw [h.drafts]; exact .nil
  log hs := by rw [h.log] at hs; cases hs
  once := by rw [h.log]; exact .nil
  queued hi := by rw [h.progress] at hi; cases hi
  apart hi := by rw [h.progress] at hi; cases hi
  writing hi := by rw [h.progress] at hi; cases hi

theorem IsSound.drift (h : IsSound start x) {e : Endpoint (Tapped W)}
    (hnext : e.node.encoder.next = x.endpoint.node.encoder.next)
    (htap : e.world.tap = x.endpoint.world.tap) : IsSound start { x with endpoint := e } :=
  { h with next := hnext.trans h.next, tap := htap.trans h.tap }

theorem progress_turn_self (x : Senders W) (i : Nat) (p : Progress) :
    (x.turn i p).progress i = p :=
  if_pos rfl

/-- After a sender has come to another point, it is there, and the others are where they were. -/
theorem progress_of_turn {j : Nat} {q : Progress} (h : (x.turn i p).progress j = q) :
    j = i ∧ p = q ∨ j ≠ i ∧ x.progress j = q := by
  by_cases hj : j = i
  · exact .inl ⟨hj, (if_pos hj).symm.trans h⟩
  · exact .inr ⟨hj, (if_neg hj).symm.trans h⟩

theorem IsSound.turn (h : IsSound start x) (hp : p.draft? = none) :
    IsSound start (x.turn i p) where
  next := h.next
  tap := h.tap
  drafts := h.drafts
  numbers := h.numbers
  log := h.log
  once := h.once
  queued hj := by
    obtain ⟨-, rfl⟩ | ⟨-, hj'⟩ := progress_of_turn hj
    · cases hp
    · exact h.queued hj'
  apart hj hl := by
    obtain ⟨-, rfl⟩ | ⟨-, hj'⟩ := progress_of_turn hj
    · cases hp
    obtain ⟨-, rfl⟩ | ⟨-, hl'⟩ := progress_of_turn hl
    · cases hp
    · exact h.apart hj' hl'
  writing hj := by
    obtain ⟨-, rfl⟩ | ⟨-, hj'⟩ := progress_of_turn hj
    · cases hp
    · exact h.writing hj'

/-- A sender that wants nothing more of the lock gives it back. -/
theorem IsSound.release (h : IsSound start x) (hp : p.draft? = none) :
    IsSound start ((x.release i).turn i p) :=
  { h.turn hp with
    writing := by
      intro j d k hj
      obtain ⟨-, rfl⟩ | ⟨hne, hj'⟩ := progress_of_turn hj
      · cases hp
      · obtain ⟨hholder, hlog⟩ := h.writing hj'
        have hother : x.holder ≠ some i := by
          rw [hholder]
          exact fun h => hne (Option.some.inj h)
        exact ⟨(if_neg hother).trans hholder, hlog⟩ }

theorem IsSound.fail (h : IsSound start x) (i : Nat) (a : Sending) :
    IsSound start (x.fail i a) :=
  (h.release (a.failed_frame x.endpoint.node).1).drift
    (congrArg FrameEncoder.next (a.failed_frame x.endpoint.node).2) rfl

theorem IsSound.drop (h : IsSound start x) (i : Nat) : IsSound start (x.drop i) :=
  (h.release rfl).drift
    (congrArg FrameEncoder.next ((x.progress i).encoder_abandon x.endpoint.node)) rfl

/-! ## Encoding keeps what is noted -/

theorem IsSound.next_succ (h : IsSound start x) :
    x.endpoint.node.encoder.next + 1
      = start.endpoint.node.encoder.next + UInt16.ofNat (x.encoded + 1) := by
  rw [h.next, UInt16.add_assoc, UInt16.ofNat_add]
  rfl

/-- The number of a new message is that of no other. -/
theorem IsSound.number_ne (h : IsSound start x) (hd : d ∈ x.drafts) : d.number ≠ x.encoded :=
  Nat.ne_of_lt (h.drafts hd).1

theorem IsSound.encode (h : IsSound start x) {outgoing : Outgoing} {node : Dispatcher}
    (hframe : a.frame x.endpoint.node = (.ok outgoing, node)) :
    IsSound start (x.encode i a outgoing node) where
  next := (Sending.next_of_frame hframe).trans h.next_succ
  tap := h.tap
  drafts hd := by
    obtain rfl | hd' := List.mem_cons.mp hd
    · obtain ⟨hsequence, horder⟩ := Sending.isInOrder_of_frame hframe x.encoded
      exact ⟨Nat.lt_succ_self _, horder, ⟨_, congrArg Prod.fst hframe⟩, hsequence.trans h.next⟩
    · obtain ⟨hnumber, hrest⟩ := h.drafts hd'
      exact ⟨Nat.lt_succ_of_lt hnumber, hrest⟩
  numbers := by
    refine List.nodup_cons.mpr ⟨fun hmem => ?_, h.numbers⟩
    obtain ⟨d, hd, hnumber⟩ := List.mem_map.mp hmem
    exact h.number_ne hd hnumber
  log hs := by
    obtain ⟨hmem, hrest⟩ := h.log hs
    exact ⟨List.mem_cons_of_mem _ hmem, hrest⟩
  once := h.once
  queued hj := by
    obtain ⟨-, hd⟩ | ⟨-, hj'⟩ := progress_of_turn hj
    · cases hd
      refine ⟨List.mem_cons_self, fun hmem => ?_⟩
      obtain ⟨s, hs, hnumber⟩ := List.mem_map.mp hmem
      exact h.number_ne (h.log hs).1 hnumber
    · exact ⟨List.mem_cons_of_mem _ (h.queued hj').1, (h.queued hj').2⟩
  apart hj hl hnumber := by
    obtain ⟨rfl, hd⟩ | ⟨-, hj'⟩ := progress_of_turn hj
    · cases hd
      obtain ⟨rfl, -⟩ | ⟨-, hl'⟩ := progress_of_turn hl
      · rfl
      · exact absurd hnumber.symm (h.number_ne (h.queued hl').1)
    · obtain ⟨rfl, hd⟩ | ⟨-, hl'⟩ := progress_of_turn hl
      · cases hd
        exact absurd hnumber (h.number_ne (h.queued hj').1)
      · exact h.apart hj' hl' hnumber
  writing hj := by
    obtain ⟨-, hd⟩ | ⟨-, hj'⟩ := progress_of_turn hj
    · cases hd
    · exact h.writing hj'

/-- A message that cannot be encoded uses up a number too. -/
theorem IsSound.refuse (h : IsSound start x) {error : CodecError} {node : Dispatcher}
    (hframe : a.frame x.endpoint.node = (.error error, node)) :
    IsSound start { x.remember node with encoded := x.encoded + 1 } where
  next := (Sending.next_of_frame hframe).trans h.next_succ
  tap := h.tap
  drafts hd := by
    obtain ⟨hnumber, hrest⟩ := h.drafts hd
    exact ⟨Nat.lt_succ_of_lt hnumber, hrest⟩
  numbers := h.numbers
  log := h.log
  once := h.once
  queued := h.queued
  apart := h.apart
  writing := h.writing

/-! ## Writing keeps what is noted -/

theorem IsSound.lock (h : IsSound start x) (hi : x.progress i = .queued d)
    (hfree : x.holder = none) : IsSound start (x.lock i d) where
  next := h.next
  tap := by
    have hnothing : (⟨d, 0, false⟩ : Stretch).packets = [] := rfl
    simp only [Senders.lock, Senders.turn, List.reverse_cons, List.flatMap_append,
      List.flatMap_singleton, hnothing, List.append_nil, h.tap]
  drafts := h.drafts
  numbers := h.numbers
  log hs := by
    obtain rfl | hs' := List.mem_cons.mp hs
    · exact ⟨(h.queued hi).1, Nat.zero_le _, nofun⟩
    · exact h.log hs'
  once := List.nodup_cons.mpr ⟨(h.queued hi).2, h.once⟩
  queued hj := by
    obtain ⟨-, hd⟩ | ⟨hne, hj'⟩ := progress_of_turn hj
    · cases hd
    · refine ⟨(h.queued hj').1, fun hmem => ?_⟩
      obtain hnumber | hmem' := List.mem_cons.mp hmem
      · exact hne (h.apart hj' hi hnumber)
      · exact (h.queued hj').2 hmem'
  apart hj hl := by
    obtain ⟨-, hd⟩ | ⟨-, hj'⟩ := progress_of_turn hj
    · cases hd
    obtain ⟨-, hd⟩ | ⟨-, hl'⟩ := progress_of_turn hl
    · cases hd
    · exact h.apart hj' hl'
  writing hj := by
    obtain ⟨rfl, hd⟩ | ⟨-, hj'⟩ := progress_of_turn hj
    · cases hd
      exact ⟨rfl, rfl⟩
    · -- While the lock is free nobody is writing.
      have hheld := (h.writing hj').1
      rw [hfree] at hheld
      cases hheld

/-- The sender that has the lock goes on in its stretch, or ends it. -/
theorem IsSound.extend (h : IsSound start x) (hi : x.progress i = .writing d k) {t : Nat}
    {isWhole : Bool} {holder : Option Nat} {w : Tapped W} {new : List (Address × Bytes)}
    (htap : w.tap = x.endpoint.world.tap ++ new)
    (hnew : (⟨d, t, isWhole⟩ : Stretch).packets = (⟨d, k, false⟩ : Stretch).packets ++ new)
    (htaken : t ≤ d.outgoing.packets.length
      ∧ (isWhole = true → t = d.outgoing.packets.length))
    (hp : p.draft? = none ∨ p = .writing d t ∧ isWhole = false ∧ holder = some i) :
    IsSound start { x.turn i p with
      endpoint := { x.endpoint with world := w }
      holder := holder
      log := ⟨d, t, isWhole⟩ :: x.log.tail } := by
  obtain ⟨hholder, hlog⟩ := h.writing hi
  have hnumbers : ((⟨d, t, isWhole⟩ :: x.log.tail).map fun s => s.draft.number)
      = x.log.map fun s => s.draft.number := by
    rw [hlog]
    rfl
  have hmem : (⟨d, k, false⟩ : Stretch) ∈ x.log := hlog ▸ List.mem_cons_self
  -- A sender that is waiting for the lock now was waiting before.
  have hqueued : ∀ {j d'}, (x.turn i p).progress j = .queued d' → x.progress j = .queued d' := by
    intro j d' hj
    obtain ⟨-, rfl⟩ | ⟨-, hj'⟩ := progress_of_turn hj
    · rcases hp with hp | ⟨hp, -⟩
      · cases hp
      · cases hp
    · exact hj'
  refine ⟨h.next, ?_, h.drafts, h.numbers, fun hs => ?_, hnumbers ▸ h.once, fun hj => ?_,
    fun hj hl => h.apart (hqueued hj) (hqueued hl), fun hj => ?_⟩
  · dsimp only
    rw [htap, h.tap, hlog]
    simp only [List.tail_cons, List.reverse_cons, List.flatMap_append, List.flatMap_singleton,
      hnew, List.append_assoc]
  · obtain rfl | hs' := List.mem_cons.mp hs
    · exact ⟨(h.log hmem).1, htaken⟩
    · exact h.log (List.mem_of_mem_tail hs')
  · dsimp only
    rw [hnumbers]
    exact h.queued (hqueued hj)
  · obtain ⟨rfl, rfl⟩ | ⟨hne, hj'⟩ := progress_of_turn hj
    · rcases hp with hp | ⟨hp, rfl, rfl⟩
      · cases hp
      · cases hp
        exact ⟨rfl, rfl⟩
    · -- The one that has the lock is the only one that is writing.
      have hheld := (h.writing hj').1
      rw [hholder] at hheld
      exact absurd (Option.some.inj hheld).symm hne

theorem IsSound.finish (h : IsSound start x) (hi : x.progress i = .writing d k)
    (hk : d.outgoing.packets.length = k) : IsSound start (x.finish i d k) :=
  h.extend hi (List.append_nil _).symm (List.append_nil _).symm
    ⟨Nat.le_of_eq hk.symm, fun _ => hk.symm⟩ (.inl d.sending.draft?_written)

variable [Link W]

theorem tap_of_write {port : Port} {destination : Address} {packet : Bytes} {w w' : Tapped W}
    (h : Link.write port destination packet w = (.ok (), w')) :
    w'.tap = w.tap ++ [(destination, packet)] := by
  simp only [Link.write] at h
  split at h
  · cases h
  · cases h
    rfl

theorem tap_of_write_error {port : Port} {destination : Address} {packet : Bytes}
    {error : TransportError} {w w' : Tapped W}
    (h : Link.write port destination packet w = (.error error, w')) : w'.tap = w.tap := by
  simp only [Link.write] at h
  split at h
  · cases h
    rfl
  · cases h

theorem IsSound.write (h : IsSound start x) (hi : x.progress i = .writing d k) {packet : Bytes}
    {w : Tapped W} (hpacket : d.outgoing.packets[k]? = some packet)
    (hwrite : Link.write x.endpoint.node.port d.sending.destination packet x.endpoint.world
      = (.ok (), w)) : IsSound start (x.write i d k w) := by
  obtain ⟨hk, -⟩ := List.getElem?_eq_some_iff.mp hpacket
  refine h.extend hi (tap_of_write hwrite) ?_ ⟨hk, nofun⟩ (.inr ⟨rfl, rfl, (h.writing hi).1⟩)
  rw [Stretch.packets, Stretch.packets, List.take_add_one, hpacket]
  exact List.map_append

theorem IsSound.step (h : IsSound start x) {x' : Senders W} (hstep : Step x x') :
    IsSound start x' := by
  cases hstep with
  | begin _ _ => exact h.turn rfl
  | @call i key ticket pending payload _ _ =>
    have hdrift := h.drift
      (e := { x.endpoint with node := { x.endpoint.node with pending := pending } }) rfl rfl
    exact hdrift.turn rfl
  | encode _ hframe => exact h.encode hframe
  | refuse _ hframe => exact (h.refuse hframe).fail _ _
  | lock hi hfree => exact h.lock hi hfree
  | write hi hpacket hwrite => exact h.write hi hpacket hwrite
  | @interrupt i d _ _ _ w _ _ hwrite =>
    have hdrift := h.drift (e := { x.endpoint with world := w }) rfl (tap_of_write_error hwrite)
    exact hdrift.fail i d.sending
  | finish hi hk => exact h.finish hi hk
  | drop i => exact h.drop i
  | drift hnext htap => exact h.drift hnext htap

theorem IsOpening.isSound_of_run (h : start.IsOpening)
    (hrun : Relation.ReflTransGen Step start x) : IsSound start x := by
  induction hrun with
  | refl => exact h.isSound
  | tail _ hstep ih => exact ih.step hstep

/-- Sequence numbers repeat when the counter has gone around. -/
theorem add_ofNat_eq_iff (a : UInt16) {m n : Nat} (h : m < n) :
    a + UInt16.ofNat m = a + UInt16.ofNat n ↔ UInt16.size ∣ n - m := by
  rw [← UInt16.toNat_inj, UInt16.toNat_add, UInt16.toNat_add, UInt16.toNat_ofNat',
    UInt16.toNat_ofNat', UInt16.size]
  omega

/-! ## A sender that is left alone

What a participant does when it sends is what a sender does that nobody disturbs. -/

/-- The sender has come to where sending its message ends, and has given the lock back. -/
def Ends (y : Senders W) (i : Nat) (a : Sending) (isSent : Bool) (e : Endpoint (Tapped W)) :
    Prop :=
  y.holder = none ∧ (y.progress i, y.endpoint)
    = if isSent then (a.written, e)
      else ((a.failed e.node).1, { e with node := (a.failed e.node).2 })

omit [Link W] in
theorem ends_fail (x : Senders W) (hheld : x.holder = none ∨ x.holder = some i) :
    Ends (x.fail i a) i a false x.endpoint := by
  refine ⟨?_, Prod.ext (progress_turn_self _ i _) rfl⟩
  change (if x.holder = some i then none else x.holder) = none
  rcases hheld with hheld | hheld
  · rw [hheld]
    rfl
  · exact if_pos hheld

theorem isOk_map {ε α β : Type} (f : α → β) (r : Except ε α) : (r.map f).isOk = r.isOk := by
  cases r <;> rfl

theorem isOk_mapError {ε ε' α : Type} (f : ε → ε') (r : Except ε α) :
    (r.mapError f).isOk = r.isOk := by
  cases r <;> rfl

theorem reaches_writeAll (hi : x.progress i = .writing d k) (hheld : x.holder = some i)
    (hk : k ≤ d.outgoing.packets.length) :
    let written := writeAll x.endpoint.node.port d.sending.destination (d.outgoing.packets.drop k)
      x.endpoint.world
    ∃ y, Relation.ReflTransGen Step x y
      ∧ Ends y i d.sending written.1.isOk { x.endpoint with world := written.2 } := by
  generalize hrest : d.outgoing.packets.drop k = rest
  induction rest generalizing x k with
  | nil =>
    have hlength : d.outgoing.packets.length = k :=
      Nat.le_antisymm (List.drop_eq_nil_iff.mp hrest) hk
    exact ⟨x.finish i d k, .single (.finish hi hlength), if_pos hheld,
      Prod.ext (progress_turn_self _ i _) rfl⟩
  | cons packet rest ih =>
    have hpacket : d.outgoing.packets[k]? = some packet := by
      rw [← List.head?_drop, hrest, List.head?_cons]
    have htail : d.outgoing.packets.drop (k + 1) = rest := by
      rw [← List.tail_drop, hrest, List.tail_cons]
    rw [writeAll]
    split
    · next error w hwrite =>
      exact ⟨_, .single (.interrupt hi hpacket hwrite), ends_fail _ (.inr hheld)⟩
    · next w hwrite =>
      obtain ⟨hlt, -⟩ := List.getElem?_eq_some_iff.mp hpacket
      obtain ⟨y, hrun, hends⟩ :=
        ih (x := x.write i d k w) (progress_turn_self _ i _) hheld hlt htail
      refine ⟨y, .head (.write hi hpacket hwrite) hrun, ?_⟩
      dsimp only
      rw [isOk_map]
      exact hends

/-- A sender whose message is to be encoded sends it, if nobody has the lock. -/
theorem reaches_sendEnvelope (hi : x.progress i = .ready a) (hfree : x.holder = none)
    {result : Except DispatchError Nat} {e : Endpoint (Tapped W)}
    (hsent : x.endpoint.sendEnvelope a.destination (Dispatcher.isSealable a.service) a.text
      = (result, e)) : ∃ y, Relation.ReflTransGen Step x y ∧ Ends y i a result.isOk e := by
  rw [Endpoint.sendEnvelope] at hsent
  split at hsent
  · next error node hframe =>
    cases hsent
    exact ⟨_, .single (.refuse hi hframe), ends_fail _ (.inl hfree)⟩
  · next outgoing node hframe =>
    cases hsent
    have hencoded : (x.encode i a outgoing node).progress i = .queued ⟨a, x.encoded, outgoing⟩ :=
      progress_turn_self _ i _
    obtain ⟨y, hrun, hends⟩ := reaches_writeAll
      (x := (x.encode i a outgoing node).lock i ⟨a, x.encoded, outgoing⟩)
      (progress_turn_self _ i _) rfl (Nat.zero_le _)
    refine ⟨y, .head (.encode hi hframe) (.head (.lock hencoded hfree) hrun), ?_⟩
    rw [isOk_mapError]
    exact hends

/-- A message that nobody answers. -/
theorem reaches_send (hi : x.progress i = .idle) (hfree : x.holder = none) (n : Notice) :
    ∃ y, Relation.ReflTransGen Step x y ∧ y.holder = none ∧ y.progress i = .idle
      ∧ y.endpoint = (x.endpoint.send n.peer n.frame n.service n.type n.payload).2 := by
  rcases hsent : x.endpoint.send n.peer n.frame n.service n.type n.payload with ⟨result, e⟩
  obtain ⟨y, hrun, hfree', hends⟩ := reaches_sendEnvelope
    (x := x.turn i (.ready (.message n))) (progress_turn_self _ i _) hfree hsent
  refine ⟨y, .head (.begin hi fun _ _ _ h => by cases h) hrun, hfree', ?_⟩
  cases result with
  | error error => exact Prod.ext_iff.mp hends
  | ok written => exact Prod.ext_iff.mp hends

/-- A call, which waits for its reply unless its command cannot be sent. -/
theorem reaches_call (hi : x.progress i = .idle) (hfree : x.holder = none) (clock : Clock)
    (key : CallKey) (payload : Bytes) (timeout : Nat) :
    let started := Call.start clock key payload timeout x.endpoint
    ∃ y, Relation.ReflTransGen Step x y ∧ y.holder = none
      ∧ y.progress i = (match started.1 with
        | .ok call => .waiting call.ticket
        | .error _ => .idle)
      ∧ y.endpoint = started.2 := by
  unfold Call.start
  split
  · exact ⟨x, .refl, hfree, hi, rfl⟩
  · next ticket pending hregister =>
    rcases hsent : (x.endpoint.update fun d => { d with pending := pending }).send key.peer
      .command key.service key.type payload with ⟨result, e⟩
    obtain ⟨y, hrun, hfree', hends⟩ := reaches_sendEnvelope
      (x := (x.remember { x.endpoint.node with pending := pending }).turn i
        (.ready (.command ticket key payload))) (progress_turn_self _ i _) hfree hsent
    refine ⟨y, .head (.call payload hi hregister) hrun, hfree', ?_⟩
    dsimp only
    rw [hsent]
    cases result with
    | error error => exact Prod.ext_iff.mp hends
    | ok written => exact Prod.ext_iff.mp hends

/-- An error reply, which is to be tried again if it cannot be written. -/
theorem reaches_errorReply {r : ErrorReply} (hi : x.progress i = .ready (.refusal r))
    (hfree : x.holder = none) (clock : Clock) :
    let sent := r.send clock x.endpoint
    ∃ y, Relation.ReflTransGen Step x y ∧ y.holder = none
      ∧ y.progress i = (match sent.1 with
        | none => .idle
        | some (r', _) => .ready (.refusal r'))
      ∧ y.endpoint = sent.2 := by
  rw [ErrorReply.send]
  split
  · next written e hsent =>
    obtain ⟨y, hrun, hfree', hends⟩ := reaches_sendEnvelope hi hfree hsent
    exact ⟨y, hrun, hfree', Prod.ext_iff.mp hends⟩
  · next error e hsent =>
    obtain ⟨y, hrun, hfree', hends⟩ := reaches_sendEnvelope hi hfree hsent
    refine ⟨y, hrun, hfree', ?_⟩
    replace hends : (y.progress i, y.endpoint)
        = (((Sending.refusal r).failed e.node).1,
          { e with node := ((Sending.refusal r).failed e.node).2 }) := hends
    rw [Sending.failed] at hends
    by_cases hattempt : r.attempt < ErrorReply.maxAttempts e.node.settings
    · rw [if_pos hattempt] at hends ⊢
      exact Prod.ext_iff.mp hends
    · rw [if_neg hattempt] at hends ⊢
      exact Prod.ext_iff.mp hends

/-! ## Messages stay whole -/

/-- **Messages stay whole.** Whatever senders do side by side on one participant, whichever packets
cannot be written, and wherever a sender is dropped: what the link takes is one stretch after
another, each belongs to another message and is the beginning of it, in the order of the offsets,
and the whole of it if the sender has come to the end. Two messages with fewer than 65535 others
encoded between them have different sequence numbers. With exactly so many between them the counter
has gone around, and they have the same. -/
theorem messages_stay_whole (hopening : start.IsOpening)
    (hrun : Relation.ReflTransGen Step start x) :
    x.endpoint.world.tap = start.endpoint.world.tap ++ x.log.reverse.flatMap Stretch.packets
    ∧ (x.log.map fun s => s.draft.number).Nodup
    ∧ (∀ s ∈ x.log, s.draft ∈ x.drafts ∧ s.taken ≤ s.draft.outgoing.packets.length
      ∧ (s.isWhole = true → s.taken = s.draft.outgoing.packets.length))
    ∧ (x.drafts.map Draft.number).Nodup
    ∧ (∀ d ∈ x.drafts, (∃ node, (d.sending.frame node).1 = .ok d.outgoing) ∧ d.IsInOrder)
    ∧ ∀ d ∈ x.drafts, ∀ d' ∈ x.drafts, d.number < d'.number →
      (d.between d' < 65535 → d.outgoing.sequence ≠ d'.outgoing.sequence)
      ∧ (d.between d' = 65535 → d.outgoing.sequence = d'.outgoing.sequence) := by
  have hsound := hopening.isSound_of_run hrun
  refine ⟨hsound.tap, hsound.once, fun s hs => hsound.log hs, hsound.numbers, fun d hd => ?_,
    fun d hd d' hd' hnumber => ?_⟩
  · obtain ⟨-, horder, hframed, -⟩ := hsound.drafts hd
    exact ⟨hframed, horder⟩
  · obtain ⟨-, -, -, hsequence⟩ := hsound.drafts hd
    obtain ⟨-, -, -, hsequence'⟩ := hsound.drafts hd'
    rw [Draft.between, hsequence, hsequence', ne_eq, add_ofNat_eq_iff _ hnumber, UInt16.size]
    omega

/-! ## Two senders -/

/-- The next step of a sender that has a message. -/
def go (x : Senders W) (i : Nat) : Senders W :=
  match x.progress i with
  | .idle | .waiting _ => x
  | .ready a =>
    match a.frame x.endpoint.node with
    | (.ok outgoing, d) => x.encode i a outgoing d
    | (.error _, d) => { x.remember d with encoded := x.encoded + 1 }.fail i a
  | .queued d => if x.holder = none then x.lock i d else x
  | .writing d k =>
    match d.outgoing.packets[k]? with
    | some packet =>
      match Link.write x.endpoint.node.port d.sending.destination packet x.endpoint.world with
      | (.ok (), w) => x.write i d k w
      | (.error _, w) => { x with endpoint := { x.endpoint with world := w } }.fail i d.sending
    | none => if d.outgoing.packets.length = k then x.finish i d k else x

theorem reaches_go (x : Senders W) (i : Nat) : Relation.ReflTransGen Step x (x.go i) := by
  unfold go
  split
  · exact .refl
  · exact .refl
  · next hi =>
    split
    · next hframe => exact .single (.encode hi hframe)
    · next hframe => exact .single (.refuse hi hframe)
  · next hi =>
    split
    · next hfree => exact .single (.lock hi hfree)
    · exact .refl
  · next hi =>
    split
    · next hpacket =>
      split
      · next hwrite => exact .single (.write hi hpacket hwrite)
      · next hwrite => exact .single (.interrupt hi hpacket hwrite)
    · split
      · next hk => exact .single (.finish hi hk)
      · exact .refl

/-- A controller without senders on a link to one module. -/
def quietDesk : Senders Net where
  endpoint := ⟨.start 0 .controller {} [] 0,
    ⟨.start [.controller, Slot.last.assignedAddress], []⟩⟩
  progress _ := .idle
  holder := none
  encoded := 0
  drafts := []
  log := []

theorem isOpening_quietDesk : quietDesk.IsOpening := ⟨fun _ => rfl, rfl, rfl, rfl, rfl⟩

/-- A message that takes two packets. -/
def longMessage : Sending :=
  .message ⟨Slot.last.assignedAddress, .notification, .edison, 1, List.replicate 300 7⟩

/-- An error reply that takes one. -/
def shortMessage : Sending :=
  .refusal (.first ⟨Slot.last.assignedAddress, Service.initialization.toByte, 0, .busy⟩)

/-- Both messages are encoded. The sender of the long one takes the lock, writes one packet, while
the other waits, and is dropped. -/
def sideBySide : Senders Net :=
  ((((((((quietDesk.turn 0 (.ready longMessage)).turn 1 (.ready shortMessage)).go 0).go 1).go 0).go
    0).go 1).drop 0)

/-- The other sender writes its message. -/
def afterwards : Senders Net := ((sideBySide.go 1).go 1).go 1

theorem reaches_afterwards : Relation.ReflTransGen Step quietDesk afterwards := by
  have hbegun : Relation.ReflTransGen Step quietDesk
      ((quietDesk.turn 0 (.ready longMessage)).turn 1 (.ready shortMessage)) :=
    .head (.begin rfl fun _ _ _ h => by cases h)
      (.single (.begin rfl fun _ _ _ h => by cases h))
  have hdropped : Relation.ReflTransGen Step quietDesk sideBySide :=
    ((((hbegun.trans (reaches_go _ 0)).trans (reaches_go _ 1)).trans (reaches_go _ 0)).trans
      (reaches_go _ 0)).trans (reaches_go _ 1) |>.tail (.drop 0)
  exact ((hdropped.trans (reaches_go _ 1)).trans (reaches_go _ 1)).trans (reaches_go _ 1)

/-- The link has taken the first half of the long message, and then the short one. -/
theorem dropped_message_breaks_off :
    afterwards.endpoint.world.tap = afterwards.log.reverse.flatMap Stretch.packets
    ∧ afterwards.log.reverse.map (fun s =>
        (s.draft.number, s.draft.outgoing.packets.length, s.taken, s.isWhole))
      = [(0, 2, 1, false), (1, 1, 1, true)] := by
  obtain ⟨htap, -⟩ := messages_stay_whole isOpening_quietDesk reaches_afterwards
  have hnothing : quietDesk.endpoint.world.tap = [] := rfl
  rw [hnothing, List.nil_append] at htap
  exact ⟨htap, by decide +kernel⟩

/-! ## Once around -/

/-- A message that every dispatcher in the current layout encodes. -/
def greeting : Sending :=
  .message ⟨Slot.last.assignedAddress, .notification, .initialization, 0, []⟩

theorem exists_frame_greeting {node : Dispatcher} (hlayout : node.encoder.layout = .current) :
    ∃ outgoing node', greeting.frame node = (.ok outgoing, node')
      ∧ node'.encoder.layout = .current := by
  have hshort : FrameEncoder.refusal .current greeting.text.length false = none := by decide
  rcases hframe : greeting.frame node with ⟨error | outgoing, node'⟩
  · have hencode : (node.encoder.encode greeting.destination greeting.text false).1
        = .error error := congrArg Prod.fst hframe
    rw [FrameEncoder.encode, hlayout, hshort] at hencode
    cases hencode
  · obtain rfl : (greeting.frame node).2 = node' := congrArg Prod.snd hframe
    exact ⟨outgoing, _, rfl, hlayout⟩

theorem exists_drafts (n : Nat) : ∃ x : Senders Net, Relation.ReflTransGen Step quietDesk x
    ∧ x.progress 0 = .idle ∧ x.endpoint.node.encoder.layout = .current ∧ x.encoded = n
    ∧ ∀ k < n, ∃ d ∈ x.drafts, d.number = k := by
  induction n with
  | zero => exact ⟨quietDesk, .refl, rfl, rfl, rfl, fun k hk => absurd hk (Nat.not_lt_zero k)⟩
  | succ n ih =>
    obtain ⟨x, hrun, hidle, hlayout, rfl, hdrafts⟩ := ih
    obtain ⟨outgoing, node, hframe, hlayout'⟩ := exists_frame_greeting hlayout
    have hbegin : Step x (x.turn 0 (.ready greeting)) :=
      .begin hidle fun _ _ _ h => by cases h
    have hencode := Step.encode (x := x.turn 0 (.ready greeting)) (progress_turn_self _ 0 _) hframe
    refine ⟨_, ((hrun.tail hbegin).tail hencode).tail (.drop 0), progress_turn_self _ 0 _, ?_, rfl,
      fun k hk => ?_⟩
    · exact (congrArg FrameEncoder.layout (Progress.encoder_abandon _ node)).trans hlayout'
    · rcases Nat.lt_succ_iff_lt_or_eq.mp hk with hk | rfl
      · obtain ⟨d, hd, hnumber⟩ := hdrafts k hk
        exact ⟨d, List.mem_cons_of_mem _ hd, hnumber⟩
      · exact ⟨_, List.mem_cons_self, rfl⟩

/-- With 65535 messages in between the sequence number is the same again. -/
theorem sequence_repeats : ¬ ∀ start x : Senders Net, start.IsOpening →
    Relation.ReflTransGen Step start x → ∀ d ∈ x.drafts, ∀ d' ∈ x.drafts, d.number < d'.number →
      d.between d' < 65536 → d.outgoing.sequence ≠ d'.outgoing.sequence := by
  intro hclaim
  obtain ⟨x, hrun, -, -, -, hdrafts⟩ := exists_drafts 65537
  obtain ⟨d, hd, hnumber⟩ := hdrafts 0 (by omega)
  obtain ⟨d', hd', hnumber'⟩ := hdrafts 65536 (by omega)
  have hsound := isOpening_quietDesk.isSound_of_run hrun
  obtain ⟨-, -, -, hsequence⟩ := hsound.drafts hd
  obtain ⟨-, -, -, hsequence'⟩ := hsound.drafts hd'
  refine hclaim _ x isOpening_quietDesk hrun d hd d' hd' (by omega) ?_ ?_
  · rw [Draft.between]
    omega
  · rw [hsequence, hsequence', hnumber, hnumber']
    exact (add_ofNat_eq_iff _ (by omega)).mpr (by decide)

end Senders

end ModuleBus

import Mathlib.Data.List.Forall2
import Mathlib.Data.List.ReduceOption
import ModuleBus.Packet.Reassembler

set_option autoImplicit false

/-! # What a module holds and uses

To tell where something comes from, every packet is known by the number of packets that were
received before it, and a memory says of which packets everything consists that a module holds or
uses: the message in progress, the requests that wait, the command whose refusal is to be tried
again, and the requests that a server is about. The receive buffer is never cleared, so that a
message with a gap in it has bytes of an earlier one.

The memory tells the truth about the buffer (`Tells`), and nothing is used but what was received or
held before (`Precedes`). -/

namespace ModuleBus

/-- The packets that a module holds and has used. -/
structure Memory where
  /-- All packets that were received, oldest first. -/
  packets : List Bytes
  /-- The packet that each byte of the receive buffer came with, if it came with one. -/
  buffer : List (Option Nat)
  /-- The packets of the message in progress. -/
  pieces : List Nat
  /-- The packets of every request in the queue. -/
  queue : List (List Nat)
  /-- The packets of the command whose refusal is to be tried again. -/
  refusing : List Nat
  /-- The packets of the requests that a server is about. -/
  serving : List Nat
  /-- The packets of what was taken in, handled, answered, refused or dropped, newest first. -/
  uses : List (List Nat)

namespace Memory

/-- Nothing was received yet. -/
def empty (size : Nat) : Memory := ⟨[], List.replicate size none, [], [], [], [], []⟩

/-- The number of the next packet. -/
def received (m : Memory) : Nat := m.packets.length

/-- The packet may still be used. -/
inductive Holds (m : Memory) (packet : Nat) : Prop
  | buffered : some packet ∈ m.buffer → m.Holds packet
  | piece : packet ∈ m.pieces → m.Holds packet
  | queued {message : List Nat} : message ∈ m.queue → packet ∈ message → m.Holds packet
  | refused : packet ∈ m.refusing → m.Holds packet
  | served : packet ∈ m.serving → m.Holds packet

/-- The module takes a step, and may take up the first request in the queue. -/
def work (m : Memory) (takes serves : Bool) : Memory :=
  let about := (if takes then m.queue.headD [] else []) ++ m.serving
  { m with
    queue := if takes then m.queue.tail else m.queue
    serving := if serves then about else []
    uses := about :: m.uses }

/-- The listener takes a step without a packet: it may give up the message in progress, or try a
refusal again. -/
def wait (m : Memory) (isIdle isRetrying : Bool) : Memory :=
  { m with
    pieces := if isIdle then [] else m.pieces
    refusing := if isRetrying then m.refusing else []
    uses := m.refusing :: m.uses }

/-- The buffer after the next packet was placed in it. -/
def placed (m : Memory) (packet : Bytes) : List (Option Nat) :=
  match Header.parse packet with
  | .error _ => m.buffer
  | .ok h =>
    let room := min (m.buffer.length - h.offset.toNat) (packet.drop headerSize).length
    m.buffer.take h.offset.toNat ++ List.replicate room (some m.received)
      ++ m.buffer.drop (h.offset.toNat + room)

/-- The packets of a message that the next packet ends. Its bytes are those of its pieces, and where
none of them was placed, those that the buffer had before. -/
def message (m : Memory) (packet : Bytes) (done : Reassembled) : List Nat :=
  m.pieces ++ [m.received] ++ ((m.placed packet).take done.length).reduceOption

/-- The listener takes a packet in, which may continue a message or end it. A message that has ended
may be queued, or refused. -/
def hear (m : Memory) (r : Reassembler) (packet : Bytes) (isQueued isRetrying : Bool) : Memory :=
  match (r.push packet).1 with
  | .error _ => { m with packets := m.packets ++ [packet] }
  | .ok none =>
    { m with
      packets := m.packets ++ [packet]
      buffer := m.placed packet
      pieces := m.pieces ++ [m.received] }
  | .ok (some done) =>
    { m with
      packets := m.packets ++ [packet]
      buffer := m.placed packet
      pieces := []
      queue := if isQueued then m.queue ++ [m.message packet done] else m.queue
      refusing := if isRetrying then m.message packet done else []
      uses := m.message packet done :: m.uses }

/-! ## The memory tells the truth -/

/-- A byte came with a packet, or has been zero from the start. -/
def CameWith (packets : List Bytes) (origin : Option Nat) (byte : UInt8) : Prop :=
  match origin with
  | none => byte = 0
  | some k => ∃ packet, packets[k]? = some packet ∧ byte ∈ packet

/-- Every byte of the buffer came with the packet that the memory says. -/
def Tells (m : Memory) (r : Reassembler) : Prop :=
  List.Forall₂ (CameWith m.packets) m.buffer r.buffer

theorem CameWith.append {packets : List Bytes} {origin : Option Nat} {byte : UInt8}
    (h : CameWith packets origin byte) (packet : Bytes) :
    CameWith (packets ++ [packet]) origin byte := by
  cases origin with
  | none => exact h
  | some k =>
    obtain ⟨old, hk, hbyte⟩ := h
    obtain ⟨hlt, -⟩ := List.getElem?_eq_some_iff.mp hk
    exact ⟨old, (List.getElem?_append_left hlt).trans hk, hbyte⟩

end Memory

/-- A packet that is not refused is written where its header says. -/
theorem Reassembler.exists_header_of_push {r : Reassembler} {packet : Bytes}
    {done : Option Reassembled} (h : (r.push packet).1 = .ok done) :
    ∃ header, Header.parse packet = .ok header ∧ (r.push packet).2.buffer
      = r.buffer.overwrite header.offset.toNat (packet.drop headerSize) := by
  unfold push at h ⊢
  cases hparse : Header.parse packet with
  | error error =>
    rw [hparse] at h
    cases h
  | ok header =>
    rw [hparse] at h
    refine ⟨header, rfl, ?_⟩
    dsimp only at h ⊢
    cases hcurrent : r.current? header with
    | none =>
      rw [hcurrent] at h
      cases h
    | some p =>
      dsimp only
      split <;> rfl

namespace Memory

theorem tells_empty (size : Nat) :
    (empty size).Tells (.start (List.replicate size 0)) := by
  rw [Tells, empty, Reassembler.start]
  induction size with
  | zero => exact .nil
  | succ size ih => exact .cons rfl ih

theorem cameWith_replicate {packets : List Bytes} {packet bytes : Bytes}
    (h : ∀ byte ∈ bytes, byte ∈ packet) :
    List.Forall₂ (CameWith (packets ++ [packet]))
      (List.replicate bytes.length (some packets.length)) bytes := by
  induction bytes with
  | nil => exact .nil
  | cons byte rest ih =>
    refine .cons ⟨packet, ?_, h byte List.mem_cons_self⟩ (ih fun b hb => h b (.tail _ hb))
    exact List.getElem?_concat_length

theorem Tells.append {m : Memory} {r : Reassembler} (h : m.Tells r) (packet : Bytes) :
    List.Forall₂ (CameWith (m.packets ++ [packet])) m.buffer r.buffer :=
  h.imp fun _ _ hbyte => hbyte.append packet

/-- A packet that is not refused is placed where its header says. -/
theorem Tells.placed {m : Memory} {r : Reassembler} (h : m.Tells r) {packet : Bytes}
    {done : Option Reassembled} (hpush : (r.push packet).1 = .ok done) :
    List.Forall₂ (CameWith (m.packets ++ [packet])) (m.placed packet)
      (r.push packet).2.buffer := by
  obtain ⟨header, hparse, hbuffer⟩ := Reassembler.exists_header_of_push hpush
  have happended := h.append packet
  -- The memory leaves as much room for the packet as is written of it.
  have hroom : min (m.buffer.length - header.offset.toNat) (packet.drop headerSize).length
      = ((packet.drop headerSize).take (r.buffer.length - header.offset.toNat)).length := by
    rw [List.length_take, h.length_eq]
  rw [Memory.placed, hparse, hbuffer]
  dsimp only
  rw [hroom]
  exact List.rel_append (List.rel_append (List.forall₂_take _ happended)
    (cameWith_replicate fun _ hbyte => List.mem_of_mem_drop (List.mem_of_mem_take hbyte)))
    (List.forall₂_drop _ happended)

theorem Tells.hear {m : Memory} {r : Reassembler} (h : m.Tells r) (packet : Bytes)
    (isQueued isRetrying : Bool) :
    (m.hear r packet isQueued isRetrying).Tells (r.push packet).2 := by
  unfold Memory.hear
  split
  · next hpush =>
    rw [Reassembler.push_error hpush]
    exact h.append packet
  · next hpush => exact h.placed hpush
  · next hpush => exact h.placed hpush

/-- Every byte of a message that is taken in came with one of its packets in the memory, or has been
zero from the start. -/
theorem exists_packet_of_mem_content {m : Memory} {r : Reassembler} (h : m.Tells r)
    {packet : Bytes} {done : Reassembled} (hpush : (r.push packet).1 = .ok (some done))
    {byte : UInt8} (hbyte : byte ∈ (r.push packet).2.content done) :
    byte = 0 ∨ ∃ k ∈ m.message packet done,
      ∃ bytes, (m.packets ++ [packet])[k]? = some bytes ∧ byte ∈ bytes := by
  have hcontent := List.forall₂_take done.length (h.placed hpush)
  obtain ⟨i, hi, rfl⟩ := List.mem_iff_getElem.mp hbyte
  obtain ⟨origin, horigin, hcame⟩ : ∃ origin ∈ (m.placed packet).take done.length,
      CameWith (m.packets ++ [packet]) origin ((r.push packet).2.content done)[i] := by
    have hlt : i < ((m.placed packet).take done.length).length := by
      rw [hcontent.length_eq]
      exact hi
    exact ⟨_, List.getElem_mem hlt, hcontent.get hlt hi⟩
  cases origin with
  | none => exact .inl hcame
  | some k =>
    exact .inr ⟨k, List.mem_append_right _ (List.reduceOption_mem_iff.mpr horigin), hcame⟩

/-! ## What is used was held -/

/-- The packet was received since, or was held. -/
def Admits (m : Memory) (packet : Nat) : Prop := m.Holds packet ∨ m.received ≤ packet

/-- Nothing is held or used later but what was held, and what was received since. -/
structure Precedes (m m' : Memory) : Prop where
  received : m.received ≤ m'.received
  holds : ∀ packet, m'.Holds packet → m.Admits packet
  uses : ∃ new, m'.uses = new ++ m.uses ∧ ∀ message ∈ new, ∀ packet ∈ message, m.Admits packet

namespace Precedes

variable {m m' m'' : Memory}

theorem refl (m : Memory) : Precedes m m :=
  ⟨Nat.le_refl _, fun _ h => .inl h, [], rfl, fun _ h => by cases h⟩

theorem admits (h : Precedes m m') {packet : Nat} (hpacket : m'.Admits packet) :
    m.Admits packet := by
  rcases hpacket with hheld | hreceived
  · exact h.holds packet hheld
  · exact .inr (Nat.le_trans h.received hreceived)

theorem trans (h : Precedes m m') (h' : Precedes m' m'') : Precedes m m'' := by
  obtain ⟨new, huses, hnew⟩ := h.uses
  obtain ⟨new', huses', hnew'⟩ := h'.uses
  refine ⟨Nat.le_trans h.received h'.received, fun p hp => h.admits (h'.holds p hp),
    new' ++ new, ?_, fun message hmessage => ?_⟩
  · rw [huses', huses, List.append_assoc]
  · rcases List.mem_append.mp hmessage with hmem | hmem
    · exact fun p hp => h.admits (hnew' message hmem p hp)
    · exact hnew message hmem

/-- One more use of packets that were held, or received since. -/
theorem of_use (hreceived : m.received ≤ m'.received) {message : List Nat}
    (huses : m'.uses = message :: m.uses) (hmessage : ∀ packet ∈ message, m.Admits packet)
    (hholds : ∀ packet, m'.Holds packet → m.Admits packet) : Precedes m m' :=
  ⟨hreceived, hholds, [message], huses, fun _ h => List.mem_singleton.mp h ▸ hmessage⟩

end Precedes

theorem precedes_work (m : Memory) (takes serves : Bool) : Precedes m (m.work takes serves) := by
  have habout : ∀ packet ∈ (if takes then m.queue.headD [] else []) ++ m.serving,
      m.Admits packet := by
    intro packet hpacket
    rcases List.mem_append.mp hpacket with htaken | hserving
    · split at htaken
      · cases hqueue : m.queue with
        | nil =>
          rw [hqueue] at htaken
          cases htaken
        | cons message rest =>
          rw [hqueue] at htaken
          have hfirst : message ∈ m.queue := hqueue ▸ List.mem_cons_self
          exact .inl (.queued hfirst htaken)
      · cases htaken
    · exact .inl (.served hserving)
  refine .of_use (Nat.le_refl _) rfl habout fun packet hpacket => ?_
  cases hpacket with
  | buffered h => exact .inl (.buffered h)
  | piece h => exact .inl (.piece h)
  | queued hmessage h =>
    refine .inl (.queued ?_ h)
    cases takes with
    | false => exact hmessage
    | true => exact List.mem_of_mem_tail hmessage
  | refused h => exact .inl (.refused h)
  | served h =>
    cases serves with
    | false => cases h
    | true => exact habout packet h

theorem precedes_wait (m : Memory) (isIdle isRetrying : Bool) :
    Precedes m (m.wait isIdle isRetrying) := by
  refine .of_use (Nat.le_refl _) rfl (fun packet h => .inl (.refused h)) fun packet hpacket => ?_
  cases hpacket with
  | buffered h => exact .inl (.buffered h)
  | piece h =>
    cases isIdle with
    | false => exact .inl (.piece h)
    | true => cases h
  | queued hmessage h => exact .inl (.queued hmessage h)
  | refused h =>
    cases isRetrying with
    | false => cases h
    | true => exact .inl (.refused h)
  | served h => exact .inl (.served h)

/-- A byte of the buffer came with the packet that was placed last, or is there from before. -/
theorem admits_of_mem_placed {m : Memory} {bytes : Bytes} {packet : Nat}
    (h : some packet ∈ m.placed bytes) : m.Admits packet := by
  unfold placed at h
  split at h
  · exact .inl (.buffered h)
  · rcases List.mem_append.mp h with h | h
    · rcases List.mem_append.mp h with h | h
      · exact .inl (.buffered (List.mem_of_mem_take h))
      · exact .inr (Nat.le_of_eq (Option.some.inj (List.eq_of_mem_replicate h)).symm)
    · exact .inl (.buffered (List.mem_of_mem_drop h))

theorem admits_of_mem_message {m : Memory} {bytes : Bytes} {done : Reassembled} {packet : Nat}
    (h : packet ∈ m.message bytes done) : m.Admits packet := by
  rcases List.mem_append.mp h with h | h
  · rcases List.mem_append.mp h with h | h
    · exact .inl (.piece h)
    · exact .inr (Nat.le_of_eq (List.mem_singleton.mp h).symm)
  · exact admits_of_mem_placed (List.mem_of_mem_take (List.reduceOption_mem_iff.mp h))

theorem precedes_hear (m : Memory) (r : Reassembler) (bytes : Bytes)
    (isQueued isRetrying : Bool) : Precedes m (m.hear r bytes isQueued isRetrying) := by
  have hreceived : m.received ≤ (m.packets ++ [bytes]).length := by simp [received]
  unfold hear
  split
  · refine ⟨hreceived, fun packet hpacket => ?_, [], rfl, fun _ h => by cases h⟩
    cases hpacket with
    | buffered h => exact .inl (.buffered h)
    | piece h => exact .inl (.piece h)
    | queued hmessage h => exact .inl (.queued hmessage h)
    | refused h => exact .inl (.refused h)
    | served h => exact .inl (.served h)
  · refine ⟨hreceived, fun packet hpacket => ?_, [], rfl, fun _ h => by cases h⟩
    cases hpacket with
    | buffered h => exact admits_of_mem_placed h
    | piece h =>
      rcases List.mem_append.mp h with h | h
      · exact .inl (.piece h)
      · exact .inr (Nat.le_of_eq (List.mem_singleton.mp h).symm)
    | queued hmessage h => exact .inl (.queued hmessage h)
    | refused h => exact .inl (.refused h)
    | served h => exact .inl (.served h)
  · refine .of_use hreceived rfl (fun _ h => admits_of_mem_message h) fun packet hpacket => ?_
    cases hpacket with
    | buffered h => exact admits_of_mem_placed h
    | piece h => cases h
    | queued hmessage h =>
      cases isQueued with
      | false => exact .inl (.queued hmessage h)
      | true =>
        rcases List.mem_append.mp hmessage with hmem | hmem
        · exact .inl (.queued hmem h)
        · exact admits_of_mem_message (List.mem_singleton.mp hmem ▸ h)
    | refused h =>
      cases isRetrying with
      | false => cases h
      | true => exact admits_of_mem_message h
    | served h => exact .inl (.served h)

end Memory

end ModuleBus

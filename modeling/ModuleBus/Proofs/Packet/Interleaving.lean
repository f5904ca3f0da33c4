import Mathlib.Data.List.Induction
import Mathlib.Logic.Function.Basic
import ModuleBus.Proofs.Packet.Transmission

set_option autoImplicit false

/-! # Packets of several senders

Several senders' packets reach one receiver in an order of which only this is known: each sender's
packets come in the order in which it wrote them. While the receiver collects a message, the others'
packets are lost. When it is idle, though, any packet opens a message, and one that is not the first
of its message opens it in the middle: what was lost of the message is missing then, and the buffer
still holds there what earlier messages left. -/

namespace ModuleBus

/-- What the senders of a link have to send, and their first sequence numbers. -/
structure Mail where
  letters : Address → List Letter
  next : Address → UInt16

namespace Mail

/-- The messages that the sender at an address sends. -/
def sent (mail : Mail) (a : Address) : List Sent :=
  FrameEncoder.sendAll ⟨a, .current, mail.next a⟩ (mail.letters a)

/-- The packets that the sender at an address writes. -/
def packets (mail : Mail) (a : Address) : List Bytes :=
  (mail.sent a).flatMap fun m => m.outgoing.packets

theorem isFrom {mail : Mail} {a : Address} {m : Sent} (h : m ∈ mail.sent a) : m.IsFrom a :=
  Sent.isFrom_of_mem_sendAll rfl h

end Mail

/-- Packets of several queues in one order: each queue is taken from its front. What is left in the
queues at the end has not arrived yet. -/
inductive Interleaves : (Address → List Bytes) → List Bytes → Prop
  | nil (queues : Address → List Bytes) : Interleaves queues []
  | cons {queues : Address → List Bytes} {a : Address} {packet : Bytes}
      {rest packets : List Bytes} :
      queues a = packet :: rest → Interleaves (Function.update queues a rest) packets →
      Interleaves queues (packet :: packets)

namespace Interleaves

/-- After some of the packets, the others are an order of what is left in the queues. -/
theorem split {queues : Address → List Bytes} {before after : List Bytes}
    (h : Interleaves queues (before ++ after)) :
    ∃ left, Interleaves left after ∧ ∀ a, left a <:+ queues a := by
  induction before generalizing queues with
  | nil => exact ⟨queues, h, fun a => List.suffix_rfl⟩
  | cons packet rest ih =>
    cases h with
    | @cons _ b _ tail _ hqueue htail =>
      obtain ⟨left, hleft, hsuffix⟩ := ih htail
      refine ⟨left, hleft, fun a => (hsuffix a).trans ?_⟩
      by_cases hab : a = b
      · rw [hab, Function.update_self, hqueue]
        exact List.suffix_cons packet tail
      · have hsame : Function.update queues b tail a = queues a := Function.update_of_ne hab _ _
        exact hsame ▸ List.suffix_rfl

end Interleaves

/-- Every queue holds packets of the sender at its address. -/
def AreOwn (queues : Address → List Bytes) : Prop :=
  ∀ a, ∀ packet ∈ queues a, ∃ m k, packet = Sent.packet m a k

theorem AreOwn.update {queues : Address → List Bytes} (h : AreOwn queues) {a : Address}
    {packet : Bytes} {rest : List Bytes} (hqueue : queues a = packet :: rest) :
    AreOwn (Function.update queues a rest) := by
  intro b p hp
  by_cases hba : b = a
  · subst hba
    rw [Function.update_self] at hp
    exact h b p (by rw [hqueue]; exact List.mem_cons_of_mem packet hp)
  · rw [Function.update_of_ne hba] at hp
    exact h b p hp

/-- What is left of some lists one after another begins in the middle of one of them. -/
theorem exists_of_suffix_flatMap {α β : Type} {f : α → List β} {l : List α} {b : β}
    {rest : List β} (h : b :: rest <:+ l.flatMap f) :
    ∃ x ∈ l, ∃ k later, (f x)[k]? = some b ∧ rest = (f x).drop (k + 1) ++ later := by
  induction l with
  | nil => simp at h
  | cons x xs ih =>
    have hlater (h : b :: rest <:+ xs.flatMap f) :
        ∃ y ∈ x :: xs, ∃ k later, (f y)[k]? = some b ∧ rest = (f y).drop (k + 1) ++ later := by
      obtain ⟨y, hy, hfound⟩ := ih h
      exact ⟨y, List.mem_cons_of_mem x hy, hfound⟩
    rw [List.flatMap_cons] at h
    obtain ⟨before, hbefore⟩ := h
    rcases List.append_eq_append_iff.mp hbefore with ⟨middle, hx, hrest⟩ | ⟨middle, _, hrest⟩
    · cases middle with
      | nil => exact hlater ⟨[], hrest⟩
      | cons c tail =>
        rw [List.cons_append, List.cons.injEq] at hrest
        obtain ⟨rfl, hrest⟩ := hrest
        refine ⟨x, List.mem_cons_self, before.length, xs.flatMap f, ?_, ?_⟩
        · rw [hx, List.getElem?_append_right (Nat.le_refl _), Nat.sub_self]
          rfl
        · rw [hx, hrest, List.drop_append, List.drop_of_length_le (Nat.le_succ _)]
          simp
    · exact hlater ⟨middle, hrest.symm⟩

namespace Reassembler

/-- The receiver after some packets. -/
def pushAll (r : Reassembler) (packets : List Bytes) : Reassembler :=
  packets.foldl (fun r packet => (r.push packet).2) r

/-! ## Collecting one message -/

/-- Up to the chunk with index `k`, the buffer holds what it held when the packet with index `j`
opened the message, and from chunk `j` on the message. -/
def Holds (m : Sent) (j k : Nat) (opened buffer : Bytes) : Prop :=
  buffer.take (k * maxChunk)
    = opened.take (j * maxChunk) ++ (m.payload.take (k * maxChunk)).drop (j * maxChunk)

/-- What the buffer holds once the chunk with index `k` is written. -/
theorem Holds.take_overwrite {m : Sent} {j k : Nat} {opened buffer : Bytes}
    (h : Holds m j k opened buffer) (hjk : j ≤ k) (hk : k < m.count)
    (hroom : m.payload.length ≤ buffer.length) :
    (buffer.overwrite (k * maxChunk) (m.chunk k)).take (k * maxChunk + (m.chunk k).length)
      = opened.take (j * maxChunk)
        ++ (m.payload.take (k * maxChunk + maxChunk)).drop (j * maxChunk) := by
  have hend := Sent.offset_add_length_le hk
  have hstart := Sent.mul_le_length hk
  have hjk' : j * maxChunk ≤ k * maxChunk := Nat.mul_le_mul_right maxChunk hjk
  have hbefore : j * maxChunk ≤ (m.payload.take (k * maxChunk)).length := by
    rw [List.length_take, Nat.min_eq_left hstart]
    exact hjk'
  rw [Bytes.take_overwrite (by omega), h, List.append_assoc, List.take_add,
    List.drop_append_of_le_length hbefore]
  rfl

/-- The receiver collects a message of the sender at `a`, which its packet with index `j` has
opened and whose packet with index `k` comes next. -/
structure Collects (m : Sent) (a : Address) (j k : Nat) (opened : Bytes)
    (queues : Address → List Bytes) (r : Reassembler) : Prop where
  next_lt : k < m.count
  opened_le : j ≤ k
  inProgress : r.inProgress = some ⟨a, m.outgoing.sequence, m.sealed⟩
  room : m.payload.length ≤ r.buffer.length
  queue : ∃ later, queues a = m.outgoing.packets.drop k ++ later
  holds : Holds m j k opened r.buffer

variable {m : Sent} {a : Address} {j k : Nat} {opened : Bytes} {queues : Address → List Bytes}
  {r : Reassembler}

/-- The next packet of the message is collected, or completes it. -/
theorem push_next (hm : m.IsFrom a) (hk : k < m.count) (hjk : j ≤ k)
    (hmine : r.inProgress = none ∨ r.inProgress = some ⟨a, m.outgoing.sequence, m.sealed⟩)
    (hroom : m.payload.length ≤ r.buffer.length) (hholds : Holds m j k opened r.buffer)
    (queues : Address → List Bytes) (later : List Bytes) :
    (∃ r', r.push (m.packet a k) = (.ok none, r')
        ∧ Collects m a j (k + 1) opened
          (Function.update queues a (m.outgoing.packets.drop (k + 1) ++ later)) r')
      ∨ ∃ r', r.push (m.packet a k) = (.ok (some (m.reassembled a)), r') ∧ r'.isIdle = true
        ∧ r'.buffer.take m.payload.length
          = opened.take (j * maxChunk) ++ m.payload.drop (j * maxChunk) := by
  have hwritten := hholds.take_overwrite hjk hk hroom
  rw [push_packet hm hk hmine hroom]
  dsimp only
  by_cases hmore : k + 1 < m.count
  · rw [if_pos hmore]
    rw [Sent.length_chunk hmore, ← Nat.succ_mul] at hwritten
    refine .inl ⟨_, rfl, hmore, Nat.le_succ_of_le hjk, rfl, ?_, ⟨later, ?_⟩, hwritten⟩
    · rw [Bytes.length_overwrite]
      exact hroom
    · rw [Function.update_self]
  · rw [if_neg hmore]
    have hlast : k * maxChunk + (m.chunk k).length = m.payload.length :=
      Sent.length_last (by omega)
    have hchunk : (m.chunk k).length ≤ maxChunk := List.length_take_le _ _
    rw [hlast, List.take_of_length_le (i := k * maxChunk + maxChunk) (by omega)] at hwritten
    exact .inr ⟨_, rfl, rfl, hwritten⟩

/-- While a message is collected, a packet is another sender's and refused, or it is the next one
of the message. -/
theorem Collects.step (h : Collects m a j k opened queues r) (hm : m.IsFrom a) {b : Address}
    {packet : Bytes} {rest : List Bytes} (hb : ∃ m' k', packet = Sent.packet m' b k')
    (hqueue : queues b = packet :: rest) :
    (∃ error, r.push packet = (.error error, r)
        ∧ Collects m a j k opened (Function.update queues b rest) r)
      ∨ (∃ r', r.push packet = (.ok none, r')
        ∧ Collects m a j (k + 1) opened (Function.update queues b rest) r')
      ∨ ∃ r', r.push packet = (.ok (some (m.reassembled a)), r') ∧ r'.isIdle = true
        ∧ r'.buffer.take m.payload.length
          = opened.take (j * maxChunk) ++ m.payload.drop (j * maxChunk) := by
  by_cases hab : b = a
  · -- The sender writes the rest of this message before anything else.
    subst hab
    obtain ⟨later, hlater⟩ := h.queue
    have hdrop : m.outgoing.packets.drop k
        = m.packet b k :: m.outgoing.packets.drop (k + 1) := by
      rw [List.drop_eq_getElem_cons (by rw [hm.packets]; simpa using h.next_lt)]
      simp [hm.packets]
    rw [hqueue, hdrop, List.cons_append, List.cons.injEq] at hlater
    obtain ⟨rfl, rfl⟩ := hlater
    exact .inr (push_next hm h.next_lt h.opened_le (.inr h.inProgress) h.room h.holds queues later)
  · obtain ⟨m', k', rfl⟩ := hb
    obtain ⟨error, herror⟩ := push_foreign (m := m') (k := k') h.inProgress (Ne.symm hab)
    refine .inl ⟨error, herror, { h with queue := ?_ }⟩
    rw [Function.update_of_ne (Ne.symm hab)]
    exact h.queue

/-- If the receiver is busy all the time, the message that completes is the one that it collects. -/
theorem Collects.run {packets : List Bytes} {packet : Bytes} {done : Reassembled}
    (h : Collects m a j k opened queues r) (hm : m.IsFrom a)
    (hown : AreOwn queues)
    (hqueues : Interleaves queues (packets ++ [packet]))
    (hbusy : ∀ middle, middle <+: packets → (r.pushAll middle).isIdle = false)
    (hdone : ((r.pushAll packets).push packet).1 = .ok (some done)) :
    done = m.reassembled a
      ∧ ((r.pushAll packets).push packet).2.buffer.take m.payload.length
        = opened.take (j * maxChunk) ++ m.payload.drop (j * maxChunk) := by
  induction packets generalizing k queues r with
  | nil =>
    cases hqueues with
    | @cons _ b _ rest _ hqueue _ =>
      have hb : ∃ m' k', packet = Sent.packet m' b k' :=
        hown b packet (by rw [hqueue]; exact List.mem_cons_self)
      have hdone : (r.push packet).1 = .ok (some done) := hdone
      have hgoal : ((r.pushAll []).push packet).2 = (r.push packet).2 := rfl
      rw [hgoal]
      rcases h.step hm hb hqueue with ⟨_, hpush, _⟩ | ⟨_, hpush, _⟩ | ⟨r', hpush, _, hcontent⟩
      · rw [hpush] at hdone
        cases hdone
      · rw [hpush] at hdone
        cases hdone
      · rw [hpush] at hdone ⊢
        cases hdone
        exact ⟨rfl, hcontent⟩
  | cons first others ih =>
    cases hqueues with
    | @cons _ b _ rest _ hqueue hrest =>
      have hb : ∃ m' k', first = Sent.packet m' b k' :=
        hown b first (by rw [hqueue]; exact List.mem_cons_self)
      have hbusy' : ∀ middle, middle <+: others →
          ((r.push first).2.pushAll middle).isIdle = false := fun middle hmiddle =>
        hbusy (first :: middle) (List.cons_prefix_cons.mpr ⟨rfl, hmiddle⟩)
      have hcollected : ∃ k', Collects m a j k' opened (Function.update queues b rest)
          (r.push first).2 := by
        rcases h.step hm hb hqueue with ⟨_, hpush, hnext⟩ | ⟨_, hpush, hnext⟩ | ⟨_, hpush, hidle, _⟩
        · exact ⟨k, by rw [hpush]; exact hnext⟩
        · exact ⟨k + 1, by rw [hpush]; exact hnext⟩
        · -- The message is complete, but the receiver never rests here.
          have hfirst := hbusy' [] List.nil_prefix
          rw [hpush] at hfirst
          rw [pushAll, List.foldl_nil, hidle] at hfirst
          cases hfirst
      obtain ⟨k', hcollected⟩ := hcollected
      exact ih hcollected (hown.update hqueue) hrest hbusy' hdone

/-! ## All orders -/

theorem pushAll_append (r : Reassembler) (before after : List Bytes) :
    r.pushAll (before ++ after) = (r.pushAll before).pushAll after :=
  List.foldl_append

/-- The last moment at which a receiver was idle. -/
theorem exists_last_idle {r : Reassembler} (hidle : r.isIdle = true) (packets : List Bytes) :
    ∃ before after, packets = before ++ after ∧ (r.pushAll before).isIdle = true
      ∧ ∀ middle, middle <+: after → middle ≠ [] →
        ((r.pushAll before).pushAll middle).isIdle = false := by
  induction packets using List.reverseRecOn with
  | nil =>
    exact ⟨[], [], rfl, hidle,
      fun middle hmiddle hne => absurd (List.prefix_nil.mp hmiddle) hne⟩
  | append_singleton packets packet ih =>
    by_cases hlast : (r.pushAll (packets ++ [packet])).isIdle = true
    · exact ⟨packets ++ [packet], [], (List.append_nil _).symm, hlast,
        fun middle hmiddle hne => absurd (List.prefix_nil.mp hmiddle) hne⟩
    · obtain ⟨before, after, rfl, hbefore, hafter⟩ := ih
      refine ⟨before, after ++ [packet], List.append_assoc _ _ _, hbefore,
        fun middle hmiddle hne => ?_⟩
      rcases List.prefix_concat_iff.mp hmiddle with rfl | hmiddle
      · rw [← pushAll_append, ← List.append_assoc]
        exact Bool.eq_false_iff.mpr hlast
      · exact hafter middle hmiddle hne

theorem length_buffer_pushAll (r : Reassembler) (packets : List Bytes) :
    (r.pushAll packets).buffer.length = r.buffer.length := by
  induction packets generalizing r with
  | nil => rfl
  | cons packet rest ih => exact (ih _).trans (length_buffer_push r packet)

/-- What is left of a sender's packets begins in the middle of one of its messages. -/
theorem exists_of_suffix_packets {mail : Mail} {packet : Bytes} {rest : List Bytes}
    (h : packet :: rest <:+ mail.packets a) :
    ∃ m ∈ mail.sent a, m.IsFrom a ∧ ∃ k later, k < m.count
      ∧ m.outgoing.packets[k]? = some packet ∧ packet = m.packet a k
      ∧ rest = m.outgoing.packets.drop (k + 1) ++ later := by
  obtain ⟨m, hm, k, later, hpacket, hrest⟩ := exists_of_suffix_flatMap h
  have hfrom := Mail.isFrom hm
  have hfound := hpacket
  rw [hfrom.packets, List.getElem?_map, Option.map_eq_some_iff] at hfound
  obtain ⟨k', hk', rfl⟩ := hfound
  obtain ⟨hlt, rfl⟩ := List.getElem?_eq_some_iff.mp hk'
  rw [List.length_range] at hlt
  rw [List.getElem_range] at hpacket ⊢
  exact ⟨m, hm, hfrom, k, later, hlt, hpacket, rfl, hrest⟩

/-- An idle receiver that is busy from the next packet on completes the message that this packet
opens. -/
theorem completes_from_idle {mail : Mail} {left : Address → List Bytes} {later : List Bytes}
    {packet : Bytes} {done : Reassembled}
    (hroom : ∀ a, ∀ m ∈ mail.sent a, m.payload.length ≤ r.buffer.length)
    (hsuffix : ∀ a, left a <:+ mail.packets a) (horder : Interleaves left (later ++ [packet]))
    (hidle : r.isIdle = true)
    (hbusy : ∀ middle, middle <+: later → middle ≠ [] → (r.pushAll middle).isIdle = false)
    (hdone : ((r.pushAll later).push packet).1 = .ok (some done)) :
    ∃ m ∈ mail.sent done.source, done = m.reassembled done.source ∧
      ∃ opening after j, later ++ [packet] = opening :: after
        ∧ m.outgoing.packets[j]? = some opening
        ∧ ((r.pushAll later).push packet).2.content done
          = r.buffer.take (j * maxChunk) ++ m.payload.drop (j * maxChunk) := by
  have hown : AreOwn left := by
    intro b p hp
    obtain ⟨m, hm, hmp⟩ := List.mem_flatMap.mp ((hsuffix b).subset hp)
    rw [(Mail.isFrom hm).packets] at hmp
    obtain ⟨k, _, rfl⟩ := List.mem_map.mp hmp
    exact ⟨m, k, rfl⟩
  have hnone : r.inProgress = none := Option.isNone_iff_eq_none.mp hidle
  have hfresh (m : Sent) (j : Nat) : Holds m j j r.buffer r.buffer := by
    simp [Holds]
  obtain ⟨opening, after, hsplit⟩ := List.exists_cons_of_ne_nil (l := later ++ [packet]) (by simp)
  rw [hsplit] at horder
  cases horder with
  | @cons _ b _ rest _ hqueue hrest =>
    obtain ⟨m, hm, hfrom, j, tail, hj, hpacket, rfl, rfl⟩ :=
      exists_of_suffix_packets (hqueue ▸ hsuffix b)
    have hnext := push_next hfrom hj (Nat.le_refl j) (.inl hnone) (hroom b m hm) (hfresh m j)
      left tail
    cases later with
    | nil =>
      -- The packet that opens the message is its last.
      obtain ⟨rfl, rfl⟩ := List.cons.inj hsplit
      have hdone : (r.push (m.packet b j)).1 = .ok (some done) := hdone
      rcases hnext with ⟨_, hpush, _⟩ | ⟨_, hpush, _, hcontent⟩
      · rw [hpush] at hdone
        cases hdone
      · have hcontent' : (r.push (m.packet b j)).2.buffer.take m.payload.length
            = r.buffer.take (j * maxChunk) ++ m.payload.drop (j * maxChunk) := by
          rw [hpush]
          exact hcontent
        rw [hpush] at hdone
        cases hdone
        exact ⟨m, hm, rfl, m.packet b j, [], j, rfl, hpacket, hcontent'⟩
    | cons first others =>
      obtain ⟨rfl, rfl⟩ := List.cons.inj hsplit
      have hbusy' : ∀ middle, middle <+: others →
          ((r.push (m.packet b j)).2.pushAll middle).isIdle = false := fun middle hmiddle =>
        hbusy (m.packet b j :: middle) (List.cons_prefix_cons.mpr ⟨rfl, hmiddle⟩)
          (List.cons_ne_nil _ _)
      rcases hnext with ⟨r', hpush, hcollects⟩ | ⟨_, hpush, hidle', _⟩
      · have hpushed : (r.push (m.packet b j)).2 = r' := congrArg Prod.snd hpush
        obtain ⟨rfl, hcontent⟩ := Collects.run (r := (r.push (m.packet b j)).2)
          (hpushed ▸ hcollects) hfrom (hown.update hqueue) hrest hbusy' hdone
        exact ⟨m, hm, rfl, m.packet b j, _, j, rfl, hpacket, hcontent⟩
      · -- A message that is complete at once leaves the receiver idle, which it is not.
        have hfirst := hbusy' [] List.nil_prefix
        rw [hpush, pushAll, List.foldl_nil, hidle'] at hfirst
        cases hfirst

/-- **What a completed message is.** Let several senders' packets reach a receiver in any order that
keeps each sender's own, with room in the buffer for every payload. When a message completes, its
sender has sent it, and the outcome says so: source, sequence number, length. The packet with some
index `j` has opened it, when the receiver was idle for the last time, and the content is what the
buffer held before chunk `j` at that time, followed by the payload from chunk `j` on. The content is
the payload, then, exactly if the buffer happened to hold the missing part. -/
theorem content_of_completion {mail : Mail} {buffer : Bytes} {packets : List Bytes}
    {packet : Bytes} {done : Reassembled}
    (hroom : ∀ a, ∀ m ∈ mail.sent a, m.payload.length ≤ buffer.length)
    (horder : Interleaves mail.packets (packets ++ [packet]))
    (hdone : (((start buffer).pushAll packets).push packet).1 = .ok (some done)) :
    ∃ m ∈ mail.sent done.source, done = m.reassembled done.source ∧
      ∃ before opening after j, packets ++ [packet] = before ++ opening :: after
        ∧ m.outgoing.packets[j]? = some opening
        ∧ ((start buffer).pushAll before).isIdle = true
        ∧ (∀ middle, middle ≠ [] → before ++ middle <+: packets →
            ((start buffer).pushAll (before ++ middle)).isIdle = false)
        ∧ (((start buffer).pushAll packets).push packet).2.content done
          = ((start buffer).pushAll before).buffer.take (j * maxChunk)
            ++ m.payload.drop (j * maxChunk)
        ∧ ((((start buffer).pushAll packets).push packet).2.content done = m.payload ↔
            ((start buffer).pushAll before).buffer.take (j * maxChunk)
              = m.payload.take (j * maxChunk)) := by
  obtain ⟨before, later, rfl, hidle, hbusy⟩ := exists_last_idle (r := start buffer) rfl packets
  rw [List.append_assoc] at horder
  obtain ⟨left, hleft, hsuffix⟩ := horder.split
  rw [pushAll_append] at hdone
  obtain ⟨m, hm, hreassembled, opening, after, j, hsplit, hopening, hcontent⟩ :=
    completes_from_idle (r := (start buffer).pushAll before)
      (by rw [length_buffer_pushAll]; exact hroom) hsuffix hleft hidle hbusy hdone
  rw [← pushAll_append] at hcontent
  refine ⟨m, hm, hreassembled, before, opening, after, j, ?_, hopening, hidle, ?_, hcontent, ?_⟩
  · rw [List.append_assoc, hsplit]
  · intro middle hne hmiddle
    rw [pushAll_append]
    exact hbusy middle ((List.prefix_append_right_inj before).mp hmiddle) hne
  · rw [hcontent]
    refine ⟨fun h => ?_, fun h => by rw [h, List.take_append_drop]⟩
    have hwhole := h.trans (List.take_append_drop (j * maxChunk) m.payload).symm
    exact List.append_cancel_right hwhole

/-- Two senders with a payload of two packets each: one of ones, one of twos. -/
def twoSenders : Mail where
  letters a :=
    if a = ⟨0x10⟩ then [⟨.controller, List.replicate 248 1, false⟩]
    else if a = ⟨0x11⟩ then [⟨.controller, List.replicate 248 2, false⟩]
    else []
  next _ := 0

/-- The twos open a message, the first packet of the ones is refused, the twos complete theirs. -/
def twosFirst : List Bytes :=
  let ones := twoSenders.packets ⟨0x10⟩
  let twos := twoSenders.packets ⟨0x11⟩
  [twos.headD [], ones.headD [], twos.getLastD []]

/-- The last packet of the ones opens a message of its own, and completes it with twos in it. -/
theorem missing_chunk_goes_unnoticed :
    let last := (twoSenders.packets ⟨0x10⟩).getLastD []
    let receiver := (start (List.replicate 248 0)).pushAll twosFirst
    (∀ a, ∀ m ∈ twoSenders.sent a, m.payload.length ≤ (List.replicate 248 (0 : UInt8)).length)
      ∧ Interleaves twoSenders.packets (twosFirst ++ [last])
      ∧ ∃ done, (receiver.push last).1 = .ok (some done)
        ∧ ∃ m ∈ twoSenders.sent done.source, done = m.reassembled done.source
          ∧ (receiver.push last).2.content done ≠ m.payload := by
  intro last receiver
  have hroom : ∀ a, ∀ m ∈ twoSenders.sent a,
      m.payload.length ≤ (List.replicate 248 (0 : UInt8)).length := by
    intro a
    by_cases hones : a = ⟨0x10⟩
    · rw [hones]
      decide +kernel
    · by_cases htwos : a = ⟨0x11⟩
      · rw [htwos]
        decide +kernel
      · intro m hm
        have hnone : twoSenders.letters a = [] := (if_neg hones).trans (if_neg htwos)
        rw [Mail.sent, hnone] at hm
        cases hm
  have horder : Interleaves twoSenders.packets (twosFirst ++ [last]) := by
    refine @Interleaves.cons _ ⟨0x11⟩ _ ((twoSenders.packets ⟨0x11⟩).drop 1) _
      (by decide +kernel) ?_
    refine @Interleaves.cons _ ⟨0x10⟩ _ ((twoSenders.packets ⟨0x10⟩).drop 1) _
      (by decide +kernel) ?_
    refine @Interleaves.cons _ ⟨0x11⟩ _ [] _ (by decide +kernel) ?_
    exact @Interleaves.cons _ ⟨0x10⟩ _ [] _ (by decide +kernel) (.nil _)
  have hdone : (receiver.push last).1 = .ok (some ⟨⟨0x10⟩, 0, false, 248, 248, false⟩) := by
    decide +kernel
  obtain ⟨m, hm, hreassembled, _⟩ := content_of_completion hroom horder hdone
  have hwrong : ∀ m ∈ twoSenders.sent ⟨0x10⟩, (receiver.push last).2.content
      ⟨⟨0x10⟩, 0, false, 248, 248, false⟩ ≠ m.payload := by
    decide +kernel
  exact ⟨hroom, horder, _, hdone, m, hm, hreassembled, hwrong m hm⟩

end Reassembler

end ModuleBus

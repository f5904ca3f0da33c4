import Mathlib.Data.List.Basic
import Mathlib.Data.List.Nodup
import ModuleBus.Dispatch.Dispatcher

set_option autoImplicit false

/-! # The table of waiting calls

What registering, completing and forgetting do to the entry of one call and to the replies that are
kept for it. A ticket that is not the one concerned never notices, as long as no key has two
entries. -/

namespace ModuleBus

namespace Message

/-- What a reply is matched by. -/
def replyKey (m : Message) : CallKey := ⟨m.source, m.service, m.type⟩

/-- The reply that arrives with a message. -/
def toReply (m : Message) : Reply := ⟨m.frame, m.payload⟩

end Message

namespace PendingCalls

variable {p p' : PendingCalls} {key key' : CallKey} {t t' : Ticket} {r : Reply}

/-- The replies that are kept for a call. -/
def replies (p : PendingCalls) (t : Ticket) : List Reply :=
  (p.answered.filter fun a => a.1 == t).map Prod.snd

/-- A call takes the newest of its replies. -/
theorem reply?_eq_head? (p : PendingCalls) (t : Ticket) : p.reply? t = (p.replies t).head? := by
  rw [reply?, replies]
  induction p.answered with
  | nil => rfl
  | cons a rest ih =>
    rw [List.lookup_cons]
    by_cases ha : a.1 = t
    · rw [List.filter_cons_of_pos (by simp [ha]), ha, beq_self_eq_true]
      rfl
    · rw [List.filter_cons_of_neg (by simp [ha]), ih, beq_false_of_ne (Ne.symm ha)]

theorem mem_waiting_of_ticket? (h : p.ticket? key = some t) : (key, t) ∈ p.waiting := by
  obtain ⟨before, after, hwaiting, _⟩ := List.lookup_eq_some_iff.mp h
  rw [hwaiting]
  exact List.mem_append_right before List.mem_cons_self

theorem not_mem_of_ticket? (h : p.ticket? key = Option.none) (t : Ticket) :
    (key, t) ∉ p.waiting := by
  intro hmem
  simpa using List.lookup_eq_none_iff.mp h _ hmem

theorem ticket?_ne_none (h : (key, t) ∈ p.waiting) : p.ticket? key ≠ Option.none :=
  fun hnone => not_mem_of_ticket? hnone t h

theorem ticket_unique (hnodup : (p.waiting.map Prod.fst).Nodup) (h : (key, t) ∈ p.waiting)
    (h' : (key, t') ∈ p.waiting) : t = t' :=
  congrArg Prod.snd (List.inj_on_of_nodup_map hnodup h h' rfl)

/-! ## Registering -/

/-- A call that is registered gets the next ticket, and the only entry of its key. -/
theorem register_eq_some (h : p.register key = (some t, p')) :
    p.ticket? key = Option.none ∧ t = p.next
      ∧ p' = { p with next := p.next + 1, waiting := (key, p.next) :: p.waiting } := by
  unfold register at h
  split at h
  · cases h
  · next hfree =>
    cases h
    exact ⟨hfree, rfl, rfl⟩

theorem register_busy (h : (key, t) ∈ p.waiting) : p.register key = (Option.none, p) := by
  unfold register
  split
  · rfl
  · next hnone => exact absurd hnone (ticket?_ne_none h)

/-! ## Forgetting -/

theorem mem_waiting_forget :
    (key, t') ∈ (p.forget t).waiting ↔ t' ≠ t ∧ (key, t') ∈ p.waiting := by
  simp [forget, and_comm]

theorem replies_forget (p : PendingCalls) (t t' : Ticket) :
    (p.forget t).replies t' = if t' = t then [] else p.replies t' := by
  rw [replies, forget]
  dsimp only
  rw [List.filter_filter]
  split
  · next h => simp [h]
  · next h =>
    have hsame : (p.answered.filter fun a => a.1 == t' && a.1 != t)
        = p.answered.filter fun a => a.1 == t' := by
      refine List.filter_congr fun a _ => ?_
      by_cases ha : a.1 = t'
      · simp [ha, h]
      · simp [ha]
    rw [hsame, replies]

/-! ## Completing -/

/-- The table after the call with the ticket `t`, waiting under `key`, was completed. -/
def answer (p : PendingCalls) (key : CallKey) (t : Ticket) (r : Reply) : PendingCalls :=
  { p with
    waiting := p.waiting.filter fun w => w.1 != key
    answered := (t, r) :: p.answered }

theorem complete_eq_answer (h : p.ticket? key = some t) :
    p.complete key r = (true, p.answer key t r) := by
  rw [complete, h]
  rfl

theorem complete_eq_self (h : p.ticket? key = Option.none) : p.complete key r = (false, p) := by
  rw [complete, h]

theorem mem_waiting_answer :
    (key', t') ∈ (p.answer key t r).waiting ↔ key' ≠ key ∧ (key', t') ∈ p.waiting := by
  simp [answer, and_comm]

theorem mem_waiting_answer_of_ne (hnodup : (p.waiting.map Prod.fst).Nodup)
    (hkey : (key, t) ∈ p.waiting) (ht : t' ≠ t) :
    (key', t') ∈ (p.answer key t r).waiting ↔ (key', t') ∈ p.waiting := by
  rw [mem_waiting_answer]
  refine ⟨And.right, fun h => ⟨?_, h⟩⟩
  rintro rfl
  exact ht (ticket_unique hnodup h hkey)

theorem replies_answer (p : PendingCalls) (key : CallKey) (t t' : Ticket) (r : Reply) :
    (p.answer key t r).replies t' = if t' = t then r :: p.replies t' else p.replies t' := by
  rw [replies, answer]
  dsimp only
  split
  · next h => rw [List.filter_cons_of_pos (by simp [h]), List.map_cons, replies]
  · next h => rw [List.filter_cons_of_neg (by simpa using Ne.symm h), replies]

end PendingCalls

namespace Dispatcher

/-- A message that is handed on concerns the calls, the queue of requests, or nobody. -/
theorem route_frame (d : Dispatcher) (m : Message) : ∃ pending inbound tally,
    (d.route m).2 = { d with pending := pending, inbound := inbound, tally := tally } := by
  unfold route
  dsimp only
  split
  · split
    · exact ⟨_, d.inbound, d.tally, rfl⟩
    · exact ⟨d.pending, d.inbound, _, rfl⟩
  · split
    · exact ⟨d.pending, d.inbound, d.tally, rfl⟩
    · split
      · exact ⟨d.pending, d.inbound, _, rfl⟩
      · exact ⟨d.pending, _, d.tally, rfl⟩

/-- So does one that is taken in. -/
theorem accept_frame (d : Dispatcher) (source : Address) (sealed : Bool) (bytes : Bytes) :
    ∃ pending inbound tally, (d.accept source sealed bytes).2
      = { d with pending := pending, inbound := inbound, tally := tally } := by
  unfold accept
  split
  · exact ⟨d.pending, d.inbound, _, rfl⟩
  · split
    · exact d.route_frame _
    · exact ⟨d.pending, d.inbound, d.tally, rfl⟩
    · exact ⟨d.pending, d.inbound, _, rfl⟩

/-- A reply goes to the table, and any other message leaves the table alone. -/
theorem pending_route (d : Dispatcher) (m : Message) :
    (d.route m).2.pending
      = if m.frame.isRequest then d.pending
        else (d.pending.complete m.replyKey m.toReply).2 := by
  cases hframe : m.frame.isRequest with
  | true =>
    rw [if_pos rfl]
    simp only [route, hframe]
    split
    · next himpossible => cases himpossible
    · split
      · rfl
      · split
        · rfl
        · rfl
  | false =>
    rw [if_neg Bool.false_ne_true]
    simp only [route, hframe, Bool.not_false, if_true]
    cases hticket : d.pending.ticket? m.replyKey with
    | none =>
      rw [show d.pending.complete ⟨m.source, m.service, m.type⟩ ⟨m.frame, m.payload⟩
        = (false, d.pending) from PendingCalls.complete_eq_self hticket,
        PendingCalls.complete_eq_self hticket]
      rfl
    | some t =>
      rw [show d.pending.complete ⟨m.source, m.service, m.type⟩ ⟨m.frame, m.payload⟩
        = (true, d.pending.answer m.replyKey t m.toReply) from
          PendingCalls.complete_eq_answer hticket, PendingCalls.complete_eq_answer hticket]

/-- A message completes the call of one ticket, which waits for it, or none. -/
theorem pending_route_cases (d : Dispatcher) (m : Message) :
    (d.route m).2.pending = d.pending
      ∨ ∃ t, m.frame.isRequest = false ∧ (m.replyKey, t) ∈ d.pending.waiting
        ∧ (d.route m).2.pending = d.pending.answer m.replyKey t m.toReply := by
  rw [pending_route]
  cases hframe : m.frame.isRequest with
  | true => exact .inl rfl
  | false =>
    cases hticket : d.pending.ticket? m.replyKey with
    | none =>
      left
      rw [PendingCalls.complete_eq_self hticket]
      rfl
    | some t =>
      right
      rw [PendingCalls.complete_eq_answer hticket]
      exact ⟨t, rfl, PendingCalls.mem_waiting_of_ticket? hticket, rfl⟩

/-- A message that changes the replies to a call has completed it. -/
theorem completes_of_replies_ne {d : Dispatcher} {m : Message} {t : Ticket}
    (h : (d.route m).2.pending.replies t ≠ d.pending.replies t) :
    m.frame.isRequest = false ∧ (m.replyKey, t) ∈ d.pending.waiting
      ∧ (d.route m).2.pending = d.pending.answer m.replyKey t m.toReply := by
  rcases d.pending_route_cases m with hsame | ⟨t', hframe, hentry, hanswer⟩
  · rw [hsame] at h
    exact absurd rfl h
  · obtain rfl : t = t' := by
      by_contra hne
      rw [hanswer, PendingCalls.replies_answer, if_neg hne] at h
      exact h rfl
    exact ⟨hframe, hentry, hanswer⟩

theorem waiting_route_sublist (d : Dispatcher) (m : Message) :
    (d.route m).2.pending.waiting.Sublist d.pending.waiting := by
  rcases d.pending_route_cases m with hsame | ⟨_, _, _, hanswer⟩
  · rw [hsame]
  · rw [hanswer]
    exact List.filter_sublist

theorem next_route (d : Dispatcher) (m : Message) :
    (d.route m).2.pending.next = d.pending.next := by
  rcases d.pending_route_cases m with hsame | ⟨_, _, _, hanswer⟩
  · rw [hsame]
  · rw [hanswer]
    rfl

theorem pending_route_of_entry {d : Dispatcher} {m : Message} {t : Ticket}
    (hnodup : (d.pending.waiting.map Prod.fst).Nodup) (hframe : m.frame.isRequest = false)
    (hentry : (m.replyKey, t) ∈ d.pending.waiting) :
    (d.route m).2.pending = d.pending.answer m.replyKey t m.toReply := by
  rw [pending_route, hframe, if_neg Bool.false_ne_true]
  cases hticket : d.pending.ticket? m.replyKey with
  | none => exact absurd hticket (PendingCalls.ticket?_ne_none hentry)
  | some t' =>
    obtain rfl : t' = t :=
      PendingCalls.ticket_unique hnodup (PendingCalls.mem_waiting_of_ticket? hticket) hentry
    rw [PendingCalls.complete_eq_answer hticket]

end Dispatcher

end ModuleBus

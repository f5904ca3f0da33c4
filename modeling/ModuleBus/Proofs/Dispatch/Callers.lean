import ModuleBus.Dispatch.Call
import ModuleBus.Proofs.Dispatch.Pending
import ModuleBus.Proofs.Dispatch.Sending
import Mathlib.Logic.Relation

set_option autoImplicit false

/-! # Calls side by side

Any number of callers share a dispatcher. Each registers its call, writes the command and ends with
the reply, a failed write, the timeout or because it is given up; between any two of these steps
the others take theirs, and messages arrive. Only the operations on the table of waiting calls are
atomic.

The table stays in order because a ticket is never given twice. A caller in progress has an entry,
under its own key, or its one reply, and a caller that has ended has neither (`Caller.Fits`). What
a caller forgets as it ends is known by its ticket, so that it never is another caller's, not even
if that has registered under the same key in the meantime. -/

namespace ModuleBus

/-- How far a call has come. -/
inductive Stage where
  /-- The command is being written. -/
  | sending
  /-- The command was written. -/
  | waiting
  /-- The caller has taken the reply. -/
  | received (reply : Reply)
  | failed (error : DispatchError)
  /-- The caller has given the call up. -/
  | dropped

/-- The call has not ended. -/
def Stage.isOpen : Stage → Bool
  | sending | waiting => true
  | received _ | failed _ | dropped => false

/-- A message that has arrived, and how many had arrived before. -/
structure Arrival where
  number : Nat
  message : Message

/-- A call that was registered. -/
structure Caller where
  key : CallKey
  ticket : Ticket
  stage : Stage
  /-- The arrivals that have completed the call. -/
  completedBy : List Arrival

/-- The caller at another stage, if it is the one with the ticket. -/
def Caller.turn (c : Caller) (t : Ticket) (stage : Stage) : Caller :=
  if c.ticket = t then { c with stage := stage } else c

/-- A dispatcher, and all callers so far. A call that is refused as busy is none of them. -/
structure CallLog where
  node : Dispatcher
  callers : List Caller
  /-- Number of messages that have arrived. -/
  arrived : Nat

namespace CallLog

/-- Nobody has called yet. -/
def start (node : Dispatcher) : CallLog := ⟨node, [], 0⟩

/-- A caller is registered, and `p` is the table afterwards. -/
def enter (s : CallLog) (key : CallKey) (t : Ticket) (p : PendingCalls) : CallLog :=
  { s with
    node := { s.node with pending := p }
    callers := ⟨key, t, .sending, []⟩ :: s.callers }

/-- A caller gets to another stage. -/
def advance (s : CallLog) (t : Ticket) (stage : Stage) : CallLog :=
  { s with callers := s.callers.map (·.turn t stage) }

/-- A caller ends, and its call is forgotten. -/
def leave (s : CallLog) (t : Ticket) (stage : Stage) : CallLog :=
  { s.advance t stage with node := { s.node with pending := s.node.pending.forget t } }

/-- A message arrives. It has completed the calls for which other replies are kept than before. -/
def arrive (s : CallLog) (m : Message) : CallLog where
  node := (s.node.route m).2
  callers := s.callers.map fun c =>
    if (s.node.route m).2.pending.replies c.ticket = s.node.pending.replies c.ticket then c
    else { c with completedBy := ⟨s.arrived, m⟩ :: c.completedBy }
  arrived := s.arrived + 1

/-- What callers do by themselves; and the dispatcher may change as long as its calls do not. -/
inductive Quiet : CallLog → CallLog → Prop
  | call {s : CallLog} {key : CallKey} {t : Ticket} {p : PendingCalls} :
      s.node.pending.register key = (some t, p) → Quiet s (s.enter key t p)
  | fail {s : CallLog} {c : Caller} (error : DispatchError) : c ∈ s.callers →
      c.stage = .sending → Quiet s (s.leave c.ticket (.failed error))
  | take {s : CallLog} {c : Caller} {reply : Reply} : c ∈ s.callers → c.stage = .waiting →
      s.node.pending.reply? c.ticket = some reply → Quiet s (s.leave c.ticket (.received reply))
  | timeOut {s : CallLog} {c : Caller} : c ∈ s.callers → c.stage = .waiting →
      s.node.pending.reply? c.ticket = none → Quiet s (s.leave c.ticket (.failed .timeout))
  | drop {s : CallLog} {c : Caller} : c ∈ s.callers → c.stage.isOpen = true →
      Quiet s (s.leave c.ticket .dropped)
  | drift {s : CallLog} {node : Dispatcher} : node.pending = s.node.pending →
      Quiet s { s with node := node }

/-- One step of the callers, or on the link. -/
inductive Step : CallLog → CallLog → Prop
  | quiet {s s' : CallLog} : Quiet s s' → Step s s'
  | sent {s : CallLog} {c : Caller} : c ∈ s.callers → c.stage = .sending →
      Step s (s.advance c.ticket .waiting)
  | arrive {s : CallLog} (m : Message) : Step s (s.arrive m)

/-- A run leads from one state to another. -/
def Reaches : CallLog → CallLog → Prop := Relation.ReflTransGen Step

end CallLog

/-! ## A caller and the table -/

namespace Caller

/-- What the table holds of a caller. -/
inductive Fits (p : PendingCalls) (c : Caller) : Prop
  /-- The caller waits under its key. -/
  | waits : c.stage.isOpen = true → (∀ key, (key, c.ticket) ∈ p.waiting ↔ key = c.key) →
      p.replies c.ticket = [] → c.completedBy = [] → Fits p c
  /-- Its reply is there. -/
  | answered (a : Arrival) : c.stage.isOpen = true → (∀ key, (key, c.ticket) ∉ p.waiting) →
      p.replies c.ticket = [a.message.toReply] → c.completedBy = [a] → Fits p c
  /-- It has ended. -/
  | ended : c.stage.isOpen = false → (∀ key, (key, c.ticket) ∉ p.waiting) →
      p.replies c.ticket = [] → c.completedBy.length ≤ 1 →
      (∀ r, c.stage = .received r → ∃ a, c.completedBy = [a] ∧ a.message.toReply = r) → Fits p c

variable {p p' : PendingCalls} {c : Caller}

theorem turn_of_eq (c : Caller) {t : Ticket} (h : c.ticket = t) (stage : Stage) :
    c.turn t stage = { c with stage := stage } :=
  if_pos h

theorem turn_of_ne (c : Caller) {t : Ticket} (h : c.ticket ≠ t) (stage : Stage) :
    c.turn t stage = c :=
  if_neg h

@[simp] theorem ticket_turn (c : Caller) (t : Ticket) (stage : Stage) :
    (c.turn t stage).ticket = c.ticket := by
  unfold turn
  split <;> rfl

@[simp] theorem key_turn (c : Caller) (t : Ticket) (stage : Stage) :
    (c.turn t stage).key = c.key := by
  unfold turn
  split <;> rfl

@[simp] theorem completedBy_turn (c : Caller) (t : Ticket) (stage : Stage) :
    (c.turn t stage).completedBy = c.completedBy := by
  unfold turn
  split <;> rfl

theorem Fits.length_completedBy (h : c.Fits p) : c.completedBy.length ≤ 1 := by
  cases h with
  | waits _ _ _ hcompleted => simp [hcompleted]
  | answered _ _ _ _ hcompleted => simp [hcompleted]
  | ended _ _ _ hcompleted _ => exact hcompleted

theorem Fits.waits_of_entry {key : CallKey} (h : c.Fits p) (hentry : (key, c.ticket) ∈ p.waiting) :
    c.stage.isOpen = true ∧ key = c.key ∧ c.completedBy = [] := by
  cases h with
  | waits hopen hown _ hcompleted => exact ⟨hopen, (hown key).mp hentry, hcompleted⟩
  | answered _ _ hnone _ _ => exact absurd hentry (hnone key)
  | ended _ hnone _ _ _ => exact absurd hentry (hnone key)

theorem Fits.entry_iff (h : c.Fits p) (hopen : c.stage.isOpen = true) (hnone : c.completedBy = [])
    {key : CallKey} : (key, c.ticket) ∈ p.waiting ↔ key = c.key := by
  cases h with
  | waits _ hown _ _ => exact hown key
  | answered _ _ _ _ hcompleted => exact nomatch hcompleted.symm.trans hnone
  | ended hended _ _ _ _ => exact absurd (hended.symm.trans hopen) Bool.false_ne_true

theorem Fits.reply?_eq_some (h : c.Fits p) (hopen : c.stage.isOpen = true) {a : Arrival}
    (hcompleted : c.completedBy = [a]) : p.reply? c.ticket = some a.message.toReply := by
  cases h with
  | waits _ _ _ hnone => exact nomatch hcompleted.symm.trans hnone
  | answered a' _ _ hreply hsame =>
    obtain rfl : a = a' := List.singleton_inj.mp (hcompleted.symm.trans hsame)
    rw [PendingCalls.reply?_eq_head?, hreply]
    rfl
  | ended hended _ _ _ _ => exact absurd (hended.symm.trans hopen) Bool.false_ne_true

/-- What a caller has received is the reply that completed it. -/
theorem Fits.exists_of_received {r : Reply} (h : c.Fits p) (hstage : c.stage = .received r) :
    ∃ a, c.completedBy = [a] ∧ a.message.toReply = r := by
  cases h with
  | waits hopen _ _ _ => simp [hstage, Stage.isOpen] at hopen
  | answered _ hopen _ _ _ => simp [hstage, Stage.isOpen] at hopen
  | ended _ _ _ _ hreceived => exact hreceived r hstage

/-- Changes of the table that concern other tickets do not matter. -/
theorem Fits.congr (h : c.Fits p)
    (hwaiting : ∀ key, (key, c.ticket) ∈ p'.waiting ↔ (key, c.ticket) ∈ p.waiting)
    (hreplies : p'.replies c.ticket = p.replies c.ticket) : c.Fits p' := by
  cases h with
  | waits hopen hown hnone hcompleted =>
    exact .waits hopen (fun key => (hwaiting key).trans (hown key)) (hreplies.trans hnone) hcompleted
  | answered a hopen hnone hreply hcompleted =>
    exact .answered a hopen (fun key => mt (hwaiting key).mp (hnone key)) (hreplies.trans hreply)
      hcompleted
  | ended hended hnone hreply hlength hreceived =>
    exact .ended hended (fun key => mt (hwaiting key).mp (hnone key)) (hreplies.trans hreply) hlength
      hreceived

theorem Fits.forget_of_ne {t : Ticket} (h : c.Fits p) (ht : c.ticket ≠ t) : c.Fits (p.forget t) :=
  h.congr (fun _ => PendingCalls.mem_waiting_forget.trans (and_iff_right ht))
    ((p.replies_forget t c.ticket).trans (if_neg ht))

/-- As a caller ends, nothing of it stays. -/
theorem Fits.forget_self (h : c.Fits p) {stage : Stage} (hended : stage.isOpen = false)
    (hreceived : ∀ r, stage = .received r → p.reply? c.ticket = some r) :
    ({ c with stage := stage } : Caller).Fits (p.forget c.ticket) := by
  refine .ended hended (fun key hentry => ?_) ?_ h.length_completedBy fun r hr => ?_
  · exact (PendingCalls.mem_waiting_forget.mp hentry).1 rfl
  · rw [PendingCalls.replies_forget, if_pos rfl]
  · have hreply := hreceived r hr
    rw [PendingCalls.reply?_eq_head?] at hreply
    cases h with
    | waits _ _ hnone _ => simp [hnone] at hreply
    | answered a _ _ hanswer hcompleted =>
      rw [hanswer] at hreply
      exact ⟨a, hcompleted, Option.some.inj hreply⟩
    | ended _ _ hnone _ _ => simp [hnone] at hreply

theorem Fits.answer_of_ne {key : CallKey} {t : Ticket} (h : c.Fits p)
    (hnodup : (p.waiting.map Prod.fst).Nodup) (hentry : (key, t) ∈ p.waiting) (ht : c.ticket ≠ t)
    (r : Reply) : c.Fits (p.answer key t r) :=
  h.congr (fun _ => PendingCalls.mem_waiting_answer_of_ne hnodup hentry ht)
    ((p.replies_answer key t c.ticket r).trans (if_neg ht))

/-- The reply to the caller takes the place of its entry. -/
theorem Fits.answer_self (h : c.Fits p) {a : Arrival}
    (hentry : (a.message.replyKey, c.ticket) ∈ p.waiting) :
    ({ c with completedBy := a :: c.completedBy } : Caller).Fits
      (p.answer a.message.replyKey c.ticket a.message.toReply) := by
  obtain ⟨hopen, hkey, hcompleted⟩ := h.waits_of_entry hentry
  cases h with
  | waits _ hown hnone _ =>
    refine .answered a hopen (fun key hmem => ?_) ?_ (by rw [hcompleted])
    · obtain ⟨hne, hmem⟩ := PendingCalls.mem_waiting_answer.mp hmem
      exact hne (((hown key).mp hmem).trans hkey.symm)
    · rw [PendingCalls.replies_answer, if_pos rfl, hnone]
  | answered _ _ hnone _ _ => exact absurd hentry (hnone _)
  | ended _ hnone _ _ _ => exact absurd hentry (hnone _)

/-- A message does not concern a caller for which it leaves the replies as they are. -/
theorem Fits.route {d : Dispatcher} {m : Message} (h : c.Fits d.pending)
    (hnodup : (d.pending.waiting.map Prod.fst).Nodup)
    (hsame : (d.route m).2.pending.replies c.ticket = d.pending.replies c.ticket) :
    c.Fits (d.route m).2.pending := by
  rcases d.pending_route_cases m with hpending | ⟨t, _, hentry, hanswer⟩
  · rw [hpending]
    exact h
  · rw [hanswer] at hsame ⊢
    refine h.answer_of_ne hnodup hentry ?_ _
    rintro rfl
    rw [PendingCalls.replies_answer, if_pos rfl] at hsame
    exact List.cons_ne_self _ _ hsame

end Caller

/-! ## Single steps -/

namespace CallLog

/-- The tickets of all callers. -/
def tickets (s : CallLog) : List Ticket := s.callers.map Caller.ticket

variable {s s' : CallLog} {c c' : Caller} {a : Arrival} {key : CallKey} {t : Ticket} {m : Message}

theorem tickets_advance (s : CallLog) (t : Ticket) (stage : Stage) :
    (s.advance t stage).tickets = s.tickets := by
  simp [tickets, advance]

theorem tickets_arrive (s : CallLog) (m : Message) : (s.arrive m).tickets = s.tickets := by
  rw [tickets, arrive, List.map_map]
  refine List.map_congr_left fun c _ => ?_
  rw [Function.comp_apply]
  split <;> rfl

/-- A message that arrives leaves a caller as it was, or completes it. -/
theorem mem_arrive (hc' : c' ∈ (s.arrive m).callers) : ∃ c ∈ s.callers,
    (c' = c ∧ (s.node.route m).2.pending.replies c.ticket = s.node.pending.replies c.ticket)
      ∨ (c' = { c with completedBy := ⟨s.arrived, m⟩ :: c.completedBy }
        ∧ m.frame.isRequest = false ∧ (m.replyKey, c.ticket) ∈ s.node.pending.waiting
        ∧ (s.node.route m).2.pending = s.node.pending.answer m.replyKey c.ticket m.toReply) := by
  obtain ⟨c, hc, rfl⟩ := List.mem_map.mp hc'
  refine ⟨c, hc, ?_⟩
  by_cases hsame :
      (s.node.route m).2.pending.replies c.ticket = s.node.pending.replies c.ticket
  · exact .inl ⟨if_pos hsame, hsame⟩
  · exact .inr ⟨if_neg hsame, Dispatcher.completes_of_replies_ne hsame⟩

/-- A reply completes the caller that waits for it, -/
theorem mem_arrive_of_entry (hc : c ∈ s.callers)
    (hnodup : (s.node.pending.waiting.map Prod.fst).Nodup) (hframe : m.frame.isRequest = false)
    (hentry : (m.replyKey, c.ticket) ∈ s.node.pending.waiting) :
    { c with completedBy := ⟨s.arrived, m⟩ :: c.completedBy } ∈ (s.arrive m).callers := by
  refine List.mem_map.mpr ⟨c, hc, if_neg ?_⟩
  rw [Dispatcher.pending_route_of_entry hnodup hframe hentry, PendingCalls.replies_answer,
    if_pos rfl]
  exact List.cons_ne_self _ _

/-- and no message changes any other. -/
theorem mem_arrive_of_no_entry (hc : c ∈ s.callers)
    (hentry : (m.replyKey, c.ticket) ∉ s.node.pending.waiting) : c ∈ (s.arrive m).callers := by
  refine List.mem_map.mpr ⟨c, hc, if_pos ?_⟩
  by_contra hchanged
  exact hentry (Dispatcher.completes_of_replies_ne hchanged).2.1

/-- An entry that a step brings is that of a new call. -/
theorem waiting_step (hstep : Step s s') (h : (key, t) ∈ s'.node.pending.waiting) :
    (key, t) ∈ s.node.pending.waiting
      ∨ (s.node.pending.ticket? key = none ∧ t = s.node.pending.next) := by
  cases hstep with
  | quiet hquiet =>
    cases hquiet with
    | call hregister =>
      obtain ⟨hfree, rfl, rfl⟩ := PendingCalls.register_eq_some hregister
      rcases List.mem_cons.mp h with hnew | hold
      · obtain ⟨rfl, rfl⟩ := Prod.mk.inj hnew
        exact .inr ⟨hfree, rfl⟩
      · exact .inl hold
    | fail _ _ _ | take _ _ _ | timeOut _ _ _ | drop _ _ =>
      exact .inl (PendingCalls.mem_waiting_forget.mp h).2
    | drift hpending =>
      left
      rw [← hpending]
      exact h
  | sent _ _ => exact .inl h
  | arrive m => exact .inl ((s.node.waiting_route_sublist m).subset h)

/-- The callers of before are still known, and no command is written twice. -/
theorem exists_step (hstep : Step s s') (hc : c ∈ s.callers) :
    ∃ c' ∈ s'.callers, c'.ticket = c.ticket ∧ c'.key = c.key
      ∧ (c'.stage = .sending → c.stage = .sending) := by
  have hturn (t : Ticket) {stage : Stage} (hstage : stage ≠ .sending) :
      ∃ c' ∈ s.callers.map (·.turn t stage), c'.ticket = c.ticket ∧ c'.key = c.key
        ∧ (c'.stage = .sending → c.stage = .sending) := by
    refine ⟨c.turn t stage, List.mem_map_of_mem hc, c.ticket_turn t stage, c.key_turn t stage, ?_⟩
    by_cases hticket : c.ticket = t
    · rw [c.turn_of_eq hticket]
      exact fun hsending => absurd hsending hstage
    · rw [c.turn_of_ne hticket]
      exact id
  cases hstep with
  | quiet hquiet =>
    cases hquiet with
    | call _ => exact ⟨c, List.mem_cons_of_mem _ hc, rfl, rfl, id⟩
    | fail _ _ _ | take _ _ _ | timeOut _ _ _ | drop _ _ => exact hturn _ nofun
    | drift _ => exact ⟨c, hc, rfl, rfl, id⟩
  | sent _ _ => exact hturn _ nofun
  | arrive m =>
    refine ⟨_, List.mem_map_of_mem hc, ?_⟩
    split
    · exact ⟨rfl, rfl, id⟩
    · exact ⟨rfl, rfl, id⟩

/-- A caller that writes its command did so before, or is a new one. -/
theorem sending_step (hstep : Step s s') (hc' : c' ∈ s'.callers) (hsending : c'.stage = .sending) :
    (∃ c ∈ s.callers, c.stage = .sending ∧ c.ticket = c'.ticket ∧ c.key = c'.key)
      ∨ (s.node.pending.ticket? c'.key = none ∧ c'.ticket = s.node.pending.next) := by
  have hturn {t : Ticket} {stage : Stage} (hmem : c' ∈ s.callers.map (·.turn t stage))
      (hstage : stage ≠ .sending) :
      ∃ c ∈ s.callers, c.stage = .sending ∧ c.ticket = c'.ticket ∧ c.key = c'.key := by
    obtain ⟨c, hc, rfl⟩ := List.mem_map.mp hmem
    by_cases hticket : c.ticket = t
    · rw [c.turn_of_eq hticket] at hsending
      exact absurd hsending hstage
    · rw [c.turn_of_ne hticket] at hsending ⊢
      exact ⟨c, hc, hsending, rfl, rfl⟩
  cases hstep with
  | quiet hquiet =>
    cases hquiet with
    | call hregister =>
      obtain ⟨hfree, rfl, _⟩ := PendingCalls.register_eq_some hregister
      rcases List.mem_cons.mp hc' with rfl | hc
      · exact .inr ⟨hfree, rfl⟩
      · exact .inl ⟨c', hc, hsending, rfl, rfl⟩
    | fail _ _ _ | take _ _ _ | timeOut _ _ _ | drop _ _ => exact .inl (hturn hc' nofun)
    | drift _ => exact .inl ⟨c', hc', hsending, rfl, rfl⟩
  | sent _ _ => exact .inl (hturn hc' nofun)
  | arrive m =>
    obtain ⟨c, hc, ⟨rfl, _⟩ | ⟨rfl, _⟩⟩ := mem_arrive hc'
    · exact .inl ⟨c', hc, hsending, rfl, rfl⟩
    · exact .inl ⟨c, hc, hsending, rfl, rfl⟩

theorem completed_advance {stage : Stage} (hc' : c' ∈ (s.advance t stage).callers)
    (ha : a ∈ c'.completedBy) :
    ∃ c ∈ s.callers, c.ticket = c'.ticket ∧ c.key = c'.key ∧ a ∈ c.completedBy := by
  obtain ⟨c, hc, rfl⟩ := List.mem_map.mp hc'
  rw [c.completedBy_turn] at ha
  exact ⟨c, hc, (c.ticket_turn _ _).symm, (c.key_turn _ _).symm, ha⟩

theorem completed_quiet (hquiet : Quiet s s') (hc' : c' ∈ s'.callers) (ha : a ∈ c'.completedBy) :
    ∃ c ∈ s.callers, c.ticket = c'.ticket ∧ c.key = c'.key ∧ a ∈ c.completedBy := by
  cases hquiet with
  | call _ =>
    rcases List.mem_cons.mp hc' with rfl | hc
    · cases ha
    · exact ⟨c', hc, rfl, rfl, ha⟩
  | fail _ _ _ | take _ _ _ | timeOut _ _ _ | drop _ _ => exact completed_advance hc' ha
  | drift _ => exact ⟨c', hc', rfl, rfl, ha⟩

theorem arrived_quiet (hquiet : Quiet s s') : s'.arrived = s.arrived := by
  cases hquiet <;> rfl

/-! ## The invariant -/

/-- The table and the callers fit. -/
structure Sound (s : CallLog) : Prop where
  keys_nodup : (s.node.pending.waiting.map Prod.fst).Nodup
  tickets_nodup : s.tickets.Nodup
  ticket_lt : ∀ t ∈ s.tickets, t < s.node.pending.next
  entry_owned {key : CallKey} {t : Ticket} : (key, t) ∈ s.node.pending.waiting → t ∈ s.tickets
  reply_owned {t : Ticket} : s.node.pending.replies t ≠ [] → t ∈ s.tickets
  fits : ∀ c ∈ s.callers, c.Fits s.node.pending
  /-- A call is completed by replies of its kind that have arrived. -/
  matching : ∀ c ∈ s.callers, ∀ a ∈ c.completedBy, a.number < s.arrived
    ∧ a.message.frame.isRequest = false ∧ a.message.replyKey = c.key
  /-- An arrival completes one call. -/
  single : ∀ c ∈ s.callers, ∀ c' ∈ s.callers, ∀ a ∈ c.completedBy, ∀ a' ∈ c'.completedBy,
    a.number = a'.number → c.ticket = c'.ticket

theorem mem_tickets (hc : c ∈ s.callers) : c.ticket ∈ s.tickets := List.mem_map_of_mem hc

namespace Sound

theorem start {node : Dispatcher} (hnone : node.pending = .none) : (start node).Sound where
  keys_nodup := by simp [CallLog.start, hnone, PendingCalls.none]
  tickets_nodup := List.nodup_nil
  ticket_lt := nofun
  entry_owned h := by simp [CallLog.start, hnone, PendingCalls.none] at h
  reply_owned h := by simp [CallLog.start, hnone, PendingCalls.none, PendingCalls.replies] at h
  fits := nofun
  matching := nofun
  single := nofun

theorem eq_of_ticket (h : s.Sound) (hc : c ∈ s.callers) (hc' : c' ∈ s.callers)
    (hticket : c.ticket = c'.ticket) : c = c' :=
  List.inj_on_of_nodup_map h.tickets_nodup hc hc' hticket

/-- Whoever has an entry waits under its own key, and was not completed. -/
theorem waits_of_entry (h : s.Sound) (hentry : (key, t) ∈ s.node.pending.waiting) :
    ∃ c ∈ s.callers, c.ticket = t ∧ c.key = key ∧ c.stage.isOpen = true ∧ c.completedBy = [] := by
  obtain ⟨c, hc, rfl⟩ := List.mem_map.mp (h.entry_owned hentry)
  obtain ⟨hopen, hkey, hnone⟩ := (h.fits c hc).waits_of_entry hentry
  exact ⟨c, hc, rfl, hkey.symm, hopen, hnone⟩

/-- Only the calls of a dispatcher matter. -/
theorem congr (h : s.Sound) {node : Dispatcher} (hpending : node.pending = s.node.pending) :
    Sound { s with node := node } := by
  constructor
  case keys_nodup =>
    rw [hpending]
    exact h.keys_nodup
  case tickets_nodup => exact h.tickets_nodup
  case ticket_lt =>
    rw [hpending]
    exact h.ticket_lt
  case entry_owned =>
    rw [hpending]
    exact h.entry_owned
  case reply_owned =>
    rw [hpending]
    exact h.reply_owned
  case fits =>
    rw [hpending]
    exact h.fits
  case matching => exact h.matching
  case single => exact h.single

/-- The ticket of a new call is nobody else's. -/
theorem enter (h : s.Sound) {p : PendingCalls}
    (hregister : s.node.pending.register key = (some t, p)) : (s.enter key t p).Sound := by
  obtain ⟨hfree, rfl, rfl⟩ := PendingCalls.register_eq_some hregister
  have hfresh : s.node.pending.next ∉ s.tickets :=
    fun hmem => Nat.lt_irrefl _ (h.ticket_lt _ hmem)
  have hnone : s.node.pending.replies s.node.pending.next = [] := by
    by_contra hreplies
    exact hfresh (h.reply_owned hreplies)
  constructor
  case keys_nodup =>
    refine List.nodup_cons.mpr ⟨fun hmem => ?_, h.keys_nodup⟩
    obtain ⟨⟨_, t⟩, hentry, rfl⟩ := List.mem_map.mp hmem
    exact PendingCalls.not_mem_of_ticket? hfree t hentry
  case tickets_nodup => exact List.nodup_cons.mpr ⟨hfresh, h.tickets_nodup⟩
  case ticket_lt =>
    refine List.forall_mem_cons.mpr ⟨Nat.lt_succ_self _, fun t ht => ?_⟩
    exact Nat.lt_succ_of_lt (h.ticket_lt t ht)
  case entry_owned =>
    intro key' t hentry
    rcases List.mem_cons.mp hentry with hnew | hold
    · exact List.mem_cons.mpr (.inl (congrArg Prod.snd hnew))
    · exact List.mem_cons_of_mem _ (h.entry_owned hold)
  case reply_owned => exact fun hreplies => List.mem_cons_of_mem _ (h.reply_owned hreplies)
  case fits =>
    refine List.forall_mem_cons.mpr ⟨.waits rfl (fun k => ?_) hnone rfl, fun c hc => ?_⟩
    · refine ⟨fun hentry => ?_, fun hk => List.mem_cons.mpr (.inl (by rw [hk]))⟩
      rcases List.mem_cons.mp hentry with hnew | hold
      · exact congrArg Prod.fst hnew
      · exact absurd (h.entry_owned hold) hfresh
    · refine (h.fits c hc).congr (fun k => ?_) rfl
      refine ⟨fun hentry => ?_, List.mem_cons_of_mem _⟩
      rcases List.mem_cons.mp hentry with hnew | hold
      · have hticket : c.ticket = s.node.pending.next := congrArg Prod.snd hnew
        exact absurd (hticket ▸ mem_tickets hc) hfresh
      · exact hold
  case matching =>
    intro c hc a ha
    rcases List.mem_cons.mp hc with rfl | hc
    · cases ha
    · exact h.matching c hc a ha
  case single =>
    intro c hc c' hc' a ha a' ha'
    rcases List.mem_cons.mp hc with rfl | hc
    · cases ha
    · rcases List.mem_cons.mp hc' with rfl | hc'
      · cases ha'
      · exact h.single c hc c' hc' a ha a' ha'

/-- Callers get to other stages, while the table loses nothing but what is theirs. -/
theorem turn (h : s.Sound) {stage : Stage} {p : PendingCalls}
    (hnext : p.next = s.node.pending.next)
    (hwaiting : p.waiting.Sublist s.node.pending.waiting)
    (hreplies : ∀ {t}, p.replies t ≠ [] → s.node.pending.replies t ≠ [])
    (hfits : ∀ c ∈ s.callers, (c.turn t stage).Fits p) :
    Sound { s.advance t stage with node := { s.node with pending := p } } := by
  have hmem {c' : Caller} (hc' : c' ∈ (s.advance t stage).callers) :
      ∃ c ∈ s.callers, c.turn t stage = c' := List.mem_map.mp hc'
  have htickets : tickets { s.advance t stage with node := { s.node with pending := p } }
      = s.tickets := s.tickets_advance t stage
  constructor
  case keys_nodup => exact (hwaiting.map Prod.fst).nodup h.keys_nodup
  case tickets_nodup =>
    rw [htickets]
    exact h.tickets_nodup
  case ticket_lt =>
    rw [htickets, hnext]
    exact h.ticket_lt
  case entry_owned =>
    rw [htickets]
    exact fun hentry => h.entry_owned (hwaiting.subset hentry)
  case reply_owned =>
    rw [htickets]
    exact fun hkept => h.reply_owned (hreplies hkept)
  case fits =>
    intro c' hc'
    obtain ⟨c, hc, rfl⟩ := hmem hc'
    exact hfits c hc
  case matching =>
    intro c' hc'
    obtain ⟨c, hc, rfl⟩ := hmem hc'
    rw [c.completedBy_turn t stage, c.key_turn t stage]
    exact h.matching c hc
  case single =>
    intro c₁' hc₁' c₂' hc₂'
    obtain ⟨c₁, hc₁, rfl⟩ := hmem hc₁'
    obtain ⟨c₂, hc₂, rfl⟩ := hmem hc₂'
    simp only [Caller.completedBy_turn, Caller.ticket_turn]
    exact h.single c₁ hc₁ c₂ hc₂

theorem advance (h : s.Sound) (hc : c ∈ s.callers) (hopen : c.stage.isOpen = true)
    {stage : Stage} (hstage : stage.isOpen = true) : (s.advance c.ticket stage).Sound := by
  refine h.turn rfl (List.Sublist.refl _) id fun c' hc' => ?_
  by_cases hticket : c'.ticket = c.ticket
  · obtain rfl := h.eq_of_ticket hc' hc hticket
    rw [c'.turn_of_eq rfl]
    cases h.fits c' hc' with
    | waits _ hown hnone hcompleted => exact .waits hstage hown hnone hcompleted
    | answered a _ hnone hreply hcompleted => exact .answered a hstage hnone hreply hcompleted
    | ended hended _ _ _ _ => exact absurd (hended.symm.trans hopen) Bool.false_ne_true
  · rw [c'.turn_of_ne hticket]
    exact h.fits c' hc'

theorem leave (h : s.Sound) {stage : Stage} (hended : stage.isOpen = false)
    (hreceived : ∀ r, stage = .received r → s.node.pending.reply? t = some r) :
    (s.leave t stage).Sound := by
  refine h.turn rfl List.filter_sublist ?_ fun c hc => ?_
  · intro t' hkept
    rw [PendingCalls.replies_forget] at hkept
    split at hkept
    · exact absurd rfl hkept
    · exact hkept
  · by_cases hticket : c.ticket = t
    · subst hticket
      rw [c.turn_of_eq rfl]
      exact (h.fits c hc).forget_self hended hreceived
    · rw [c.turn_of_ne hticket]
      exact (h.fits c hc).forget_of_ne hticket

theorem arrive (h : s.Sound) (m : Message) : (s.arrive m).Sound := by
  have hwaiting := s.node.waiting_route_sublist m
  constructor
  case keys_nodup => exact (hwaiting.map Prod.fst).nodup h.keys_nodup
  case tickets_nodup =>
    rw [tickets_arrive]
    exact h.tickets_nodup
  case ticket_lt =>
    intro t ht
    rw [tickets_arrive] at ht
    rw [show (s.arrive m).node.pending.next = _ from s.node.next_route m]
    exact h.ticket_lt t ht
  case entry_owned =>
    intro key t hentry
    rw [tickets_arrive]
    exact h.entry_owned (hwaiting.subset hentry)
  case reply_owned =>
    intro t hkept
    rw [tickets_arrive]
    by_cases hsame : (s.node.route m).2.pending.replies t = s.node.pending.replies t
    · exact h.reply_owned (hsame ▸ hkept)
    · exact h.entry_owned (Dispatcher.completes_of_replies_ne hsame).2.1
  case fits =>
    intro c' hc'
    obtain ⟨c, hc, ⟨rfl, hsame⟩ | ⟨rfl, _, hentry, hanswer⟩⟩ := mem_arrive hc'
    · exact (h.fits c' hc).route h.keys_nodup hsame
    · have hanswered := (h.fits c hc).answer_self (a := ⟨s.arrived, m⟩) hentry
      rw [← hanswer] at hanswered
      exact hanswered
  case matching =>
    intro c' hc' a ha
    obtain ⟨c, hc, ⟨rfl, _⟩ | ⟨rfl, hframe, hentry, _⟩⟩ := mem_arrive hc'
    · obtain ⟨hnumber, hmatching⟩ := h.matching c' hc a ha
      exact ⟨Nat.lt_succ_of_lt hnumber, hmatching⟩
    · obtain ⟨_, hkey, hnone⟩ := (h.fits c hc).waits_of_entry hentry
      rw [hnone, List.mem_singleton] at ha
      subst ha
      exact ⟨Nat.lt_succ_self _, hframe, hkey⟩
  case single =>
    -- The number of this arrival is a new one, and its key has one entry.
    have hold {c : Caller} (hc : c ∈ s.callers) {a : Arrival} (ha : a ∈ c.completedBy) :
        a.number ≠ s.arrived := Nat.ne_of_lt (h.matching c hc a ha).1
    have hnew {c : Caller} (hc : c ∈ s.callers)
        (hentry : (m.replyKey, c.ticket) ∈ s.node.pending.waiting) {a : Arrival}
        (ha : a ∈ (⟨s.arrived, m⟩ :: c.completedBy : List Arrival)) : a.number = s.arrived := by
      rw [((h.fits c hc).waits_of_entry hentry).2.2, List.mem_singleton] at ha
      rw [ha]
    intro c₁' hc₁' c₂' hc₂' a₁ ha₁ a₂ ha₂ hnumber
    obtain ⟨c₁, hc₁, ⟨rfl, _⟩ | ⟨rfl, _, hentry₁, _⟩⟩ := mem_arrive hc₁'
    · obtain ⟨c₂, hc₂, ⟨rfl, _⟩ | ⟨rfl, _, hentry₂, _⟩⟩ := mem_arrive hc₂'
      · exact h.single c₁' hc₁ c₂' hc₂ a₁ ha₁ a₂ ha₂ hnumber
      · exact absurd (hnumber.trans (hnew hc₂ hentry₂ ha₂)) (hold hc₁ ha₁)
    · obtain ⟨c₂, hc₂, ⟨rfl, _⟩ | ⟨rfl, _, hentry₂, _⟩⟩ := mem_arrive hc₂'
      · exact absurd (hnumber.symm.trans (hnew hc₁ hentry₁ ha₁)) (hold hc₂ ha₂)
      · exact PendingCalls.ticket_unique h.keys_nodup hentry₁ hentry₂

/-- Every step keeps the table and the callers fitting, -/
theorem step (h : s.Sound) (hstep : Step s s') : s'.Sound := by
  cases hstep with
  | quiet hquiet =>
    cases hquiet with
    | call hregister => exact h.enter hregister
    | fail error _ _ => exact h.leave rfl nofun
    | take hc _ hreply =>
      refine h.leave rfl fun r hr => ?_
      obtain rfl := Stage.received.inj hr
      exact hreply
    | timeOut _ _ _ => exact h.leave rfl nofun
    | drop _ _ => exact h.leave rfl nofun
    | drift hpending => exact h.congr hpending
  | sent hc hstage => exact h.advance hc (hstage ▸ rfl) rfl
  | arrive m => exact h.arrive m

/-- and so does every run. -/
theorem reaches (h : s.Sound) (hrun : Reaches s s') : s'.Sound := by
  induction hrun with
  | refl => exact h
  | tail _ hstep ih => exact ih.step hstep

end Sound

end CallLog

end ModuleBus

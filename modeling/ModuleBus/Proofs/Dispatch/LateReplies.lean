import ModuleBus.Proofs.Dispatch.Callers

set_option autoImplicit false

/-! # Whose reply it is

A reply carries no number: it completes the call that waits for its peer, service and message type,
whichever call it answers. Commands and answers travel in order and arbitrarily slowly, and every
command is answered at most once, but a call may be over long before its command is answered. If
then another call of the kind waits, the late reply is taken for its own.

What holds is decided at the moment at which a call is registered. If no other command of its kind
is outstanding then, nobody can register one while the call waits, so that its reply is its own
(`Secure`). If one is outstanding, some run lets that one's answer arrive first (`Misled`). -/

namespace ModuleBus

/-- A command on its way to a peer, with the ticket of the caller that has sent it. -/
structure Command where
  caller : Ticket
  key : CallKey
  payload : Bytes

/-- An answer on its way back, with the ticket of the caller whose command it answers. -/
structure Answer where
  caller : Ticket
  message : Message

/-- The callers of a dispatcher, and what is under way between it and its peers. -/
structure Traffic where
  log : CallLog
  /-- Commands that have not reached their peers, oldest first. -/
  outgoing : List Command
  /-- Commands that have, and were not answered. -/
  unanswered : List Command
  /-- Answers that have not arrived, oldest first. -/
  returning : List Answer
  /-- The callers whose commands were answered by the messages that have arrived, oldest first. -/
  origins : List Ticket

namespace Traffic

/-- Nothing is under way, and nobody has called. -/
def start (node : Dispatcher) : Traffic := ⟨.start node, [], [], [], []⟩

/-- One step. The links keep the order of messages, and the peers answer what they want to, when
they want to, but no command twice. -/
inductive Step : Traffic → Traffic → Prop
  | quiet {s : Traffic} {log : CallLog} : CallLog.Quiet s.log log → Step s { s with log := log }
  | send {s : Traffic} {c : Caller} (payload : Bytes) : c ∈ s.log.callers → c.stage = .sending →
      Step s { s with
        log := s.log.advance c.ticket .waiting
        outgoing := s.outgoing ++ [⟨c.ticket, c.key, payload⟩] }
  | reach {s : Traffic} {command : Command} {rest : List Command} :
      s.outgoing = command :: rest →
      Step s { s with outgoing := rest, unanswered := s.unanswered ++ [command] }
  | answer {s : Traffic} {command : Command} {before after : List Command} (m : Message) :
      s.unanswered = before ++ command :: after → m.frame.isRequest = false →
      m.replyKey = command.key →
      Step s { s with
        unanswered := before ++ after
        returning := s.returning ++ [⟨command.caller, m⟩] }
  | arrive {s : Traffic} {answer : Answer} {rest : List Answer} : s.returning = answer :: rest →
      Step s { s with
        log := s.log.arrive answer.message
        returning := rest
        origins := s.origins ++ [answer.caller] }

/-- A run leads from one state to another. -/
def Reaches : Traffic → Traffic → Prop := Relation.ReflTransGen Step

/-- A command of a kind, from the caller with a ticket, is still to be answered or its answer is
still to arrive. -/
inductive Outstanding (s : Traffic) (key : CallKey) (t : Ticket) : Prop
  | sending {c : Caller} : c ∈ s.log.callers → c.stage = .sending → c.ticket = t → c.key = key →
      Outstanding s key t
  | command {command : Command} : command ∈ s.outgoing ++ s.unanswered → command.caller = t →
      command.key = key → Outstanding s key t
  | returning {answer : Answer} : answer ∈ s.returning → answer.caller = t →
      answer.message.replyKey = key → Outstanding s key t

/-- The reply that completed a caller is the answer to the caller's own command. -/
def IsOwn (s : Traffic) (c : Caller) : Prop :=
  ∀ a ∈ c.completedBy, s.origins[a.number]? = some c.ticket

/-! ## Single steps -/

variable {s s' : Traffic} {c c' : Caller} {a : Arrival} {key : CallKey} {t : Ticket}

theorem log_step (hstep : Step s s') : s'.log = s.log ∨ CallLog.Step s.log s'.log := by
  cases hstep with
  | quiet hquiet => exact .inr (.quiet hquiet)
  | send _ hc hsending => exact .inr (.sent hc hsending)
  | reach _ => exact .inl rfl
  | answer _ _ _ _ => exact .inl rfl
  | arrive _ => exact .inr (.arrive _)

theorem exists_step (hstep : Step s s') (hc : c ∈ s.log.callers) :
    ∃ c' ∈ s'.log.callers, c'.ticket = c.ticket ∧ c'.key = c.key := by
  rcases log_step hstep with hlog | hlog
  · rw [hlog]
    exact ⟨c, hc, rfl, rfl⟩
  · obtain ⟨c', hc', hticket, hkey, _⟩ := CallLog.exists_step hlog hc
    exact ⟨c', hc', hticket, hkey⟩

/-- A command that comes under way is that of a caller who was about to send it. -/
theorem commands_step {command : Command} (hstep : Step s s')
    (h : command ∈ s'.outgoing ++ s'.unanswered) :
    command ∈ s.outgoing ++ s.unanswered
      ∨ ∃ c ∈ s.log.callers, c.stage = .sending ∧ c.ticket = command.caller ∧ c.key = command.key
        ∧ s'.log = s.log.advance c.ticket .waiting := by
  cases hstep with
  | quiet _ => exact .inl h
  | send payload hc hsending =>
    rw [List.append_assoc, List.mem_append] at h
    rcases h with hold | h
    · exact .inl (List.mem_append_left _ hold)
    · rcases List.mem_cons.mp h with rfl | hold
      · exact .inr ⟨_, hc, hsending, rfl, rfl, rfl⟩
      · exact .inl (List.mem_append_right _ hold)
  | reach houtgoing =>
    left
    rw [houtgoing]
    simp only [List.mem_append, List.mem_cons] at h ⊢
    tauto
  | answer _ hunanswered _ _ =>
    left
    rw [hunanswered]
    simp only [List.mem_append, List.mem_cons] at h ⊢
    tauto
  | arrive _ => exact .inl h

/-- An answer that comes under way answers a command. -/
theorem answers_step {answer : Answer} (hstep : Step s s') (h : answer ∈ s'.returning) :
    answer ∈ s.returning
      ∨ (answer.message.frame.isRequest = false ∧ ∃ command ∈ s.outgoing ++ s.unanswered,
        command.caller = answer.caller ∧ command.key = answer.message.replyKey) := by
  cases hstep with
  | quiet _ => exact .inl h
  | send _ _ _ => exact .inl h
  | reach _ => exact .inl h
  | answer _ hunanswered hframe hmatches =>
    rcases List.mem_append.mp h with hold | hnew
    · exact .inl hold
    · rw [List.mem_singleton] at hnew
      subst hnew
      refine .inr ⟨hframe, _, List.mem_append_right _ ?_, rfl, hmatches.symm⟩
      rw [hunanswered]
      exact List.mem_append_right _ List.mem_cons_self
  | arrive hreturning =>
    left
    rw [hreturning]
    exact List.mem_cons_of_mem _ h

/-- What is outstanding was so before, or belongs to a new call. -/
theorem outstanding_step (hstep : Step s s') (h : s'.Outstanding key t) :
    s.Outstanding key t
      ∨ (s.log.node.pending.ticket? key = none ∧ t = s.log.node.pending.next) := by
  cases h with
  | sending hc' hsending hticket hkey =>
    rcases log_step hstep with hlog | hlog
    · rw [hlog] at hc'
      exact .inl (.sending hc' hsending hticket hkey)
    · rcases CallLog.sending_step hlog hc' hsending with ⟨c, hc, hbefore, hsame, hsameKey⟩ | hnew
      · exact .inl (.sending hc hbefore (hsame.trans hticket) (hsameKey.trans hkey))
      · rw [hticket, hkey] at hnew
        exact .inr hnew
  | command hcommand hcaller hkey =>
    left
    rcases commands_step hstep hcommand with hold | ⟨c, hc, hsending, hticket, hsame, _⟩
    · exact .command hold hcaller hkey
    · exact .sending hc hsending (hticket.trans hcaller) (hsame.trans hkey)
  | returning hanswer hcaller hkey =>
    left
    rcases answers_step hstep hanswer with hold | ⟨_, command, hcommand, hticket, hsame⟩
    · exact .returning hold hcaller hkey
    · exact .command hcommand (hticket.trans hcaller) (hsame.trans hkey)

/-- A key that has an entry is not free, so that what is outstanding for it after a step was so
before. -/
theorem outstanding_of_entry (hstep : Step s s') {t' : Ticket}
    (hentry : (key, t) ∈ s'.log.node.pending.waiting) (hold : t < s.log.node.pending.next)
    (hout : s'.Outstanding key t') :
    (key, t) ∈ s.log.node.pending.waiting ∧ s.Outstanding key t' := by
  have hbefore : (key, t) ∈ s.log.node.pending.waiting := by
    rcases log_step hstep with hlog | hlog
    · rw [hlog] at hentry
      exact hentry
    · rcases CallLog.waiting_step hlog hentry with hbefore | ⟨_, rfl⟩
      · exact hbefore
      · exact absurd hold (Nat.lt_irrefl _)
  rcases outstanding_step hstep hout with hout | ⟨hfree, _⟩
  · exact ⟨hbefore, hout⟩
  · exact absurd hfree (PendingCalls.ticket?_ne_none hbefore)

/-- A step that completes a call is the arrival of an outstanding answer to its kind of command. -/
theorem completed_step (hstep : Step s s') (harrived : s.log.arrived = s.origins.length)
    (hc' : c' ∈ s'.log.callers) (ha : a ∈ c'.completedBy) :
    (∃ c ∈ s.log.callers, c.ticket = c'.ticket ∧ c.key = c'.key ∧ a ∈ c.completedBy)
      ∨ ∃ key t, (key, c'.ticket) ∈ s.log.node.pending.waiting ∧ s.Outstanding key t
        ∧ s'.origins[a.number]? = some t := by
  cases hstep with
  | quiet hquiet => exact .inl (CallLog.completed_quiet hquiet hc' ha)
  | send _ _ _ => exact .inl (CallLog.completed_advance hc' ha)
  | reach _ => exact .inl ⟨c', hc', rfl, rfl, ha⟩
  | answer _ _ _ _ => exact .inl ⟨c', hc', rfl, rfl, ha⟩
  | @arrive answer rest hreturning =>
    obtain ⟨c, hc, ⟨rfl, _⟩ | ⟨rfl, _, hentry, _⟩⟩ := CallLog.mem_arrive hc'
    · exact .inl ⟨c', hc, rfl, rfl, ha⟩
    · rcases List.mem_cons.mp ha with rfl | hold
      · have hmem : answer ∈ s.returning := hreturning ▸ List.mem_cons_self
        refine .inr ⟨_, answer.caller, hentry, .returning hmem rfl rfl, ?_⟩
        rw [harrived]
        exact List.getElem?_concat_length
      · exact .inl ⟨c, hc, rfl, rfl, hold⟩

theorem origins_step (hstep : Step s s') {n : Nat} (h : s.origins[n]? = some t) :
    s'.origins[n]? = some t := by
  cases hstep with
  | quiet _ => exact h
  | send _ _ _ => exact h
  | reach _ => exact h
  | answer _ _ _ _ => exact h
  | arrive _ =>
    obtain ⟨hlt, _⟩ := List.getElem?_eq_some_iff.mp h
    exact (List.getElem?_append_left hlt).trans h

/-! ## The invariant -/

/-- A caller has sent its command. -/
def HasSent (s : Traffic) (t : Ticket) (key : CallKey) : Prop :=
  ∃ c ∈ s.log.callers, c.ticket = t ∧ c.key = key ∧ c.stage ≠ .sending

/-- What is under way comes from callers, and what completes a call from the caller itself or from
an earlier one. -/
structure Sound (s : Traffic) : Prop where
  log : s.log.Sound
  arrived : s.log.arrived = s.origins.length
  commands : ∀ command ∈ s.outgoing ++ s.unanswered, s.HasSent command.caller command.key
  answers : ∀ answer ∈ s.returning, answer.message.frame.isRequest = false
    ∧ s.HasSent answer.caller answer.message.replyKey
  outstanding_le {key : CallKey} {t t' : Ticket} : (key, t) ∈ s.log.node.pending.waiting →
    s.Outstanding key t' → t' ≤ t
  completed : ∀ c ∈ s.log.callers, ∀ a ∈ c.completedBy, ∃ c₀ ∈ s.log.callers,
    c₀.key = c.key ∧ c₀.ticket ≤ c.ticket ∧ s.origins[a.number]? = some c₀.ticket

theorem HasSent.step (h : s.HasSent t key) (hstep : Step s s') : s'.HasSent t key := by
  obtain ⟨c, hc, rfl, rfl, hsent⟩ := h
  rcases log_step hstep with hlog | hlog
  · rw [HasSent, hlog]
    exact ⟨c, hc, rfl, rfl, hsent⟩
  · obtain ⟨c', hc', hticket, hkey, hsending⟩ := CallLog.exists_step hlog hc
    exact ⟨c', hc', hticket, hkey, mt hsending hsent⟩

namespace Sound

theorem start {node : Dispatcher} (hnone : node.pending = .none) : (start node).Sound where
  log := .start hnone
  arrived := rfl
  commands := nofun
  answers := nofun
  outstanding_le h := by simp [Traffic.start, CallLog.start, hnone, PendingCalls.none] at h
  completed := nofun

/-- Whatever is outstanding is some caller's. -/
theorem exists_caller (h : s.Sound) (hout : s.Outstanding key t) :
    ∃ c ∈ s.log.callers, c.ticket = t ∧ c.key = key := by
  cases hout with
  | sending hc _ hticket hkey => exact ⟨_, hc, hticket, hkey⟩
  | command hcommand hcaller hkey =>
    obtain ⟨c, hc, hticket, hsame, _⟩ := h.commands _ hcommand
    exact ⟨c, hc, hticket.trans hcaller, hsame.trans hkey⟩
  | returning hanswer hcaller hkey =>
    obtain ⟨_, c, hc, hticket, hsame, _⟩ := h.answers _ hanswer
    exact ⟨c, hc, hticket.trans hcaller, hsame.trans hkey⟩

theorem lt_of_outstanding (h : s.Sound) (hout : s.Outstanding key t) :
    t < s.log.node.pending.next := by
  obtain ⟨c, hc, rfl, _⟩ := h.exists_caller hout
  exact h.log.ticket_lt _ (CallLog.mem_tickets hc)

theorem step_log (h : s.Sound) (hstep : Step s s') : s'.log.Sound := by
  rcases log_step hstep with hlog | hlog
  · rw [hlog]
    exact h.log
  · exact h.log.step hlog

theorem step (h : s.Sound) (hstep : Step s s') : s'.Sound := by
  have hlog := h.step_log hstep
  constructor
  case log => exact hlog
  case arrived =>
    cases hstep with
    | quiet hquiet => exact (CallLog.arrived_quiet hquiet).trans h.arrived
    | send _ _ _ => exact h.arrived
    | reach _ => exact h.arrived
    | answer _ _ _ _ => exact h.arrived
    | arrive _ => simp [CallLog.arrive, h.arrived]
  case commands =>
    intro command hcommand
    rcases commands_step hstep hcommand with hold | ⟨c, hc, _, hticket, hkey, hadvance⟩
    · exact (h.commands _ hold).step hstep
    · rw [HasSent, hadvance]
      refine ⟨_, List.mem_map_of_mem hc, (c.ticket_turn _ _).trans hticket,
        (c.key_turn _ _).trans hkey, ?_⟩
      simp [c.turn_of_eq rfl]
  case answers =>
    intro answer hanswer
    rcases answers_step hstep hanswer with hold | ⟨hframe, command, hcommand, hticket, hkey⟩
    · exact ⟨(h.answers _ hold).1, (h.answers _ hold).2.step hstep⟩
    · rw [← hticket, ← hkey]
      exact ⟨hframe, (h.commands _ hcommand).step hstep⟩
  case outstanding_le =>
    intro key t t' hentry hout
    by_cases hold : t < s.log.node.pending.next
    · obtain ⟨hbefore, hout⟩ := outstanding_of_entry hstep hentry hold hout
      exact h.outstanding_le hbefore hout
    · -- The entry is that of a new call: its ticket is the newest.
      have hnewest : s.log.node.pending.next ≤ t := Nat.le_of_not_lt hold
      rcases outstanding_step hstep hout with hout | ⟨_, rfl⟩
      · exact Nat.le_trans (Nat.le_of_lt (h.lt_of_outstanding hout)) hnewest
      · exact hnewest
  case completed =>
    intro c' hc' a ha
    rcases completed_step hstep h.arrived hc' ha with
      ⟨c, hc, hticket, hkey, hold⟩ | ⟨key, t, hentry, hout, horigin⟩
    · obtain ⟨c₀, hc₀, hkey₀, hle, horigin⟩ := h.completed c hc a hold
      obtain ⟨c₀', hc₀', hticket₀, hsame₀⟩ := exists_step hstep hc₀
      refine ⟨c₀', hc₀', ?_, ?_, ?_⟩
      · rw [hsame₀, hkey₀, hkey]
      · rw [hticket₀, ← hticket]
        exact hle
      · rw [hticket₀]
        exact origins_step hstep horigin
    · -- This step completes the caller that waited under the key of the answer.
      obtain ⟨c, hc, hticket, hkey, _⟩ := h.log.waits_of_entry hentry
      obtain ⟨c₀, hc₀, rfl, hkey₀⟩ := h.exists_caller hout
      obtain ⟨c₀', hc₀', hticket₀, hsame₀⟩ := exists_step hstep hc₀
      obtain ⟨c'', hc'', hticket'', hkey''⟩ := exists_step hstep hc
      obtain rfl : c'' = c' := hlog.eq_of_ticket hc'' hc' (hticket''.trans hticket)
      refine ⟨c₀', hc₀', ?_, ?_, ?_⟩
      · rw [hsame₀, hkey₀, hkey'', hkey]
      · rw [hticket₀]
        exact h.outstanding_le hentry hout
      · rw [hticket₀]
        exact horigin

theorem reaches (h : s.Sound) (hrun : Reaches s s') : s'.Sound := by
  induction hrun with
  | refl => exact h
  | tail _ hstep ih => exact ih.step hstep

end Sound

/-! ## Nothing else is outstanding -/

/-- While the caller with the ticket `t` waits, no other command of its kind is outstanding, and no
reply but its own completes it. -/
structure Secure (s : Traffic) (key : CallKey) (t : Ticket) : Prop where
  known : ∃ c ∈ s.log.callers, c.ticket = t ∧ c.key = key
  alone {t' : Ticket} : (key, t) ∈ s.log.node.pending.waiting → s.Outstanding key t' → t' = t
  own : ∀ c ∈ s.log.callers, c.ticket = t → s.IsOwn c

theorem Secure.step (h : s.Secure key t) (hsound : s.Sound) (hstep : Step s s') :
    s'.Secure key t := by
  obtain ⟨c₀, hc₀, hticket₀, hkey₀⟩ := h.known
  constructor
  case known =>
    obtain ⟨c, hc, hticket, hkey⟩ := exists_step hstep hc₀
    exact ⟨c, hc, hticket.trans hticket₀, hkey.trans hkey₀⟩
  case alone =>
    intro t' hentry hout
    have hlt := hsound.log.ticket_lt _ (CallLog.mem_tickets hc₀)
    rw [hticket₀] at hlt
    obtain ⟨hbefore, hout⟩ := outstanding_of_entry hstep hentry hlt hout
    exact h.alone hbefore hout
  case own =>
    intro c' hc' hticket' a ha
    rcases completed_step hstep hsound.arrived hc' ha with
      ⟨c, hc, hticket, _, hold⟩ | ⟨key', t', hentry, hout, horigin⟩
    · have hown := h.own c hc (hticket.trans hticket') a hold
      rw [hticket] at hown
      exact origins_step hstep hown
    · -- The caller waited under its key, for which nothing but its own command was outstanding.
      obtain ⟨c, hc, hticket, hkey, _⟩ := hsound.log.waits_of_entry hentry
      obtain rfl : c = c₀ :=
        hsound.log.eq_of_ticket hc hc₀ (hticket.trans (hticket'.trans hticket₀.symm))
      rw [← hkey, hkey₀] at hout hentry
      rw [hticket'] at hentry ⊢
      rw [horigin, h.alone hentry hout]

theorem Secure.reaches (h : s.Secure key t) (hsound : s.Sound) (hrun : Reaches s s') :
    s'.Secure key t := by
  induction hrun with
  | refl => exact h
  | tail hbefore hstep ih => exact ih.step (hsound.reaches hbefore) hstep

/-! ## Something else is outstanding -/

/-- In some run, the caller with the ticket `t` receives a reply that is not its own. -/
def Misled (s : Traffic) (t : Ticket) : Prop :=
  ∃ s' c reply, Reaches s s' ∧ c ∈ s'.log.callers ∧ c.ticket = t ∧ c.stage = .received reply
    ∧ ¬s'.IsOwn c

theorem Misled.of_step (hstep : Step s s') (h : s'.Misled t) : s.Misled t := by
  obtain ⟨s'', c, reply, hrun, hc⟩ := h
  exact ⟨s'', c, reply, .head hstep hrun, hc⟩

/-- A call was registered, its command is about to be sent, and no reply was taken for its own. -/
structure Fresh (s : Traffic) (c : Caller) : Prop where
  sound : s.Sound
  mem : c ∈ s.log.callers
  sending : c.stage = .sending
  uncompleted : c.completedBy = []

namespace Fresh

theorem entry_iff (h : s.Fresh c) : (key, c.ticket) ∈ s.log.node.pending.waiting ↔ key = c.key :=
  (h.sound.log.fits c h.mem).entry_iff (h.sending ▸ rfl) h.uncompleted

/-- Whoever has sent a command is another caller. -/
theorem ne_of_hasSent (h : s.Fresh c) (hsent : s.HasSent t key) : t ≠ c.ticket := by
  rintro rfl
  obtain ⟨c', hc', hticket, _, hstage⟩ := hsent
  obtain rfl := h.sound.log.eq_of_ticket hc' h.mem hticket
  exact hstage h.sending

end Fresh

/-- A caller that was completed by another's reply goes on to receive it. -/
theorem misled_of_completed (h : s.Sound) (hc : c ∈ s.log.callers) (hsending : c.stage = .sending)
    (hcompleted : c.completedBy = [a]) (hforeign : s.origins[a.number]? ≠ some c.ticket) :
    s.Misled c.ticket := by
  have hreply : s.log.node.pending.reply? c.ticket = some a.message.toReply :=
    (h.log.fits c hc).reply?_eq_some (hsending ▸ rfl) hcompleted
  have hsent : { c with stage := .waiting } ∈ (s.log.advance c.ticket .waiting).callers :=
    List.mem_map.mpr ⟨c, hc, c.turn_of_eq rfl _⟩
  refine .of_step (.send [] hc hsending) ⟨_, { c with stage := .received a.message.toReply }, _,
    .single (.quiet (.take hsent rfl hreply)), ?_, rfl, rfl, fun hown => ?_⟩
  · exact List.mem_map.mpr ⟨_, hsent, Caller.turn_of_eq _ rfl _⟩
  · exact hforeign (hown a (hcompleted ▸ List.mem_cons_self))

/-- The next answer to arrive is to a command of the caller's kind. -/
theorem Fresh.misled_of_next (h : s.Fresh c) {answer : Answer} {rest : List Answer}
    (hreturning : s.returning = answer :: rest) (hkey : answer.message.replyKey = c.key) :
    s.Misled c.ticket := by
  have hmem : answer ∈ s.returning := hreturning ▸ List.mem_cons_self
  obtain ⟨hframe, hsent⟩ := h.sound.answers answer hmem
  have hstep : Step s _ := .arrive hreturning
  have hc' := CallLog.mem_arrive_of_entry h.mem h.sound.log.keys_nodup hframe (h.entry_iff.mpr hkey)
  have hforeign : (s.origins ++ [answer.caller])[s.log.arrived]? ≠ some c.ticket := by
    rw [h.sound.arrived, List.getElem?_concat_length]
    exact fun hsame => h.ne_of_hasSent hsent (Option.some.inj hsame)
  rw [h.uncompleted] at hc'
  have hmisled := misled_of_completed (h.sound.step hstep) hc' h.sending rfl hforeign
  exact .of_step hstep hmisled

/-- An answer is on its way. The answers before it arrive first, and if one of these is of the
caller's kind it is not the caller's either. -/
theorem Fresh.misled_of_returning {before after : List Answer} {answer : Answer} (h : s.Fresh c)
    (hreturning : s.returning = before ++ answer :: after)
    (hkey : answer.message.replyKey = c.key) : s.Misled c.ticket := by
  induction before generalizing s with
  | nil => exact h.misled_of_next hreturning hkey
  | cons first before ih =>
    by_cases hfirst : first.message.replyKey = c.key
    · exact h.misled_of_next hreturning hfirst
    · have hstep : Step s _ := .arrive hreturning
      have hc' := CallLog.mem_arrive_of_no_entry h.mem (mt h.entry_iff.mp hfirst)
      exact .of_step hstep (ih ⟨h.sound.step hstep, hc', h.sending, h.uncompleted⟩ rfl)

theorem Fresh.misled_of_unanswered (h : s.Fresh c) {command : Command}
    (hcommand : command ∈ s.unanswered) (hkey : command.key = c.key) : s.Misled c.ticket := by
  obtain ⟨before, after, hunanswered⟩ := List.append_of_mem hcommand
  have hstep : Step s _ := .answer
    ⟨command.key.peer, s.log.node.address, .response, command.key.service, command.key.type, []⟩
    hunanswered rfl rfl
  have hfresh : Fresh _ c := ⟨h.sound.step hstep, h.mem, h.sending, h.uncompleted⟩
  exact .of_step hstep (hfresh.misled_of_returning rfl hkey)

theorem Fresh.misled_of_outgoing {before after : List Command} {command : Command} (h : s.Fresh c)
    (houtgoing : s.outgoing = before ++ command :: after) (hkey : command.key = c.key) :
    s.Misled c.ticket := by
  induction before generalizing s with
  | nil =>
    have hstep : Step s _ := .reach houtgoing
    have hfresh : Fresh _ c := ⟨h.sound.step hstep, h.mem, h.sending, h.uncompleted⟩
    refine .of_step hstep (hfresh.misled_of_unanswered ?_ hkey)
    exact List.mem_append_right _ List.mem_cons_self
  | cons first before ih =>
    have hstep : Step s _ := .reach houtgoing
    exact .of_step hstep (ih ⟨h.sound.step hstep, h.mem, h.sending, h.uncompleted⟩ rfl)

/-- Whatever else of the caller's kind is outstanding may reach the caller first. -/
theorem Fresh.misled_of_outstanding (h : s.Fresh c) (hout : s.Outstanding c.key t)
    (hother : t ≠ c.ticket) : s.Misled c.ticket := by
  cases hout with
  | @sending c₀ hc₀ hsending hticket hkey =>
    have hne : c.ticket ≠ c₀.ticket := fun hsame => hother (hticket.symm.trans hsame.symm)
    have hstep : Step s _ := .send [] hc₀ hsending
    have hkept : c ∈ (s.log.advance c₀.ticket .waiting).callers :=
      List.mem_map.mpr ⟨c, h.mem, c.turn_of_ne hne _⟩
    refine .of_step hstep (Fresh.misled_of_outgoing ?_ rfl hkey)
    exact ⟨h.sound.step hstep, hkept, h.sending, h.uncompleted⟩
  | command hcommand _ hkey =>
    rcases List.mem_append.mp hcommand with houtgoing | hunanswered
    · obtain ⟨before, after, houtgoing⟩ := List.append_of_mem houtgoing
      exact h.misled_of_outgoing houtgoing hkey
    · exact h.misled_of_unanswered hunanswered hkey
  | returning hanswer _ hkey =>
    obtain ⟨before, after, hreturning⟩ := List.append_of_mem hanswer
    exact h.misled_of_returning hreturning hkey

/-! ## All runs -/

/-- **Whose reply it is.** Every reply that a call receives has arrived and answers a command of the
call's kind that was sent by the caller itself or by one before it. When a call is registered, all
runs bring it no reply but its own if and only if no other command of its kind is outstanding. -/
theorem replies_are_own_iff {node : Dispatcher} (hnone : node.pending = .none)
    (h : Reaches (start node) s) :
    (∀ c ∈ s.log.callers, ∀ reply, c.stage = .received reply →
      ∃ a, c.completedBy = [a] ∧ a.message.toReply = reply ∧ a.message.replyKey = c.key
        ∧ ∃ c₀ ∈ s.log.callers, c₀.key = c.key ∧ c₀.ticket ≤ c.ticket
          ∧ s.origins[a.number]? = some c₀.ticket)
    ∧ ∀ c ∈ s.log.callers, c.stage = .sending → c.completedBy = [] →
      ((∀ s' c' reply, Reaches s s' → c' ∈ s'.log.callers → c'.ticket = c.ticket →
          c'.stage = .received reply → s'.IsOwn c')
        ↔ ∀ t, s.Outstanding c.key t → t = c.ticket) := by
  have hsound : s.Sound := (Sound.start hnone).reaches h
  refine ⟨fun c hc reply hreceived => ?_, fun c hc hsending huncompleted => ⟨?_, ?_⟩⟩
  · obtain ⟨a, hcompleted, hreply⟩ := (hsound.log.fits c hc).exists_of_received hreceived
    have ha : a ∈ c.completedBy := hcompleted ▸ List.mem_cons_self
    exact ⟨a, hcompleted, hreply, (hsound.log.matching c hc a ha).2.2, hsound.completed c hc a ha⟩
  · intro hown t hout
    by_contra hother
    have hfresh : s.Fresh c := ⟨hsound, hc, hsending, huncompleted⟩
    obtain ⟨s', c', reply, hrun, hc', hticket, hreceived, hforeign⟩ :=
      hfresh.misled_of_outstanding hout hother
    exact hforeign (hown s' c' reply hrun hc' hticket hreceived)
  · intro halone s' c' reply hrun hc' hticket _
    have hsecure : s.Secure c.key c.ticket := by
      refine ⟨⟨c, hc, rfl, rfl⟩, fun _ hout => halone _ hout, fun c₁ hc₁ hsame a ha => ?_⟩
      obtain rfl := hsound.log.eq_of_ticket hc₁ hc hsame
      rw [huncompleted] at ha
      cases ha
    exact (hsecure.reaches hsound hrun).own c' hc' hticket

/-- A question to the controller's accounts. -/
def question : CallKey := ⟨.controller, .energy, 0⟩

/-- A module that has not called anybody. -/
def unheard : Traffic := start (.start 0 ⟨0x10⟩ {} [] 0)

/-- It asks; the question does not get through before the timeout; -/
def asked : Traffic where
  log := (unheard.log.enter question 0 (unheard.log.node.pending.register question).2).advance 0
    .waiting
  outgoing := [⟨0, question, [1]⟩]
  unanswered := []
  returning := []
  origins := []

/-- and it asks again. -/
def askedAgain : Traffic :=
  let timedOut := asked.log.leave 0 (.failed .timeout)
  { asked with log := timedOut.enter question 1 (timedOut.node.pending.register question).2 }

/-- The second call may receive the answer to the first one. -/
theorem late_reply_is_taken :
    ∃ s c reply, Reaches askedAgain s ∧ c ∈ s.log.callers ∧ c.ticket = 1
      ∧ c.stage = .received reply ∧ ¬s.IsOwn c := by
  have hregister : unheard.log.node.pending.register question
      = (some 0, (unheard.log.node.pending.register question).2) := rfl
  have hcalled : Reaches unheard _ := .single (.quiet (.call hregister))
  have hasked : Reaches unheard asked :=
    hcalled.tail (.send (c := ⟨question, 0, .sending, []⟩) [1] List.mem_cons_self rfl)
  have htimeOut : CallLog.Quiet asked.log (asked.log.leave 0 (.failed .timeout)) :=
    .timeOut (c := ⟨question, 0, .waiting, []⟩) List.mem_cons_self rfl rfl
  have htimedOut := hasked.tail (.quiet htimeOut)
  have hagain : Reaches unheard askedAgain := htimedOut.tail (.quiet (.call rfl))
  have howns := (replies_are_own_iff rfl hagain).2 _ List.mem_cons_self rfl rfl
  have hout : askedAgain.Outstanding question 0 := .command List.mem_cons_self rfl rfl
  by_contra hnever
  refine Nat.zero_ne_one (howns.mp (fun s' c' reply hrun hc' hticket hreceived => ?_) 0 hout)
  by_contra hforeign
  exact hnever ⟨s', c', reply, hrun, hc', hticket, hreceived, hforeign⟩

end Traffic

end ModuleBus

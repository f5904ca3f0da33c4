import ModuleBus.Proofs.Dispatch.Callers

set_option autoImplicit false

/-! # Concurrent calls stay in order

What a participant does to make a call, to look for its end, to give it up and to take in a message
are steps of the callers that share its dispatcher, so that all the calls of a participant together
are a run. In every run the table of waiting calls holds one entry for a key, no caller touches what
another has registered, a reply goes to one caller of its kind, and nothing stays behind. -/

namespace ModuleBus

/-- What a caller is given as its call ends; nothing if it has given the call up. -/
def Stage.result? : Stage → Option (Except DispatchError Bytes)
  | received reply => some (Call.answer reply)
  | failed error => some (.error error)
  | sending | waiting | dropped => none

namespace CallLog

variable {W : Type} {s : CallLog}

/-! ## What a participant does is a run -/

/-- A call that is started is registered, and its command written; or nothing of it stays. -/
theorem runs_start [Link W] (clock : Clock) (key : CallKey) (payload : Bytes) (timeout : Nat)
    {e : Endpoint W} (hnode : s.node = e.node) :
    ∃ s', Reaches s s' ∧ s'.node = (Call.start clock key payload timeout e).2.node
      ∧ ∀ call, (Call.start clock key payload timeout e).1 = .ok call →
        ∃ c ∈ s'.callers, c.key = key ∧ c.ticket = call.ticket ∧ c.stage = .waiting := by
  unfold Call.start
  split
  · exact ⟨s, .refl, hnode, nofun⟩
  · next t p hregister =>
    dsimp only
    have hentered : Reaches s (s.enter key t p) :=
      .single (.quiet (.call (hnode ▸ hregister)))
    obtain ⟨encoder, entropy, hsend⟩ :=
      (e.update fun d => { d with pending := p }).send_frame key.peer .command key.service key.type
        payload
    -- The command that goes out leaves the calls alone.
    have hwritten : Reaches s { s.enter key t p with
        node := { e.node with pending := p, encoder := encoder, entropy := entropy } } :=
      hentered.tail (.quiet (.drift rfl))
    split
    · next error e' hfailed =>
      rw [hfailed] at hsend
      refine ⟨_, hwritten.tail (.quiet (.fail error List.mem_cons_self rfl)), ?_, nofun⟩
      rw [Call.abandon, Endpoint.update, hsend]
      rfl
    · next e' hsent =>
      rw [hsent] at hsend
      refine ⟨_, hwritten.tail (.sent List.mem_cons_self rfl), hsend.symm, fun call hcall => ?_⟩
      obtain rfl := Except.ok.inj hcall
      exact ⟨_, List.mem_map_of_mem List.mem_cons_self, Caller.key_turn _ _ _,
        Caller.ticket_turn _ _ _, congrArg Caller.stage (Caller.turn_of_eq _ rfl _)⟩

variable {c : Caller} {call : Call} {e : Endpoint W}

theorem node_leave (hnode : s.node = e.node) (hticket : c.ticket = call.ticket) (stage : Stage) :
    (s.leave c.ticket stage).node = (call.abandon e).node := by
  rw [leave, Call.abandon, Endpoint.update, ← hnode, ← hticket]

/-- A call that has come to its end has received its reply or waited too long. -/
theorem runs_step (hc : c ∈ s.callers) (hstage : c.stage = .waiting)
    (hticket : c.ticket = call.ticket) (hnode : s.node = e.node) {clock : Clock}
    {result : Except DispatchError Bytes} {e' : Endpoint W}
    (h : call.step clock e = some (result, e')) :
    ∃ stage, Reaches s (s.leave c.ticket stage) ∧ (s.leave c.ticket stage).node = e'.node
      ∧ stage.result? = some result := by
  unfold Call.step at h
  split at h
  · next reply hreply =>
    cases h
    rw [← hticket, ← hnode] at hreply
    exact ⟨.received reply, .single (.quiet (.take hc hstage hreply)), node_leave hnode hticket _,
      rfl⟩
  · next hnone =>
    split at h
    · cases h
      rw [← hticket, ← hnode] at hnone
      exact ⟨.failed .timeout, .single (.quiet (.timeOut hc hstage hnone)),
        node_leave hnode hticket _, rfl⟩
    · cases h

/-- A call may be given up as long as it has not ended. -/
theorem runs_abandon (hc : c ∈ s.callers) (hopen : c.stage.isOpen = true)
    (hticket : c.ticket = call.ticket) (hnode : s.node = e.node) :
    Reaches s (s.leave c.ticket .dropped)
      ∧ (s.leave c.ticket .dropped).node = (call.abandon e).node :=
  ⟨.single (.quiet (.drop hc hopen)), node_leave hnode hticket _⟩

/-- The bytes of a message that is taken in arrive, or leave the calls alone. -/
theorem runs_accept (s : CallLog) (source : Address) (sealed : Bool) (bytes : Bytes) :
    ∃ s', Reaches s s' ∧ s'.node = (s.node.accept source sealed bytes).2 := by
  unfold Dispatcher.accept
  split
  · exact ⟨{ s with node := s.node.note .warning }, .single (.quiet (.drift rfl)), rfl⟩
  · split
    · next m _ => exact ⟨s.arrive m, .single (.arrive m), rfl⟩
    · exact ⟨s, .refl, rfl⟩
    · exact ⟨{ s with node := s.node.note .warning }, .single (.quiet (.drift rfl)), rfl⟩

/-! ## Order -/

/-- The calls on a dispatcher do not get into each other's way. -/
structure IsOrderly (s : CallLog) : Prop where
  /-- The table holds at most one entry for a key. -/
  keys_nodup : (s.node.pending.waiting.map Prod.fst).Nodup
  /-- A call whose key has an entry is refused as busy, and changes nothing. -/
  busy {W : Type} [Link W] {key : CallKey} {t : Ticket} (clock : Clock) (payload : Bytes)
    (timeout : Nat) (w : W) : (key, t) ∈ s.node.pending.waiting →
    Call.start clock key payload timeout ⟨s.node, w⟩ = (.error .busy, ⟨s.node, w⟩)
  /-- Every caller has a ticket of its own. -/
  tickets_nodup : (s.callers.map Caller.ticket).Nodup
  /-- An arrival completes at most one caller, -/
  one_caller {c c' : Caller} {a a' : Arrival} : c ∈ s.callers → c' ∈ s.callers →
    a ∈ c.completedBy → a' ∈ c'.completedBy → a.number = a'.number → c = c'
  /-- and only if it is a reply to a call of the caller's kind. -/
  own_key {c : Caller} {a : Arrival} : c ∈ s.callers → a ∈ c.completedBy →
    a.message.frame.isRequest = false ∧ a.message.replyKey = c.key
  /-- At most one arrival completes a caller, -/
  one_reply {c : Caller} : c ∈ s.callers → c.completedBy.length ≤ 1
  /-- and what the caller receives is the reply that has arrived. -/
  received {c : Caller} {reply : Reply} : c ∈ s.callers → c.stage = .received reply →
    ∃ a, c.completedBy = [a] ∧ a.message.toReply = reply
  /-- A caller that forgets its call never removes what another one has registered, nor the reply
  to it. -/
  clean_up {W : Type} {c c' : Caller} (timer : Timer) (w : W) : c ∈ s.callers → c' ∈ s.callers →
    c' ≠ c →
    (∀ key, (key, c'.ticket) ∈ s.node.pending.waiting →
      (key, c'.ticket) ∈ ((Call.mk c.ticket timer).abandon ⟨s.node, w⟩).node.pending.waiting)
    ∧ ((Call.mk c.ticket timer).abandon ⟨s.node, w⟩).node.pending.reply? c'.ticket
      = s.node.pending.reply? c'.ticket
  /-- Nothing waits if no call is in progress. -/
  none_left : (∀ c ∈ s.callers, c.stage.isOpen = false) → s.node.pending.count = 0

/-- What fits is in order. -/
theorem Sound.isOrderly (h : s.Sound) : s.IsOrderly where
  keys_nodup := h.keys_nodup
  busy clock payload timeout w hentry := by
    rw [Call.start, PendingCalls.register_busy hentry]
  tickets_nodup := h.tickets_nodup
  one_caller hc hc' ha ha' hnumber :=
    h.eq_of_ticket hc hc' (h.single _ hc _ hc' _ ha _ ha' hnumber)
  own_key hc ha := (h.matching _ hc _ ha).2
  one_reply hc := (h.fits _ hc).length_completedBy
  received hc hstage := (h.fits _ hc).exists_of_received hstage
  clean_up {_ c c'} timer w hc hc' hne := by
    have hticket : c'.ticket ≠ c.ticket := fun hsame => hne (h.eq_of_ticket hc' hc hsame)
    refine ⟨fun key hentry => ?_, ?_⟩
    · exact PendingCalls.mem_waiting_forget.mpr ⟨hticket, hentry⟩
    · rw [PendingCalls.reply?_eq_head?, PendingCalls.reply?_eq_head?, Call.abandon,
        Endpoint.update]
      dsimp only
      rw [PendingCalls.replies_forget, if_neg hticket]
  none_left hended := by
    refine List.length_eq_zero_iff.mpr (List.eq_nil_iff_forall_not_mem.mpr ?_)
    rintro ⟨key, t⟩ hentry
    obtain ⟨c, hc, _, _, hopen, _⟩ := h.waits_of_entry hentry
    exact Bool.false_ne_true ((hended c hc).symm.trans hopen)

/-- **Concurrent calls stay in order**, however the steps of any number of callers and the arrivals
of messages are interleaved on a dispatcher on which nobody had called before. -/
theorem isOrderly_of_reaches {node : Dispatcher} (hnone : node.pending = .none)
    (h : Reaches (start node) s) : s.IsOrderly :=
  ((Sound.start hnone).reaches h).isOrderly

/-- A module's sign of life. -/
def signOfLife : CallKey := ⟨.controller, .watchdog, 1⟩

/-- A module that has not called anybody. -/
def silentModule : CallLog := start (.start 0 ⟨0x10⟩ {} [] 0)

/-- It gives a sign of life, -/
def calledOnce : CallLog :=
  silentModule.enter signOfLife 0 (silentModule.node.pending.register signOfLife).2

/-- which is answered, -/
def answeredOnce : CallLog :=
  (calledOnce.advance 0 .waiting).arrive ⟨.controller, ⟨0x10⟩, .response, .watchdog, 1, []⟩

/-- and, before the caller resumes, another one. -/
def calledAgain : CallLog :=
  answeredOnce.enter signOfLife 1 (answeredOnce.node.pending.register signOfLife).2

/-- The first caller cleans up, and the second one goes on waiting under the same key. -/
theorem reregistered_call_waits_on :
    (signOfLife, 1) ∈
      ((Call.mk 0 ⟨0, 0⟩).abandon ⟨calledAgain.node, ()⟩).node.pending.waiting := by
  have hcalled : Reaches silentModule calledOnce := .single (.quiet (.call rfl))
  have hsent := hcalled.tail (.sent List.mem_cons_self rfl)
  have hanswered : Reaches silentModule answeredOnce := hsent.tail (.arrive _)
  have hagain : Reaches silentModule calledAgain := hanswered.tail (.quiet (.call rfl))
  have horderly : calledAgain.IsOrderly := isOrderly_of_reaches rfl hagain
  have hfirst : ∃ c ∈ calledAgain.callers, c.ticket = 0 := ⟨_, .tail _ (.head _), rfl⟩
  have hsecond : ∃ c ∈ calledAgain.callers, c.ticket = 1 := ⟨_, .head _, rfl⟩
  obtain ⟨c, hc, hticket⟩ := hfirst
  obtain ⟨c', hc', hticket'⟩ := hsecond
  have hne : c' ≠ c := by
    rintro rfl
    exact Nat.zero_ne_one (hticket.symm.trans hticket')
  have hkept := (horderly.clean_up ⟨0, 0⟩ () hc hc' hne).1 signOfLife
  rw [hticket, hticket'] at hkept
  exact hkept (by decide +kernel)

end CallLog

end ModuleBus

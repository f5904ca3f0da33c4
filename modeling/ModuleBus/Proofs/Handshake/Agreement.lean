import ModuleBus.Proofs.Handshake.Pairing

set_option autoImplicit false

/-! # Both sides hold the same key

Requests of attempts that a module has given up may still be on their way, and the controller may
hold a key of such an attempt. What makes the keys agree all the same is the order of the requests:
when the controller handles the request for a key of the attempt that goes on, all older requests
are handled or lost. So the key that it installs is neither replaced nor revoked any more, and the
point that it answers with is the one that the key was made with (`Pairing.Exchanges`). -/

namespace ModuleBus

namespace Pairing

variable {V W : Type}

/-! ## The invariant -/

/-- Module and controller hold the same key, the controller under an address. -/
def Agrees (p : Pairing V W) (a : Address) : Prop :=
  ∃ key, p.module.node.key? .controller = some key ∧ p.moment.endpoint.node.key? a = some key

/-- The reply to a call is on its way, or has arrived. -/
def HasReply (p : Pairing V W) (t : Ticket) (payload : Bytes) : Prop :=
  (∃ r ∈ p.replies, r.ticket = t ∧ r.message.payload = payload)
    ∨ p.module.node.pending.reply? t = some ⟨.response, payload⟩

/-- An exchange of points: its request is the newest one; and once that is answered no request is
left, and the controller holds the key that it made of the module's point. -/
structure Exchanges (s t : Suite) (p : Pairing V W) (a : Address) (secret : Nat) (call : Call) :
    Prop where
  address : p.module.address = a
  request : ∀ r ∈ p.requests, r.ticket = call.ticket →
    r.message = (Client.exchangeKey (s.publicPoint secret)).message a
  reply : ∀ {payload}, p.HasReply call.ticket payload → p.requests = [] ∧
    ∃ secret' key, payload = t.publicPoint secret'
      ∧ t.agree secret' (s.publicPoint secret) = .ok key
      ∧ p.moment.endpoint.node.key? a = some key

/-- What holds in every run, for the suites of the module and of the controller. -/
structure Consistent (s t : Suite) (p : Pairing V W) : Prop where
  moduleSuite : p.module.node.suite = s
  controllerSuite : p.moment.endpoint.node.suite = t
  keysMatch : p.moment.KeysMatch
  fresh : p.module.node.pending.IsFresh
  ordered : p.requests.Pairwise fun q r => q.ticket < r.ticket
  requests_lt : ∀ r ∈ p.requests, r.ticket < p.module.node.pending.next
  replies_lt : ∀ r ∈ p.replies, r.ticket < p.module.node.pending.next
  /-- The call that the handshake waits for is the newest one. -/
  newest : ∀ {call}, p.handshake.call? = some call →
    p.module.node.pending.next = call.ticket + 1
  exchanges : ∀ {a secret call}, p.handshake.waiting = .exchanging a secret call →
    p.Exchanges s t a secret call
  agrees : ∀ {a}, p.handshake.waiting = .finished a →
    p.module.address = a ∧ p.requests = [] ∧ p.Agrees a

variable {s t : Suite} {p p' : Pairing V W}

/-! ## The module -/

theorem request?_eq_none {h : Handshake} (hnone : h.call? = none) (e : Endpoint V) :
    h.request? e = none := by
  rw [Handshake.request?, hnone, Option.map_none]

theorem no_reply_of_fresh {t : Ticket} {payload : Bytes}
    (hreplies : ∀ r ∈ p.replies, r.ticket < t)
    (hpending : p.module.node.pending.replies t = []) : ¬p.HasReply t payload := by
  rintro (⟨r, hr, rfl, _⟩ | hreply)
  · exact absurd (hreplies r hr) (Nat.lt_irrefl _)
  · rw [PendingCalls.reply?_eq_head?, hpending] at hreply
    cases hreply

theorem Consistent.advance [Link V] [Lines V] (hcommutes : s.Commutes t) (h : p.Consistent s t)
    {hs : Handshake} {e : Endpoint V} {clock : Clock}
    (hstep : p.handshake.step clock p.module = some (hs, e)) :
    Consistent s t { p with
      handshake := hs, module := e, requests := p.requests ++ (hs.request? e).toList } := by
  obtain ⟨hprepares, hmoves⟩ := Handshake.moves_step hstep
  have hsuite : e.node.suite = s := hprepares.suite.trans h.moduleSuite
  have hreplies (r : Flight) (hr : r ∈ p.replies) : r.ticket < e.node.pending.next :=
    Nat.lt_of_lt_of_le (h.replies_lt r hr) hprepares.next
  have hrequests (r : Flight) (hr : r ∈ p.requests) : r.ticket < e.node.pending.next :=
    Nat.lt_of_lt_of_le (h.requests_lt r hr) hprepares.next
  cases hmoves with
  | called call hcall hticket hnext hfresh haddress hopen =>
    obtain ⟨m, hrequest⟩ : ∃ m, hs.request? e = some ⟨call.ticket, m⟩ := by
      rw [Handshake.request?, hcall]
      exact ⟨_, rfl⟩
    rw [hrequest]
    refine ⟨hsuite, h.controllerSuite, h.keysMatch, hprepares.fresh h.fresh, ?_, ?_, hreplies, ?_,
      ?_, ?_⟩
    · -- The new request is behind all others.
      refine List.pairwise_append.mpr ⟨h.ordered, List.pairwise_singleton _ _, fun q hq r hr => ?_⟩
      rw [Option.toList_some, List.mem_singleton] at hr
      subst hr
      exact Nat.lt_of_lt_of_le (h.requests_lt q hq) hticket
    · intro r hr
      rcases List.mem_append.mp hr with hr | hr
      · exact hrequests r hr
      · rw [Option.toList_some, List.mem_singleton] at hr
        subst hr
        exact hnext ▸ Nat.lt_succ_self _
    · intro call' hcall'
      rw [hcall] at hcall'
      cases hcall'
      exact hnext
    · intro a secret call' hwaiting
      obtain rfl : call' = call := by
        rw [Handshake.call?, hwaiting] at hcall
        exact Option.some.inj hcall
      refine ⟨haddress a secret hwaiting, fun r hr hr' => ?_, fun hreply => ?_⟩
      · rcases List.mem_append.mp hr with hr | hr
        · exact absurd hr' (Nat.ne_of_lt (Nat.lt_of_lt_of_le (h.requests_lt r hr) hticket))
        · rw [Option.toList_some, List.mem_singleton] at hr
          subst hr
          rw [Handshake.request?, hcall, Option.map_some, hwaiting] at hrequest
          cases hrequest
          rw [hsuite, haddress a secret hwaiting]
      · -- Nobody can have answered a call that has only just got its ticket.
        refine absurd hreply (no_reply_of_fresh (fun r hr => ?_) (hfresh h.fresh))
        exact Nat.lt_of_lt_of_le (h.replies_lt r hr) hticket
    · intro a hfinished
      rw [Handshake.address?, hfinished] at hopen
      cases hopen
  | waits hnone hopen =>
    rw [request?_eq_none hnone, Option.toList_none, List.append_nil]
    refine ⟨hsuite, h.controllerSuite, h.keysMatch, hprepares.fresh h.fresh, h.ordered, hrequests,
      hreplies, fun hcall => ?_, fun hwaiting => ?_, fun hfinished => ?_⟩
    · rw [hnone] at hcall
      cases hcall
    · rw [Handshake.call?, hwaiting] at hnone
      cases hnone
    · rw [Handshake.address?, hfinished] at hopen
      cases hopen
  | finished a secret call point key hwaiting hreply hagree hfinished haddress hkey =>
    have hnone : hs.call? = none := by rw [Handshake.call?, hfinished]
    rw [request?_eq_none hnone, Option.toList_none, List.append_nil]
    have hexchanges := h.exchanges hwaiting
    obtain ⟨hempty, secret', key', rfl, hagree', hkey'⟩ := hexchanges.reply (.inr hreply)
    refine ⟨hsuite, h.controllerSuite, h.keysMatch, hprepares.fresh h.fresh, h.ordered, hrequests,
      hreplies, fun hcall => ?_, fun hwaiting' => ?_, fun hfinished' => ?_⟩
    · rw [hnone] at hcall
      cases hcall
    · rw [hfinished] at hwaiting'
      cases hwaiting'
    · -- Each side has made its key of the other one's point.
      rw [hfinished] at hfinished'
      cases hfinished'
      rw [h.moduleSuite] at hagree
      exact ⟨haddress.trans hexchanges.address, hempty, key, hkey,
        hcommutes hagree hagree' ▸ hkey'⟩

/-- What reaches the module in between leaves its calls to their replies. -/
theorem Consistent.hears (h : p.Consistent s t) {e : Endpoint V} {replies : List Flight}
    (hsuite : e.node.suite = p.module.node.suite) (hkeys : e.node.keys = p.module.node.keys)
    (haddress : e.address = p.module.address)
    (hnext : e.node.pending.next = p.module.node.pending.next)
    (hfresh : e.node.pending.IsFresh) (hreplies : ∀ r ∈ replies, r ∈ p.replies)
    (hreply : ∀ {call payload}, p.handshake.call? = some call →
      e.node.pending.reply? call.ticket = some ⟨.response, payload⟩ →
      p.HasReply call.ticket payload) :
    Consistent s t { p with module := e, replies := replies } := by
  refine ⟨hsuite.trans h.moduleSuite, h.controllerSuite, h.keysMatch, hfresh, h.ordered, ?_, ?_, ?_,
    ?_, ?_⟩
  · exact hnext ▸ h.requests_lt
  · exact fun r hr => hnext ▸ h.replies_lt r (hreplies r hr)
  · exact fun hcall => hnext.trans (h.newest hcall)
  · intro a secret call hwaiting
    have hexchanges := h.exchanges hwaiting
    refine ⟨haddress.trans hexchanges.address, hexchanges.request, fun hhas => ?_⟩
    rcases hhas with ⟨r, hr, hticket, hpayload⟩ | harrived
    · exact hexchanges.reply (.inl ⟨r, hreplies r hr, hticket, hpayload⟩)
    · exact hexchanges.reply (hreply (by rw [Handshake.call?, hwaiting]) harrived)
  · intro a hfinished
    obtain ⟨ha, hempty, key, hkey, hkey'⟩ := h.agrees hfinished
    refine ⟨haddress.trans ha, hempty, key, ?_, hkey'⟩
    rw [← hkey, Dispatcher.key?, hkeys, Dispatcher.key?]

theorem Consistent.idle (h : p.Consistent s t) {e : Endpoint V} (hidle : Idles p.module e) :
    Consistent s t { p with module := e } :=
  h.hears hidle.suite hidle.keys hidle.address (by rw [hidle.pending])
    (by rw [hidle.pending]; exact h.fresh) (fun _ hr => hr)
    fun _ hreply => .inr (by rw [← hidle.pending]; exact hreply)

theorem Consistent.arrive (h : p.Consistent s t) (m : Message) {replies : List Flight}
    (hreplies : ∀ r ∈ replies, r ∈ p.replies)
    (hm : ∀ {call}, p.handshake.call? = some call → m.frame = .response →
      p.HasReply call.ticket m.payload) :
    Consistent s t ({ p with replies := replies }.arrive m) := by
  obtain ⟨pending, inbound, tally, hframe⟩ := p.module.node.route_frame m
  have hnode : (p.module.update fun d => (d.route m).2).node = (p.module.node.route m).2 := rfl
  refine h.hears (by rw [hnode, hframe]) (by rw [hnode, hframe]) ?_ (p.module.node.next_route m)
    (Dispatcher.isFresh_route h.fresh m) hreplies fun {call payload} hcall hreply => ?_
  · rw [Endpoint.address, hnode, hframe]
    rfl
  · rw [hnode] at hreply
    rcases p.module.node.pending_route_cases m with hsame | ⟨t', _, _, hanswer⟩
    · rw [hsame] at hreply
      exact .inr hreply
    · rw [hanswer, PendingCalls.reply?_eq_head?, PendingCalls.replies_answer] at hreply
      split at hreply
      · -- The message is the reply that the call takes.
        have htaken : m.toReply = ⟨.response, payload⟩ := Option.some.inj hreply
        obtain rfl : m.payload = payload := congrArg Reply.payload htaken
        exact hm hcall (congrArg Reply.frame htaken)
      · rw [← PendingCalls.reply?_eq_head?] at hreply
        exact .inr hreply

/-! ## The controller -/

section

variable [Board W] [Link W]

omit [Board W] [Link W] in
/-- What the controller does without a request of the module spares the key of the module. -/
theorem Consistent.spares (h : p.Consistent s t) {m : Moment W} {touched : Address → Prop}
    (hkeysMatch : m.KeysMatch) (hkeeps : KeepsKeys touched p.moment.endpoint m.endpoint)
    (hspared : ∀ a, p.taken? = some a → ¬touched a) :
    Consistent s t { p with moment := m } := by
  refine ⟨h.moduleSuite, hkeeps.suite.trans h.controllerSuite, hkeysMatch, h.fresh, h.ordered,
    h.requests_lt, h.replies_lt, h.newest, fun {a secret call} hwaiting => ?_,
    fun {a} hfinished => ?_⟩
  · have hexchanges := h.exchanges hwaiting
    have hkey := hkeeps.key a (hspared a (by rw [taken?, hwaiting]))
    refine ⟨hexchanges.address, hexchanges.request, fun hreply => ?_⟩
    obtain ⟨hempty, secret', key, hpayload, hagree, hheld⟩ := hexchanges.reply hreply
    exact ⟨hempty, secret', key, hpayload, hagree, hkey.trans hheld⟩
  · obtain ⟨ha, hempty, key, hkey, hheld⟩ := h.agrees hfinished
    have hsame := hkeeps.key a (hspared a (by rw [taken?, hfinished]))
    exact ⟨ha, hempty, key, hkey, hsame.trans hheld⟩

omit [Board W] [Link W] in
theorem Consistent.loseRequest (h : p.Consistent s t) {older newer : List Flight} {r : Flight}
    (hrequests : p.requests = older ++ r :: newer) :
    Consistent s t { p with requests := older ++ newer } := by
  have hsub : (older ++ newer).Sublist p.requests := by
    rw [hrequests]
    exact (List.Sublist.refl older).append (List.sublist_cons_self r newer)
  have hsome : p.requests ≠ [] := by simp [hrequests]
  refine ⟨h.moduleSuite, h.controllerSuite, h.keysMatch, h.fresh, h.ordered.sublist hsub,
    fun q hq => h.requests_lt q (hsub.subset hq), h.replies_lt, h.newest, fun hwaiting => ?_,
    fun hfinished => ?_⟩
  · -- The request was there to be lost, so nobody has answered the newest one.
    have hexchanges := h.exchanges hwaiting
    exact ⟨hexchanges.address, fun q hq => hexchanges.request q (hsub.subset hq),
      fun hreply => absurd (hexchanges.reply hreply).1 hsome⟩
  · exact absurd (h.agrees hfinished).2.1 hsome

theorem Consistent.handle (h : p.Consistent s t) (clock : Clock) {r : Flight} {rest : List Flight}
    (hrequests : p.requests = r :: rest) : (p.handle clock r rest).Consistent s t := by
  have hkeeps := Coordinator.keepsKeys_begin (c := p.moment.coordinator) (e := p.moment.endpoint)
    clock (.message r.message)
  have hsome : p.requests ≠ [] := by simp [hrequests]
  have hsub : rest.Sublist p.requests := by
    rw [hrequests]
    exact List.sublist_cons_self r rest
  have hr : r ∈ p.requests := by
    rw [hrequests]
    exact List.mem_cons_self
  -- A reply that is on its way is an older one, or the answer to this request.
  have hanswered {q : Flight} (hq : q ∈ (p.handle clock r rest).replies) : q ∈ p.replies ∨
      q.ticket = r.ticket ∧ p.moment.coordinator.answer? clock r.message p.moment.endpoint
        = some q.message.payload := by
    rcases List.mem_append.mp hq with hq | hq
    · exact .inl hq
    · obtain ⟨payload, hanswer, rfl⟩ := Option.map_eq_some_iff.mp (Option.mem_toList.mp hq)
      exact .inr ⟨rfl, hanswer⟩
  refine ⟨h.moduleSuite, hkeeps.suite.trans h.controllerSuite,
    Coordinator.keysMatch_begin clock h.keysMatch (.message r.message), h.fresh,
    h.ordered.sublist hsub,
    fun q hq => h.requests_lt q (hsub.subset hq), fun q hq => ?_, h.newest,
    fun {a secret call} hwaiting => ?_, fun hfinished => ?_⟩
  · rcases hanswered hq with hq | ⟨hticket, _⟩
    · exact h.replies_lt q hq
    · exact hticket ▸ h.requests_lt r hr
  · have hwaiting : p.handshake.waiting = .exchanging a secret call := hwaiting
    have hexchanges := h.exchanges hwaiting
    refine ⟨hexchanges.address, fun q hq => hexchanges.request q (hsub.subset hq),
      fun {payload} hreply => ?_⟩
    have hnew : ¬p.HasReply call.ticket payload := fun hold => hsome (hexchanges.reply hold).1
    obtain ⟨q, hq, hticket, rfl⟩ : ∃ q ∈ (p.handle clock r rest).replies,
        q.ticket = call.ticket ∧ q.message.payload = payload := by
      rcases hreply with hqueued | harrived
      · exact hqueued
      · exact absurd (.inr harrived) hnew
    rcases hanswered hq with hold | ⟨hanswer, hpayload⟩
    · exact absurd (.inl ⟨q, hold, hticket, rfl⟩) hnew
    · have hcurrent : r.ticket = call.ticket := hanswer.symm.trans hticket
      rw [hexchanges.request r hr hcurrent] at hpayload
      obtain ⟨hpoint, key, hagree, hkey⟩ := Coordinator.key?_of_answer? hpayload
      rw [h.controllerSuite] at hpoint hagree
      refine ⟨?_, _, key, hpoint, hagree, ?_⟩
      · -- No request is newer than that of the call that goes on.
        refine List.eq_nil_iff_forall_not_mem.mpr fun q' hq' => ?_
        have hordered := h.ordered
        rw [hrequests] at hordered
        have hlt := (List.pairwise_cons.mp hordered).1 q' hq'
        have hbound := h.requests_lt q' (hsub.subset hq')
        rw [h.newest (by rw [Handshake.call?, hwaiting]), ← hcurrent] at hbound
        exact absurd hbound (Nat.not_lt.mpr hlt)
      · rw [← hexchanges.request r hr hcurrent] at hkey
        exact hkey
  · exact absurd (h.agrees hfinished).2.1 hsome

/-- One step keeps what holds. -/
theorem Consistent.step [Link V] [Lines V] (hcommutes : s.Commutes t) (h : p.Consistent s t)
    (hstep : Step Coordinator.Touches p p') : p'.Consistent s t := by
  cases hstep with
  | advance clock hstep => exact h.advance hcommutes hstep
  | idle hidle => exact h.idle hidle
  | handle clock _ hrequests => exact h.handle clock hrequests
  | loseRequest hrequests => exact h.loseRequest hrequests
  | loseReply hreplies =>
    refine h.hears rfl rfl rfl rfl h.fresh (fun q hq => ?_) fun _ hreply => .inr hreply
    rw [hreplies]
    exact (List.append_sublist_append_left _).mpr (List.sublist_cons_self _ _) |>.subset hq
  | @deliver r rest call hreplies hcall hticket =>
    have hr : r ∈ p.replies := by
      rw [hreplies]
      exact List.mem_cons_self
    refine h.arrive r.message (fun q hq => ?_) fun hcall' _ => ?_
    · rw [hreplies]
      exact List.mem_cons_of_mem r hq
    · rw [hcall] at hcall'
      cases hcall'
      exact .inl ⟨r, hr, hticket, rfl⟩
  | refuse m hframe =>
    refine h.arrive m (fun _ hr => hr) fun _ hresponse => ?_
    rw [hframe] at hresponse
    cases hresponse
  | begin clock event hpause hspared =>
    exact h.spares (Coordinator.keysMatch_begin clock h.keysMatch event)
      (Coordinator.keepsKeys_begin clock event) hspared
  | resume clock hpause hspared =>
    exact h.spares (Coordinator.keysMatch_resume clock h.keysMatch _)
      (Coordinator.keepsKeys_resume clock _) hspared
  | drift hsuite hkeys =>
    have hkeeps : KeepsKeys (fun _ => False) p.moment.endpoint _ := .of_eq hsuite hkeys
    exact h.spares (Coordinator.KeysMatch.frame h.keysMatch rfl hkeys) hkeeps fun _ _ => id

/-! ## All runs -/

variable [Link V] [Lines V]

omit [Link V] [Link W] in
theorem consistent_start {settings : Settings} {now : Nat} {node : Dispatcher} {w : W}
    {handshake : HandshakeSettings} {name : String} {clock : Clock} {e : Endpoint V}
    (hempty : node.keys = []) (hfresh : e.node.pending.IsFresh) :
    (start handshake name clock e (.boot settings now node w)).Consistent e.node.suite
      node.suite where
  moduleSuite := rfl
  controllerSuite := rfl
  keysMatch := Moment.keysMatch_boot settings now w hempty
  fresh := hfresh
  ordered := .nil
  requests_lt := nofun
  replies_lt := nofun
  newest := nofun
  exchanges := nofun
  agrees := nofun

/-- **Both sides hold the same key.** However often a module begins its handshake anew, whatever is
lost on the way and whatever else the controller does in between, as long as its slot is not
power-cycled and nothing that others send concerns the key of the address that the module has taken
(nobody else declares or revokes it, binds another address to its slot or exchanges keys from
there): when the handshake ends with an address, the module answers there, the module table has a
slot for it that is flagged, and the key that the module holds for the controller is the one that
the controller holds for the address. -/
theorem keys_agree {settings : Settings} {now : Nat} {node : Dispatcher} {w : W}
    {handshake : HandshakeSettings} {name : String} {clock : Clock} {e : Endpoint V} {a : Address}
    (hcommutes : e.node.suite.Commutes node.suite) (hempty : node.keys = [])
    (hfresh : e.node.pending.IsFresh)
    (h : Reaches Coordinator.Touches (start handshake name clock e (.boot settings now node w)) p)
    (hfinished : p.handshake.address? = some a) :
    p.module.address = a
    ∧ (∃ slot, p.moment.coordinator.modules.slotOf? a = some slot
      ∧ (p.moment.coordinator.modules.get slot).hasKey = true)
    ∧ ∃ key, p.module.node.key? .controller = some key
      ∧ p.moment.endpoint.node.key? a = some key := by
  have hconsistent : p.Consistent e.node.suite node.suite := by
    clear hfinished
    induction h with
    | refl => exact consistent_start hempty hfresh
    | tail _ hstep ih => exact ih.step hcommutes hstep
  have hwaiting : p.handshake.waiting = .finished a := by
    rw [Handshake.address?] at hfinished
    split at hfinished
    · next hwaiting =>
      cases hfinished
      exact hwaiting
    · cases hfinished
  obtain ⟨haddress, _, key, hkey, hheld⟩ := hconsistent.agrees hwaiting
  -- The module table knows the keys, so the slot of the address is flagged.
  have hhas : p.moment.endpoint.node.hasKey a = true := by rw [Dispatcher.hasKey, hheld]; rfl
  refine ⟨haddress, ?_, key, hkey, hheld⟩
  cases hslot : p.moment.coordinator.modules.slotOf? a with
  | none =>
    obtain ⟨slot, ha⟩ := hconsistent.keysMatch.exists_slot hhas
    exact absurd ha (ModuleTable.address_ne_of_slotOf? hslot slot)
  | some slot =>
    have ha := ModuleTable.address_of_slotOf? hslot
    exact ⟨slot, rfl, (hconsistent.keysMatch.hasKey_iff slot).mpr ⟨a, ha, hhas⟩⟩

/-! ### A handshake that ends -/

/-- The module answers at its address in the world that the controller is in. -/
def readdress (p : Pairing V W) : Pairing V W :=
  { p with moment := { p.moment with endpoint := { p.moment.endpoint with
    world := Link.setAddress p.module.node.port p.module.address p.moment.endpoint.world } } }

/-- The controller handles the oldest request, if there is one. -/
def handleNext (p : Pairing V W) (clock : Clock) : Pairing V W :=
  match p.requests, p.moment.pause with
  | r :: rest, none => p.handle clock r rest
  | _, _ => p

/-- The oldest reply arrives, if its call has not ended. -/
def deliverNext (p : Pairing V W) : Pairing V W :=
  match p.replies, p.handshake.call? with
  | r :: rest, some call =>
    if r.ticket = call.ticket then { p with replies := rest }.arrive r.message else p
  | _, _ => p

/-- The module goes on if it can. -/
def goOn (p : Pairing V W) (clock : Clock) : Pairing V W :=
  match p.handshake.step clock p.module with
  | some (h, e) =>
    { p with handshake := h, module := e, requests := p.requests ++ (h.request? e).toList }
  | none => p

/-- The controller handles a request, a reply arrives, and the module goes on. -/
def turn (p : Pairing V W) (clock : Clock) : Pairing V W :=
  ((p.readdress.handleNext clock).deliverNext).goOn clock

variable {touches : Coordinator → Event → Address → Prop}

theorem reaches_handleNext (p : Pairing V W) (clock : Clock) :
    Reaches touches p (p.readdress.handleNext clock) := by
  have hreaddress : Reaches touches p p.readdress := .single (.drift rfl rfl)
  refine hreaddress.trans ?_
  unfold handleNext
  split
  · next hrequests hpause => exact .single (.handle clock hpause hrequests)
  · exact .refl

theorem reaches_goOn (p : Pairing V W) (clock : Clock) :
    Reaches touches p (p.deliverNext.goOn clock) := by
  have hdeliver : Reaches touches p p.deliverNext := by
    unfold deliverNext
    split
    · next hreplies hcall =>
      split
      · next hticket => exact .single (.deliver hreplies hcall hticket)
      · exact .refl
    · exact .refl
  refine hdeliver.trans ?_
  unfold goOn
  split
  · next hstep => exact .single (.advance clock hstep)
  · exact .refl

theorem reaches_turn (p : Pairing V W) (clock : Clock) : Reaches touches p (p.turn clock) :=
  (reaches_handleNext p clock).trans (reaches_goOn _ clock)

end

/-- A suite that hides nothing: a key is the product of two secrets. -/
def productSuite : Suite where
  lock _ _ plain := plain
  unlock _ sealed := .ok sealed
  publicPoint secret := [UInt8.ofNat secret]
  agree secret point := .ok ⟨point.map (UInt8.ofNat secret * ·)⟩

theorem productSuite_commutes : productSuite.Commutes productSuite := by
  intro m c k k' hk hk'
  cases hk
  cases hk'
  simp [productSuite, UInt8.mul_comm]

/-- A backplane with the ports of the controller and of a module in the first slot, which asks for
the bus and is granted it. -/
def connected : Backplane :=
  { Backplane.quiet true [⟨Slot.controller, .controller, []⟩, ⟨Slot.first, .unassigned, []⟩] with
    requests := PerSlot.constant true, grants := PerSlot.constant true }

/-- The module, which has no address yet. -/
def moduleNode : Dispatcher := { Dispatcher.start 1 .unassigned {} [] 1 with suite := productSuite }

/-- The controller. -/
def controllerNode : Dispatcher :=
  { Dispatcher.start 0 .controller {} Coordinator.services 0 with suite := productSuite }

/-- The controller has booted and the module begins its handshake. -/
def begun : Pairing Backplane Backplane :=
  start {} "m" ⟨0, 0⟩ ⟨moduleNode, connected⟩ (.boot {} 0 controllerNode connected)

/-- The controller grants the bus; the module waits, declares itself and asks for a key. -/
def asking : Pairing Backplane Backplane :=
  ((({ begun with moment := begun.moment.begin ⟨0, 1⟩ .tick }.turn ⟨0, 2⟩).turn
    ⟨ofMillis 50, 3⟩).turn ⟨ofMillis 550, 4⟩).turn ⟨ofMillis 550, 5⟩

theorem reaches_asking {touches : Coordinator → Event → Address → Prop} :
    Reaches touches begun asking := by
  have hgranted : Reaches touches begun
      { begun with moment := begun.moment.begin ⟨0, 1⟩ .tick } :=
    .single (.begin ⟨0, 1⟩ .tick rfl nofun)
  exact (((hgranted.trans (reaches_turn _ _)).trans (reaches_turn _ _)).trans
    (reaches_turn _ _)).trans (reaches_turn _ _)

/-- The controller answers, and the handshake ends. -/
def ended : Pairing Backplane Backplane := asking.turn ⟨ofMillis 550, 6⟩

/-- A handshake that meets no obstacle ends with the key of the module's slot. -/
theorem handshake_shares_key :
    ended.handshake.address? = some Slot.first.assignedAddress
      ∧ ∃ key, ended.module.node.key? .controller = some key
        ∧ ended.moment.endpoint.node.key? Slot.first.assignedAddress = some key := by
  have hended : Reaches Coordinator.Touches begun ended := reaches_asking.trans (reaches_turn _ _)
  have hfinished : ended.handshake.address? = some Slot.first.assignedAddress := by decide +kernel
  have hfresh : moduleNode.pending.IsFresh := fun _ _ => ⟨rfl, fun _ => List.not_mem_nil⟩
  exact ⟨hfinished, (keys_agree productSuite_commutes rfl hfresh hended hfinished).2.2⟩

/-! ### Others that speak while the module waits for its key -/

/-- Somebody else's message is handled behind the module's request for a key, before the answer
arrives and the handshake ends. -/
def interrupted (m : Message) : Pairing Backplane Backplane :=
  let p := asking.readdress.handleNext ⟨ofMillis 550, 6⟩
  { p with moment := p.moment.begin ⟨ofMillis 550, 7⟩ (.message m) }.deliverNext.goOn
    ⟨ofMillis 550, 8⟩

theorem reaches_interrupted {touches : Coordinator → Event → Address → Prop} {m : Message}
    (hspared : ∀ c, ¬touches c (.message m) Slot.first.assignedAddress) :
    Reaches touches begun (interrupted m) := by
  have htaken : (asking.readdress.handleNext ⟨ofMillis 550, 6⟩).taken?
      = some Slot.first.assignedAddress := by decide +kernel
  have hanswered : Reaches touches begun (asking.readdress.handleNext ⟨ofMillis 550, 6⟩) :=
    reaches_asking.trans (reaches_handleNext _ _)
  have hheard := hanswered.tail (.begin ⟨ofMillis 550, 7⟩ (.message m) (by decide +kernel)
    fun a ha => by
      rw [htaken] at ha
      cases ha
      exact hspared _)
  exact hheard.trans (reaches_goOn _ ⟨ofMillis 550, 8⟩)

/-- Somebody who has an address of its own declares it. -/
def ownDeclaration : Message := (Client.declare "n").message ⟨0x11⟩

/-- Somebody asks for a key from the address that the module has taken. -/
def foreignExchange : Message := (Client.exchangeKey [7]).message Slot.first.assignedAddress

/-- It is not enough that nobody else declares or revokes the address. A declaration of another
address gives it to the slot that holds the bus, and the address of the module is known no more;
and an exchange of keys from the address leaves the controller with another key. -/
theorem unnamed_address_may_lose_key :
    (∃ p, Reaches Coordinator.Names begun p
      ∧ p.handshake.address? = some Slot.first.assignedAddress
      ∧ p.moment.coordinator.modules.slotOf? Slot.first.assignedAddress = none
      ∧ p.moment.endpoint.node.key? Slot.first.assignedAddress = none)
    ∧ ∃ p, Reaches Coordinator.Names begun p
      ∧ p.handshake.address? = some Slot.first.assignedAddress
      ∧ p.module.node.key? .controller
        ≠ p.moment.endpoint.node.key? Slot.first.assignedAddress := by
  constructor
  · refine ⟨interrupted ownDeclaration, reaches_interrupted fun c hnames => ?_, by decide +kernel,
      by decide +kernel, by decide +kernel⟩
    obtain ⟨-, s, -, hbound⟩ := hnames
    rw [Message.bound, if_neg (by decide)] at hbound
    exact absurd hbound (by decide)
  · exact ⟨interrupted foreignExchange, reaches_interrupted fun c hnames => hnames.2,
      by decide +kernel, by decide +kernel⟩

end Pairing

end ModuleBus

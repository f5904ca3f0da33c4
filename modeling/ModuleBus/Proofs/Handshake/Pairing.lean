import ModuleBus.Proofs.Controller.KeyChanges
import ModuleBus.Proofs.Handshake.Steps

set_option autoImplicit false

/-! # A module in its handshake and the controller

A module goes through its handshake with the controller over two queues, one for its requests and
one for the replies; either may lose messages. The module gives attempts up on a timeout, an error
or the loss of the grant and begins new ones, and the grant may be given and withdrawn at any time.
The controller handles whatever else it handles in between. Three things are ruled out: a reply does
not arrive when its call has ended; while the module has taken an address, nothing that others send
concerns its key, as a relation between events and addresses says that is a parameter of the steps;
and the slot is not power-cycled. -/

namespace ModuleBus

/-- The keys that two participants make of each other's points are the same. -/
def Suite.Commutes (s t : Suite) : Prop :=
  ∀ {m c : Nat} {k k' : SessionKey},
    s.agree m (t.publicPoint c) = .ok k → t.agree c (s.publicPoint m) = .ok k' → k = k'

/-! ## The controller's answers -/

namespace Coordinator

variable {W : Type} [Board W] [Link W] {c : Coordinator} {m : Message} {clock : Clock}
  {e : Endpoint W} {payload : Bytes}

/-- The reply to a declaration or to a request for a key, if it could be written. -/
def answer? (c : Coordinator) (clock : Clock) (m : Message) (e : Endpoint W) : Option Bytes :=
  match (c.handle clock m e).1 with
  | .error _ => none
  | .ok _ =>
    match InitializationRequest.ofByte? m.type with
    | some .declare => c.isolation.holder.map fun s => [(m.bound s).value]
    | some .exchangeKey => some (e.node.suite.publicPoint e.node.entropy.secret)
    | _ => none

omit [Board W] in
theorem written_of_reply {pause : Option Pause} (h : (c.reply m payload e).1 = .ok pause) :
    ∃ written, (e.reply m payload).1 = .ok written := by
  unfold reply at h
  dsimp only at h
  cases hwritten : (e.reply m payload).1 with
  | ok written => exact ⟨written, rfl⟩
  | error error =>
    rw [hwritten] at h
    cases h

omit [Board W] in
theorem exchangeKey_eq_ok {pause : Option Pause} (h : (c.exchangeKey m e).1 = .ok pause) :
    ∃ key, e.node.suite.agree e.node.entropy.secret m.payload = .ok key
      ∧ (c.exchangeKey m e).2.2.node.key? m.source = some key
      ∧ ∃ e₁ : Endpoint W, e₁.world = e.world
        ∧ (∃ written, (e₁.reply m (e.node.suite.publicPoint e.node.entropy.secret)).1 = .ok written)
        ∧ (c.exchangeKey m e).2.2.world
          = (e₁.reply m (e.node.suite.publicPoint e.node.entropy.secret)).2.world := by
  unfold exchangeKey at h ⊢
  split at h
  · cases h
  · dsimp only at h ⊢
    split at h
    · cases h
    · next key hagree =>
      split at h
      · cases h
      · next c' e' hreply =>
        rw [hagree]
        refine ⟨key, rfl, ?_, e.update fun d => { d with entropy := d.entropy.next }, rfl, ?_, ?_⟩
        · exact Dispatcher.key?_installKey_self _ _ _
        · exact written_of_reply (congrArg Prod.fst hreply)
        · exact (congrArg (fun result => result.2.2.world) hreply).symm

/-- Such a reply is what the controller has written, and nothing else. -/
theorem exists_reply_of_answer? (hservice : m.service = .initialization)
    (h : c.answer? clock m e = some payload) :
    ∃ e₁ : Endpoint W, e₁.world = e.world
      ∧ (∃ written, (e₁.reply m payload).1 = .ok written)
      ∧ (c.handle clock m e).2.2.world = (e₁.reply m payload).2.world := by
  rw [answer?] at h
  rw [handle, hservice] at h ⊢
  dsimp only at h ⊢
  split at h
  · cases h
  · next pause hok =>
    split at h
    · next htype =>
      obtain ⟨s, hs, rfl⟩ := Option.map_eq_some_iff.mp h
      simp only [handleInitialization, htype, declare, hs] at hok ⊢
      refine ⟨_, ?_, written_of_reply hok, rfl⟩
      split <;> rfl
    · next htype =>
      cases h
      simp only [handleInitialization, htype] at hok ⊢
      obtain ⟨_, _, _, hreply⟩ := exchangeKey_eq_ok hok
      exact hreply
    · cases h

/-- The key is held as soon as its request is answered. -/
theorem key?_of_answer? {source : Address} {point : Bytes}
    (h : c.answer? clock ((Client.exchangeKey point).message source) e = some payload) :
    payload = e.node.suite.publicPoint e.node.entropy.secret
      ∧ ∃ key, e.node.suite.agree e.node.entropy.secret point = .ok key
        ∧ (c.begin clock (.message ((Client.exchangeKey point).message source)) e).2.2.node.key?
          source = some key := by
  have hhandle : c.handle clock ((Client.exchangeKey point).message source) e
      = c.exchangeKey ((Client.exchangeKey point).message source) e := rfl
  rw [answer?, hhandle] at h
  split at h
  · cases h
  · next pause hok =>
    obtain ⟨key, hagree, hkey, _⟩ := exchangeKey_eq_ok hok
    refine ⟨(Option.some.inj h).symm, key, hagree, ?_⟩
    rw [begin, receive, hhandle]
    split
    · next heq =>
      rw [heq] at hkey
      exact hkey
    · next heq =>
      rw [heq] at hok
      cases hok

end Coordinator

/-! ## A module and the controller -/

/-- A message on its way, and the call that it belongs to. -/
structure Flight where
  ticket : Ticket
  message : Message

/-- The request that a handshake has just sent. -/
def Handshake.request? {V : Type} (h : Handshake) (e : Endpoint V) : Option Flight :=
  h.call?.map fun call => ⟨call.ticket, match h.waiting with
    | .exchanging _ secret _ =>
      (Client.exchangeKey (e.node.suite.publicPoint secret)).message e.address
    | _ => (Client.declare h.name).message e.address⟩

/-- A module in its handshake, the controller, and the messages between them, oldest first. -/
structure Pairing (V W : Type) where
  handshake : Handshake
  module : Endpoint V
  moment : Moment W
  requests : List Flight
  replies : List Flight

namespace Pairing

variable {V W : Type}

/-- The address that the module has taken in the attempt that goes on. -/
def taken? (p : Pairing V W) : Option Address :=
  match p.handshake.waiting with
  | .exchanging a _ _ | .finished a => some a
  | _ => none

/-- What the module's handshake does not see, or only by the grant. -/
structure Idles (e e' : Endpoint V) : Prop where
  suite : e'.node.suite = e.node.suite
  keys : e'.node.keys = e.node.keys
  pending : e'.node.pending = e.node.pending
  address : e'.address = e.address

section

variable [Link V] [Lines V] [Board W] [Link W]

/-- A module begins its handshake. -/
def start (settings : HandshakeSettings) (name : String) (clock : Clock) (e : Endpoint V)
    (m : Moment W) : Pairing V W :=
  let (h, e) := Handshake.start settings name clock e
  ⟨h, e, m, [], []⟩

/-- The controller handles the oldest request. -/
def handle (p : Pairing V W) (clock : Clock) (r : Flight) (rest : List Flight) : Pairing V W :=
  let answer := p.moment.coordinator.answer? clock r.message p.moment.endpoint
  { p with
    moment := p.moment.begin clock (.message r.message)
    requests := rest
    replies := p.replies ++ (answer.map fun payload =>
      ⟨r.ticket, { r.message with
        source := .controller, destination := r.message.source, frame := .response,
        payload := payload }⟩).toList }

/-- A message arrives at the module. -/
def arrive (p : Pairing V W) (m : Message) : Pairing V W :=
  { p with module := p.module.update fun d => (d.route m).2 }

/-- One step of the module, of the controller, or of what is between them. While the module has
taken an address, the controller handles no event of others that touches it. -/
inductive Step (touches : Coordinator → Event → Address → Prop) :
    Pairing V W → Pairing V W → Prop where
  | advance {p : Pairing V W} {h : Handshake} {e : Endpoint V} (clock : Clock)
      (hstep : p.handshake.step clock p.module = some (h, e)) :
      Step touches p
        { p with handshake := h, module := e, requests := p.requests ++ (h.request? e).toList }
  /-- The grant is given or withdrawn, or something else happens around the module. -/
  | idle {p : Pairing V W} {e : Endpoint V} (hidle : Idles p.module e) :
      Step touches p { p with module := e }
  | handle {p : Pairing V W} {r : Flight} {rest : List Flight} (clock : Clock)
      (hpause : p.moment.pause = none) (hrequests : p.requests = r :: rest) :
      Step touches p (p.handle clock r rest)
  | loseRequest {p : Pairing V W} {older newer : List Flight} {r : Flight}
      (hrequests : p.requests = older ++ r :: newer) :
      Step touches p { p with requests := older ++ newer }
  | loseReply {p : Pairing V W} {older newer : List Flight} {r : Flight}
      (hreplies : p.replies = older ++ r :: newer) :
      Step touches p { p with replies := older ++ newer }
  /-- The oldest reply arrives. Its call has not ended. -/
  | deliver {p : Pairing V W} {r : Flight} {rest : List Flight} {call : Call}
      (hreplies : p.replies = r :: rest) (hcall : p.handshake.call? = some call)
      (hticket : r.ticket = call.ticket) :
      Step touches p ({ p with replies := rest }.arrive r.message)
  /-- An error reply arrives. -/
  | refuse {p : Pairing V W} (m : Message) (hframe : m.frame = .error) : Step touches p (p.arrive m)
  /-- The controller handles something else. -/
  | begin {p : Pairing V W} (clock : Clock) (event : Event) (hpause : p.moment.pause = none)
      (hspared : ∀ a, p.taken? = some a → ¬touches p.moment.coordinator event a) :
      Step touches p { p with moment := p.moment.begin clock event }
  /-- The controller goes on after a pause. The slot of the address has not been power-cycled. -/
  | resume {p : Pairing V W} {pause : Pause} (clock : Clock) (hpause : p.moment.pause = some pause)
      (hspared : ∀ a, p.taken? = some a → ¬p.moment.coordinator.TouchesAfter pause a) :
      Step touches p { p with moment := p.moment.resume clock pause }
  /-- Something happens around the controller. -/
  | drift {p : Pairing V W} {e : Endpoint W} (hsuite : e.node.suite = p.moment.endpoint.node.suite)
      (hkeys : e.node.keys = p.moment.endpoint.node.keys) :
      Step touches p { p with moment := { p.moment with endpoint := e } }

/-- Some steps one after another. -/
abbrev Reaches (touches : Coordinator → Event → Address → Prop) :
    Pairing V W → Pairing V W → Prop := Relation.ReflTransGen (Step touches)

end

end Pairing

end ModuleBus

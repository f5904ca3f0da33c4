import Mathlib.Logic.Relation
import ModuleBus.Dispatch.Listener
import ModuleBus.Proofs.Handshake.Agreement
import ModuleBus.Proofs.Handshake.Stages

set_option autoImplicit false

/-! # What an attempt leaves behind

A handshake can be cut short at any point: by the loss of the grant, a failed send, a reply that
makes no sense, or a timeout. Here it runs while anything else goes on around it, with a record of
what has happened since its attempt began. Whatever cuts an attempt short, nothing of it is left
when the next one begins; and the record of the attempt that ends a handshake has both replies, in
order (`Trial.attempts_clean_up`). The record does not list what a listener does in detail, but
whatever that is, it is a step of such a run (`Trial.exists_reaches_listen`). -/

namespace ModuleBus

variable {W : Type}

/-! ## Runs -/

/-- A handshake, its participant, and what has happened in the attempt that goes on, the newest
first. -/
structure Trial (W : Type) where
  handshake : Handshake
  endpoint : Endpoint (Driven W)
  attempt : List Occurrence

namespace Trial

/-- What happens around a participant that its handshake sees by the grant only. The participant's
own lines are driven by nothing else. -/
structure Surrounds (e e' : Endpoint (Driven W)) : Prop extends Pairing.Idles e e' where
  levels : e'.levels = e.levels

theorem Surrounds.note (e : Endpoint (Driven W)) (severity : Severity) :
    Surrounds e (e.note severity) := ⟨⟨rfl, rfl, rfl, rfl⟩, rfl⟩

theorem Surrounds.trans {e e' e'' : Endpoint (Driven W)} (h : Surrounds e e')
    (h' : Surrounds e' e'') : Surrounds e e'' :=
  ⟨⟨h'.suite.trans h.suite, h'.keys.trans h.keys, h'.pending.trans h.pending,
    h'.address.trans h.address⟩, h'.levels.trans h.levels⟩

/-- The trial after a step of its handshake; the next attempt begins a record of its own. -/
def advanced (t : Trial W) (h : Handshake) (e : Endpoint (Driven W)) : Trial W :=
  ⟨h, e, if h.attempts = t.handshake.attempts then h.marks ++ t.attempt else []⟩

/-- The trial after the arrival of a message. -/
def arrive (t : Trial W) (m : Message) : Trial W :=
  { t with endpoint := t.endpoint.update fun d => (d.route m).2, attempt := .arrived m :: t.attempt }

section

variable [Link W] [Lines W]

/-- A participant begins its handshake. -/
def start (settings : HandshakeSettings) (name : String) (clock : Clock)
    (e : Endpoint (Driven W)) : Trial W :=
  let (h, e) := Handshake.start settings name clock e
  ⟨h, e, []⟩

/-- One step of the handshake, at any time, or of what is around it: the grant is given or
withdrawn, or any message arrives. -/
inductive Step : Trial W → Trial W → Prop where
  | advance {t : Trial W} {h : Handshake} {e : Endpoint (Driven W)} (clock : Clock)
      (hstep : t.handshake.step clock t.endpoint = some (h, e)) : Step t (t.advanced h e)
  | arrive {t : Trial W} (m : Message) : Step t (t.arrive m)
  | around {t : Trial W} {e : Endpoint (Driven W)} (haround : Surrounds t.endpoint e) :
      Step t { t with endpoint := e }

/-- Some steps one after another. -/
abbrev Reaches : Trial W → Trial W → Prop := Relation.ReflTransGen Step

end

/-! ## What holds in every run -/

/-- The stage that the handshake is at fits the rest, and calls have tickets of their own. -/
structure IsSound (t : Trial W) : Prop where
  stands : Stands t.handshake t.endpoint t.attempt
  fresh : t.endpoint.node.pending.IsFresh

theorem node_arrive (t : Trial W) (m : Message) : ∃ pending inbound tally,
    (t.arrive m).endpoint.node
      = { t.endpoint.node with pending := pending, inbound := inbound, tally := tally } :=
  t.endpoint.node.route_frame m

theorem levels_arrive (t : Trial W) (m : Message) :
    (t.arrive m).endpoint.levels = t.endpoint.levels := by
  obtain ⟨pending, inbound, tally, hnode⟩ := t.node_arrive m
  rw [Endpoint.levels, hnode]
  rfl

theorem IsSound.arrive {t : Trial W} (h : t.IsSound) (m : Message) : (t.arrive m).IsSound := by
  obtain ⟨pending, inbound, tally, hnode⟩ := t.node_arrive m
  constructor
  case stands =>
    refine h.stands.mono [.arrived m] ?_ ?_ ?_ ?_ (by simp) fun hawaits => hawaits.arrive m
    · rw [hnode]
    · rw [hnode]
    · rw [Endpoint.address, hnode]
      rfl
    · exact levels_arrive t m
  case fresh => exact Dispatcher.isFresh_route h.fresh m

theorem IsSound.around {t : Trial W} (h : t.IsSound) {e : Endpoint (Driven W)}
    (haround : Surrounds t.endpoint e) : IsSound { t with endpoint := e } := by
  constructor
  case stands =>
    exact h.stands.mono [] haround.suite haround.keys haround.address haround.levels
      List.not_mem_nil fun hawaits => hawaits.congr haround.pending
  case fresh =>
    show e.node.pending.IsFresh
    rw [haround.pending]
    exact h.fresh

section

variable [Lines W]

theorem IsSound.start {e : Endpoint (Driven W)} (hfresh : e.node.pending.IsFresh)
    (settings : HandshakeSettings) (name : String) (clock : Clock) :
    (start settings name clock e).IsSound := by
  refine ⟨.asking rfl ?_ List.not_mem_nil, hfresh⟩
  exact (Handshake.levels_setRequest _ true).trans (by rw [Handshake.levels_setIndicator])

variable [Link W]

theorem IsSound.advance {t : Trial W} (h : t.IsSound) {hs : Handshake} {e : Endpoint (Driven W)}
    {clock : Clock} (hstep : t.handshake.step clock t.endpoint = some (hs, e)) :
    (t.advanced hs e).IsSound := by
  have hfresh := (Handshake.moves_step hstep).1.fresh h.fresh
  rcases Handshake.step_cases h.stands h.fresh hstep with ⟨_, hcontinues⟩ | hrestarts
  · refine ⟨?_, hfresh⟩
    rw [advanced, if_pos hcontinues.attempts]
    exact hcontinues.stands
  · refine ⟨?_, hfresh⟩
    rw [advanced, if_neg (by rw [hrestarts.attempts]; exact Nat.succ_ne_self _)]
    exact hrestarts.stands

theorem IsSound.step {t t' : Trial W} (h : t.IsSound) (hstep : Step t t') : t'.IsSound := by
  cases hstep with
  | advance clock hstep => exact h.advance hstep
  | arrive m => exact h.arrive m
  | around haround => exact h.around haround

theorem IsSound.reaches {t t' : Trial W} (h : t.IsSound) (ht : Reaches t t') : t'.IsSound := by
  induction ht with
  | refl => exact h
  | tail _ hstep ih => exact ih.step hstep

/-- The next attempt begins exactly when the request line is asserted again, and then no key for the
controller is left of an attempt that had the grant. -/
structure BeginsClean (t t' : Trial W) : Prop where
  begins_iff : t'.handshake.attempts ≠ t.handshake.attempts ↔
    t.endpoint.levels.1 = false ∧ t'.endpoint.levels.1 = true
  forgotten : t'.handshake.attempts ≠ t.handshake.attempts → .granted ∈ t.attempt →
    t.endpoint.node.key? .controller = none

omit [Lines W] [Link W] in
/-- A step within an attempt does not assert the line again. -/
theorem BeginsClean.of_same {t t' : Trial W}
    (hattempts : t'.handshake.attempts = t.handshake.attempts)
    (hlevels : t.endpoint.levels.1 = true ∨ t'.endpoint.levels = t.endpoint.levels) :
    BeginsClean t t' := by
  refine ⟨⟨fun hne => absurd hattempts hne, fun ⟨hlow, hhigh⟩ => ?_⟩, fun hne =>
    absurd hattempts hne⟩
  rcases hlevels with hbefore | hsame
  · exact nomatch hbefore.symm.trans hlow
  · exact nomatch hlow.symm.trans ((congrArg Prod.fst hsame).symm.trans hhigh)

theorem IsSound.beginsClean {t t' : Trial W} (h : t.IsSound) (hstep : Step t t') :
    BeginsClean t t' := by
  cases hstep with
  | advance clock hstep =>
    rcases Handshake.step_cases h.stands h.fresh hstep with ⟨hlevels, hcontinues⟩ | hrestarts
    · exact .of_same hcontinues.attempts (.inl (congrArg Prod.fst hlevels))
    · obtain ⟨timer, hpausing⟩ := hrestarts.paused
      obtain ⟨hlow, hkey⟩ := h.stands.isReleased hpausing
      refine ⟨⟨fun _ => ⟨hlow, congrArg Prod.fst hrestarts.levels⟩, fun _ => ?_⟩, fun _ => hkey⟩
      exact hrestarts.attempts.trans_ne (Nat.succ_ne_self _)
  | arrive m => exact .of_same rfl (.inr (levels_arrive t m))
  | around haround => exact .of_same rfl (.inr haround.levels)

/-- **A handshake ends with an attempt that is complete, and leaves nothing of the others.** In
every run from its start, whatever goes on around it: if the handshake is finished, the attempt that
goes on has got both replies and made the key of them; and no step asserts the request line again
with the line not released before, or with a key for the controller left of an attempt that had the
grant. -/
theorem attempts_clean_up {settings : HandshakeSettings} {name : String} {clock : Clock}
    {e : Endpoint (Driven W)} (hfresh : e.node.pending.IsFresh) {t : Trial W}
    (ht : Reaches (start settings name clock e) t) :
    (∀ a, t.handshake.address? = some a → IsCompleted t.endpoint t.attempt a)
      ∧ ∀ t', Step t t' → BeginsClean t t' := by
  have hsound := (IsSound.start hfresh settings name clock).reaches ht
  refine ⟨?_, fun t' hstep => hsound.beginsClean hstep⟩
  intro a ha
  unfold Handshake.address? at ha
  split at ha
  · next hwaiting =>
    cases ha
    exact hsound.stands.isCompleted hwaiting
  · cases ha

/-! ## Listening -/

omit [Lines W] in
theorem Surrounds.sendEnvelope (e : Endpoint (Driven W)) (a : Address) (maySeal : Bool)
    (bytes : Bytes) : Surrounds e (e.sendEnvelope a maySeal bytes).2 := by
  obtain ⟨encoder, entropy, hframe⟩ := e.sendEnvelope_frame a maySeal bytes
  refine ⟨⟨?_, ?_, ?_, e.address_sendEnvelope a maySeal bytes⟩,
    e.levels_sendEnvelope a maySeal bytes⟩
  · rw [hframe]
  · rw [hframe]
  · rw [hframe]

omit [Lines W] in
theorem Surrounds.refuse (l : Listener) (clock : Clock) (r : ErrorReply)
    (e : Endpoint (Driven W)) : Surrounds e (l.refuse clock r e).2 := by
  have hsend := Surrounds.sendEnvelope e r.refusal.destination
    (Dispatcher.isSealable r.refusal.service)
    (envelope .error r.refusal.service r.refusal.type r.refusal.code.toPayload)
  have hreply : Surrounds e (r.send clock e).2 := by
    unfold ErrorReply.send
    split
    · next h =>
      rw [h] at hsend
      exact hsend
    · next h =>
      rw [h] at hsend
      split
      · exact hsend
      · exact hsend.trans (.note _ .error)
  unfold Listener.refuse
  split
  · next h =>
    rw [h] at hreply
    exact hreply
  · next h =>
    rw [h] at hreply
    exact hreply

/-- A message that is taken in arrives, or nobody gets it. -/
theorem exists_reaches_accept (t : Trial W) (source : Address) (sealed : Bool) (bytes : Bytes) :
    ∃ attempt, Reaches t
      ⟨t.handshake, { t.endpoint with node := (t.endpoint.node.accept source sealed bytes).2 },
        attempt⟩ := by
  unfold Dispatcher.accept
  split
  · exact ⟨_, .single (.around (.note t.endpoint .warning))⟩
  · split
    · next m _ => exact ⟨_, .single (.arrive m)⟩
    · exact ⟨_, .refl⟩
    · exact ⟨_, .single (.around (.note t.endpoint .warning))⟩

theorem exists_reaches_take (t : Trial W) (l : Listener) (clock : Clock) (packet : Bytes) :
    ∃ attempt, Reaches t ⟨t.handshake, (l.take clock packet t.endpoint).2, attempt⟩ := by
  unfold Listener.take
  dsimp only
  split
  · exact ⟨_, .refl⟩
  · exact ⟨_, .refl⟩
  · next done _ =>
    split
    · exact ⟨_, .single (.around (.note t.endpoint .warning))⟩
    · obtain ⟨attempt, haccepted⟩ := exists_reaches_accept t done.source done.sealed
        (((l.reassembler.push packet).2).content done)
      split
      · next haccept =>
        rw [haccept] at haccepted
        exact ⟨attempt, haccepted⟩
      · next haccept =>
        rw [haccept] at haccepted
        exact ⟨attempt, haccepted.tail (.around (.refuse _ clock _ _))⟩

/-- **A participant that listens goes through such steps.** Whatever its listener does, as packets
come or do not come, is something around the handshake, or the arrival of a message. -/
theorem exists_reaches_listen (t : Trial W) {l l' : Listener} {clock : Clock}
    {e : Endpoint (Driven W)} (h : l.step clock t.endpoint = some (l', e)) :
    ∃ attempt, Reaches t ⟨t.handshake, e, attempt⟩ := by
  have hreceived : Surrounds t.endpoint
      { t.endpoint with world := (Link.receive t.endpoint.node.port t.endpoint.world).2 } :=
    ⟨⟨rfl, rfl, rfl, rfl⟩, rfl⟩
  unfold Listener.step at h
  split at h
  · split at h
    · cases h
      exact ⟨_, .refl⟩
    · cases h
  · next r _ _ =>
    split at h
    · have hrefused := Surrounds.refuse l clock r t.endpoint
      rw [Option.some.inj h] at hrefused
      exact ⟨_, .single (.around hrefused)⟩
    · cases h
  · split at h
    · split at h
      · cases h
        exact ⟨_, .single (.around (.note t.endpoint .warning))⟩
      · cases h
    · next hreceive =>
      rw [hreceive] at hreceived
      cases h
      exact ⟨_, .single (.around hreceived)⟩
    · next hreceive =>
      rw [hreceive] at hreceived
      cases h
      exact ⟨_, .single (.around (hreceived.trans (.note _ .warning)))⟩
    · next bytes world hreceive =>
      rw [hreceive] at hreceived
      obtain ⟨attempt, htaken⟩ := exists_reaches_take
        { t with endpoint := { t.endpoint with world := world } } l clock (bytes.take maxPacket)
      rw [Option.some.inj h] at htaken
      exact ⟨attempt, htaken.head (.around hreceived)⟩

/-! ## A grant that is lost -/

/-- The trial after the next step of its handshake, if there is one. -/
def turn (t : Trial W) (clock : Clock) : Trial W :=
  match t.handshake.step clock t.endpoint with
  | some (h, e) => t.advanced h e
  | none => t

theorem reaches_turn (t : Trial W) (clock : Clock) : Reaches t (t.turn clock) := by
  unfold turn
  split
  · next hstep => exact .single (.advance clock hstep)
  · exact .refl

end

/-- The grant of the module in the first slot is given or withdrawn. -/
def setGrant (t : Trial Backplane) (on : Bool) : Trial Backplane :=
  { t with endpoint := { t.endpoint with world := { t.endpoint.world with
    world := { t.endpoint.world.world with grants := PerSlot.constant on } } } }

theorem reaches_setGrant (t : Trial Backplane) (on : Bool) : Reaches t (t.setGrant on) :=
  .single (.around ⟨⟨rfl, rfl, rfl, rfl⟩, rfl⟩)

/-- The module begins its handshake, with no line up. -/
def begun : Trial Backplane :=
  start {} "m" ⟨0, 0⟩
    ⟨Pairing.moduleNode, ⟨Pairing.connected, fun _ => false, fun _ => false⟩⟩

/-- The first attempt loses its grant before it declares anything, and the second one begins. -/
def resumed : Trial Backplane :=
  (((begun.turn ⟨0, 1⟩).setGrant false).turn ⟨ofMillis 50, 2⟩).turn ⟨ofMillis 9000, 3⟩

/-- The second attempt is granted, and the module declares itself. -/
def asked : Trial Backplane :=
  (((resumed.setGrant true).turn ⟨ofMillis 9000, 4⟩).turn ⟨ofMillis 9050, 5⟩).turn ⟨ofMillis 9550, 6⟩

/-- The controller answers with an address and with its point. -/
def ended : Trial Backplane :=
  (((asked.arrive ⟨.controller, .unassigned, .response, .initialization, 0, [0x15]⟩).turn
    ⟨ofMillis 9560, 7⟩).arrive ⟨.controller, ⟨0x15⟩, .response, .initialization, 1, [7]⟩).turn
      ⟨ofMillis 9570, 8⟩

theorem reaches_ended : Reaches begun ended := by
  have hresumed : Reaches begun resumed :=
    (((reaches_turn _ _).trans (reaches_setGrant _ _)).trans (reaches_turn _ _)).trans
      (reaches_turn _ _)
  have hasked : Reaches resumed asked :=
    (((reaches_setGrant _ _).trans (reaches_turn _ _)).trans (reaches_turn _ _)).trans
      (reaches_turn _ _)
  have hended : Reaches asked ended :=
    (((Relation.ReflTransGen.single (.arrive _)).trans (reaches_turn _ _)).tail (.arrive _)).trans
      (reaches_turn _ _)
  exact (hresumed.trans hasked).trans hended

/-- A handshake that loses its grant once ends with its second attempt. -/
theorem second_attempt_is_completed : ended.handshake.attempts = 2
    ∧ IsCompleted ended.endpoint ended.attempt ⟨0x15⟩ := by
  have hfresh : Pairing.moduleNode.pending.IsFresh := fun _ _ => ⟨rfl, fun _ => List.not_mem_nil⟩
  have hattempts : ended.handshake.attempts = 2 := by decide +kernel
  have hfinished : ended.handshake.address? = some ⟨0x15⟩ := by decide +kernel
  exact ⟨hattempts, (attempts_clean_up hfresh reaches_ended).1 _ hfinished⟩

end Trial

end ModuleBus

import Mathlib.Logic.Relation
import ModuleBus.Proofs.Dispatch.Delivery
import ModuleBus.Proofs.Dispatch.Reception

set_option autoImplicit false

/-! # The deadline of a partial message

A listener that waits for a packet gives up the message in progress at its deadline, and the
deadline is the time limit after the last packet that was accepted: packets that are refused and
receives that fail do not move it. But a listener that pauses, because a receive has failed, looks
neither for packets nor at the deadline. If the pause outlasts the deadline, the message is still in
progress then, and packets of others that arrive in the meantime are refused. -/

namespace ModuleBus

variable {W : Type} [Link W]

/-! ## What a step does to the message in progress -/

/-- The packet is accepted and does not end its message. -/
def Reassembler.collects (r : Reassembler) (packet : Bytes) : Bool :=
  match (r.push packet).1 with
  | .ok none => true
  | .ok (some _) | .error _ => false

namespace Listener

/-- The next step accepts a packet that does not end its message. -/
def progresses (l : Listener) (e : Endpoint W) : Bool :=
  (l.packet? e).any l.reassembler.collects

/-- The listener without the message in progress. -/
def abandon (l : Listener) (clock : Clock) : Listener :=
  { l with reassembler := l.reassembler.reset }.listen clock

/-- What a step does to the message in progress, its deadline and the wait, if it accepts a packet
that does not end a message or if it does not. -/
inductive Advances (l : Listener) (clock : Clock) (s : DispatchSettings) : Bool → Listener → Prop
  | lost : Advances l clock s false l
  | failed : Advances l clock s false
      { l with waiting := .pause (clock.after s.errorRetryDelay) }
  | listens {r : Reassembler} : r = l.reassembler ∨ r.isIdle = true →
      r.buffer.length = l.reassembler.buffer.length →
      Advances l clock s false ({ l with reassembler := r }.listen clock)
  | collects {r : Reassembler} : r.buffer.length = l.reassembler.buffer.length →
      Advances l clock s true ({ l with
        reassembler := r
        deadline := clock.now + ofMillis s.reassemblyTimeout }.listen clock)
  | retries {r : Reassembler} {reply : ErrorReply} {timer : Timer} :
      r.isIdle = true ∨ r = l.reassembler ∧ l.isRetrying = true →
      r.buffer.length = l.reassembler.buffer.length →
      Advances l clock s false { l with reassembler := r, waiting := .retry reply timer }

variable {l l' : Listener} {clock : Clock} {e e' : Endpoint W}

/-- A listener that writes an error reply listens on, or tries again later. -/
theorem refuse_cases (l : Listener) (clock : Clock) (r : ErrorReply) (e : Endpoint W) :
    ((l.refuse clock r e).1 = l.listen clock
      ∨ ∃ reply timer, (l.refuse clock r e).1 = { l with waiting := .retry reply timer })
    ∧ (l.refuse clock r e).2.node.settings = e.node.settings := by
  obtain ⟨encoder, entropy, tally, hsend⟩ := r.send_frame clock e
  unfold refuse
  split
  · next h =>
    rw [h] at hsend
    exact ⟨.inl rfl, by rw [hsend]⟩
  · next reply timer _ h =>
    rw [h] at hsend
    exact ⟨.inr ⟨reply, timer, rfl⟩, by rw [hsend]⟩

theorem advances_take (l : Listener) (clock : Clock) (packet : Bytes) (e : Endpoint W) :
    Advances l clock e.node.settings (l.reassembler.collects packet) (l.take clock packet e).1
      ∧ (l.take clock packet e).2.node.settings = e.node.settings := by
  have hlength := l.reassembler.length_buffer_push packet
  unfold Reassembler.collects take
  rcases hpush : l.reassembler.push packet with ⟨error | _ | done, r⟩
  · have hsame := Reassembler.push_error (congrArg Prod.fst hpush)
    rw [hpush] at hsame hlength
    exact ⟨.listens (.inl hsame) hlength, rfl⟩
  · rw [hpush] at hlength
    exact ⟨.collects hlength, rfl⟩
  · have hidle := Reassembler.isIdle_push (congrArg Prod.fst hpush)
    rw [hpush] at hidle hlength
    dsimp only
    split
    · exact ⟨.listens (.inr hidle) hlength, rfl⟩
    · obtain ⟨pending, inbound, tally, hframe⟩ :=
        e.node.accept_frame done.source done.sealed (r.content done)
      have hsettings := congrArg Dispatcher.settings hframe
      split
      · next haccept =>
        rw [haccept] at hsettings
        exact ⟨.listens (.inr hidle) hlength, hsettings⟩
      · next refusal node haccept =>
        rw [haccept] at hsettings
        obtain ⟨hlistens | ⟨reply, timer, hretries⟩, hsame⟩ :=
          refuse_cases { l with reassembler := r } clock (.first refusal) { e with node := node }
        · rw [hlistens]
          exact ⟨.listens (.inr hidle) hlength, hsame.trans hsettings⟩
        · rw [hretries]
          exact ⟨.retries (.inl hidle) hlength, hsame.trans hsettings⟩

/-- A step advances the listener, and leaves the settings. -/
theorem advances_step (h : l.step clock e = some (l', e')) :
    Advances l clock e.node.settings (l.progresses e) l'
      ∧ e'.node.settings = e.node.settings := by
  unfold step at h
  unfold progresses packet?
  split at h
  · next hwaiting =>
    rw [hwaiting]
    split at h
    · cases h
      exact ⟨.listens (.inl rfl) rfl, rfl⟩
    · cases h
  · next r timer hwaiting =>
    rw [hwaiting]
    split at h
    · obtain ⟨hlistens | ⟨reply, timer, hretries⟩, hsettings⟩ := refuse_cases l clock r e
      · rw [Option.some.inj h] at hlistens hsettings
        obtain rfl : l' = _ := hlistens
        exact ⟨.listens (.inl rfl) rfl, hsettings⟩
      · rw [Option.some.inj h] at hretries hsettings
        have hretrying : l.isRetrying = true := by rw [isRetrying, hwaiting]
        obtain rfl : l' = _ := hretries
        exact ⟨.retries (.inr ⟨rfl, hretrying⟩) rfl, hsettings⟩
    · cases h
  · next deadline hwaiting =>
    rw [hwaiting]
    split at h
    · next hreceive =>
      simp only [hreceive]
      split at h
      · cases h
        exact ⟨.listens (.inr rfl) rfl, rfl⟩
      · cases h
    · next hreceive =>
      simp only [hreceive]
      cases h
      exact ⟨.lost, rfl⟩
    · next hreceive =>
      simp only [hreceive]
      cases h
      exact ⟨.failed, rfl⟩
    · next bytes world hreceive =>
      simp only [hreceive, Option.any_some]
      have htakes := advances_take l clock (bytes.take maxPacket) { e with world := world }
      rw [Option.some.inj h] at htakes
      exact htakes

/-- A listener that waits for a packet, with none there, gives the message in progress up once its
time has come. -/
theorem step_of_isOver {timer : Timer} (hwaiting : l.waiting = .forPacket timer)
    (hnothing : (Link.receive e.node.port e.world).1 = .nothing)
    (hbusy : l.reassembler.isIdle = false) (hover : timer.isOver clock = true) :
    l.step clock e = some (l.abandon clock, e.note .warning) := by
  unfold step
  rw [hwaiting]
  dsimp only
  rcases hreceive : Link.receive e.node.port e.world with ⟨reception, world⟩
  rw [hreceive] at hnothing
  obtain rfl : reception = .nothing := hnothing
  dsimp only
  rw [if_pos (by simp [hbusy, hover])]
  rfl

/-- A listener that waits for a packet and has nothing to do finds none. -/
theorem receive_of_step_eq_none {timer : Timer} (hwaiting : l.waiting = .forPacket timer)
    (h : l.step clock e = none) : (Link.receive e.node.port e.world).1 = .nothing := by
  unfold step at h
  rw [hwaiting] at h
  dsimp only at h
  split at h
  · next hreceive => rw [hreceive]
  all_goals cases h

end Listener

/-! ## Runs of a listener -/

/-- A listener with its participant at a moment, and when it last accepted a packet that did not end
a message. -/
structure Vigil (W : Type) where
  clock : Clock
  listener : Listener
  endpoint : Endpoint W
  progress : Nat

namespace Vigil

/-- A listener that has heard nothing. -/
def start (clock : Clock) (e : Endpoint W) : Vigil W :=
  ⟨clock, .start e.node.settings, e, clock.now⟩

/-- A message is in progress. -/
def IsBusy (v : Vigil W) : Prop := v.listener.reassembler.isIdle = false

/-- One step: the listener acts, or the rest of the world does what it may, or the next turn
begins, or time passes. It passes only if the listener has nothing to do, and not beyond the moment
for which that has set a timer. -/
inductive Step (may : Vigil W → Endpoint W → Prop) (v : Vigil W) : Vigil W → Prop
  | act {l : Listener} {e : Endpoint W} : v.listener.step v.clock v.endpoint = some (l, e) →
      Step may v { v with
        listener := l
        endpoint := e
        progress := if v.listener.progresses v.endpoint then v.clock.now else v.progress }
  | drift {e : Endpoint W} : e.node.settings = v.endpoint.node.settings → may v e →
      Step may v { v with endpoint := e }
  | turn : Step may v { v with clock := ⟨v.clock.now, v.clock.turn + 1⟩ }
  | pass {now : Nat} : v.listener.step v.clock v.endpoint = none → v.clock.now ≤ now →
      (∀ due ∈ v.listener.wake?, now ≤ max v.clock.now due) →
      Step may v { v with clock := ⟨now, v.clock.turn⟩ }

/-- Some steps lead from one moment to another. -/
abbrev Reaches (may : Vigil W → Endpoint W → Prop) : Vigil W → Vigil W → Prop :=
  Relation.ReflTransGen (Step may)

/-- What holds of every run: the deadline is the time limit after the last progress, a listener that
waits for a packet wakes at it, and no message is in progress while an error reply is to be tried
again. -/
structure IsTimed (s : DispatchSettings) (v : Vigil W) : Prop where
  settings : v.endpoint.node.settings = s
  room : v.listener.reassembler.buffer.length = s.receiveBuffer
  deadline : v.IsBusy → v.listener.deadline = v.progress + ofMillis s.reassemblyTimeout
  timer {timer : Timer} : v.listener.waiting = .forPacket timer →
    timer.due = v.listener.deadline ∧ timer.set ≤ v.clock.turn
  retrying : v.listener.isRetrying = true → ¬v.IsBusy

variable {s : DispatchSettings} {may : Vigil W → Endpoint W → Prop} {v v' : Vigil W}
  {clock : Clock} {e : Endpoint W}

omit [Link W] in
theorem not_isBusy (h : v.listener.reassembler.isIdle = true) : ¬v.IsBusy := by
  simp [IsBusy, h]

omit [Link W] in
theorem isTimed_start : (start clock e).IsTimed e.node.settings where
  settings := rfl
  room := List.length_replicate
  deadline h := absurd h (not_isBusy rfl)
  timer h := by
    cases h
    exact ⟨rfl, Nat.zero_le _⟩
  retrying h := nomatch h

omit [Link W] in
/-- A listener that advances keeps its deadline, and sets it anew exactly when it makes progress. -/
theorem IsTimed.advance (h : v.IsTimed s) {accepted : Bool} {l : Listener}
    (hadvances : v.listener.Advances v.clock s accepted l) (hsettings : e.node.settings = s) :
    IsTimed s { v with
      listener := l
      endpoint := e
      progress := if accepted then v.clock.now else v.progress } := by
  cases hadvances with
  | lost => exact { h with settings := hsettings }
  | failed => exact { h with settings := hsettings, timer := nofun, retrying := nofun }
  | @listens r hr hroom =>
    refine ⟨hsettings, hroom.trans h.room, fun hbusy => ?_, ?_, nofun⟩
    · rcases hr with rfl | hidle
      · exact h.deadline hbusy
      · exact absurd hbusy (not_isBusy hidle)
    · rintro _ ⟨⟩
      exact ⟨rfl, Nat.le_refl _⟩
  | collects hroom =>
    refine ⟨hsettings, hroom.trans h.room, fun _ => rfl, ?_, nofun⟩
    rintro _ ⟨⟩
    exact ⟨rfl, Nat.le_refl _⟩
  | @retries r _ _ hr hroom =>
    have hidle : r.isIdle = true := by
      rcases hr with hidle | ⟨rfl, hretrying⟩
      · exact hidle
      · exact Bool.of_not_eq_false (h.retrying hretrying)
    exact ⟨hsettings, hroom.trans h.room, fun hbusy => absurd hbusy (not_isBusy hidle), nofun,
      fun _ => not_isBusy hidle⟩

theorem IsTimed.step (h : v.IsTimed s) (hstep : Step may v v') : v'.IsTimed s := by
  cases hstep with
  | act hact =>
    obtain ⟨hadvances, hsettings⟩ := Listener.advances_step hact
    rw [h.settings] at hadvances
    exact h.advance hadvances (hsettings.trans h.settings)
  | drift hsettings _ => exact { h with settings := hsettings.trans h.settings }
  | turn => exact { h with timer := fun hw => ⟨(h.timer hw).1, Nat.le_succ_of_le (h.timer hw).2⟩ }
  | pass => exact { h with }

theorem IsTimed.reaches (h : v.IsTimed s) (hreaches : Reaches may v v') : v'.IsTimed s := by
  induction hreaches with
  | refl => exact h
  | tail _ hstep ih => exact ih.step hstep

/-! ## Waiting for a packet -/

/-- The listener waits for a packet, and does nothing for the rest of this moment. -/
def IsBlocked (v : Vigil W) : Prop :=
  (∃ timer, v.listener.waiting = .forPacket timer)
    ∧ ∀ turn ≥ v.clock.turn, v.listener.step ⟨v.clock.now, turn⟩ v.endpoint = none

/-- Once its deadline has come and no packet waits, a message is given up in the next turn. -/
theorem IsTimed.step_of_deadline (h : v.IsTimed s) (hbusy : v.IsBusy) {timer : Timer}
    (hwaiting : v.listener.waiting = .forPacket timer)
    (hnothing : (Link.receive v.endpoint.node.port v.endpoint.world).1 = .nothing)
    (hdeadline : v.listener.deadline ≤ v.clock.now) {turn : Nat} (hturn : v.clock.turn < turn) :
    v.listener.step ⟨v.clock.now, turn⟩ v.endpoint
      = some (v.listener.abandon ⟨v.clock.now, turn⟩, v.endpoint.note .warning) := by
  obtain ⟨hdue, hset⟩ := h.timer hwaiting
  refine Listener.step_of_isOver hwaiting hnothing hbusy ?_
  simp only [Timer.isOver, Bool.and_eq_true, decide_eq_true_eq]
  omega

/-- Who waits for a packet of the message in progress, waits before the deadline. -/
theorem IsTimed.lt_deadline (h : v.IsTimed s) (hbusy : v.IsBusy) (hblocked : v.IsBlocked) :
    v.clock.now < v.listener.deadline := by
  obtain ⟨⟨timer, hwaiting⟩, hnever⟩ := hblocked
  refine Nat.lt_of_not_le fun hdeadline => ?_
  have hnone := hnever (v.clock.turn + 1) (Nat.le_succ _)
  have hnothing := Listener.receive_of_step_eq_none hwaiting hnone
  rw [h.step_of_deadline hbusy hwaiting hnothing hdeadline (Nat.lt_succ_self _)] at hnone
  cases hnone

/-! ## Pauses -/

/-- The listener pauses for longer than the message in progress may take. -/
def Oversleeps (v : Vigil W) : Prop :=
  v.IsBusy ∧ ∃ timer, v.listener.waiting = .pause timer ∧ v.listener.deadline < timer.due

/-- The message in progress should have been given up. -/
def IsOverdue (v : Vigil W) : Prop := v.IsBusy ∧ v.listener.deadline < v.clock.now

omit [Link W] in
/-- A step of the listener leaves no message overdue that was not. -/
theorem not_isOverdue_advance {accepted : Bool} {l : Listener}
    (hadvances : v.listener.Advances v.clock s accepted l) (hontime : ¬v.IsOverdue) (e : Endpoint W)
    (progress : Nat) : ¬(⟨v.clock, l, e, progress⟩ : Vigil W).IsOverdue := by
  cases hadvances with
  | lost | failed => exact hontime
  | listens hr =>
    rcases hr with rfl | hidle
    · exact hontime
    · exact fun h => not_isBusy hidle h.1
  | collects => exact fun h => Nat.not_lt.mpr (Nat.le_add_right _ _) h.2
  | retries hr =>
    rcases hr with hidle | ⟨rfl, -⟩
    · exact fun h => not_isBusy hidle h.1
    · exact hontime

omit [Link W] in
/-- Time that passes leaves no message overdue that was not, unless the listener oversleeps. -/
theorem IsTimed.not_isOverdue_pass (h : v.IsTimed s) (hontime : ¬v.IsOverdue)
    (hawake : ¬v.Oversleeps) {now : Nat}
    (hwake : ∀ due ∈ v.listener.wake?, now ≤ max v.clock.now due) :
    ¬({ v with clock := ⟨now, v.clock.turn⟩ } : Vigil W).IsOverdue := by
  rintro ⟨hbusy, hlate⟩
  have hbefore : v.clock.now ≤ v.listener.deadline :=
    Nat.le_of_not_lt fun hlate => hontime ⟨hbusy, hlate⟩
  suffices ∃ due ∈ v.listener.wake?, due ≤ v.listener.deadline by
    obtain ⟨due, hdue, hle⟩ := this
    have := hwake due hdue
    dsimp only at hlate
    omega
  cases hwaiting : v.listener.waiting with
  | forPacket timer =>
    refine ⟨timer.due, ?_, Nat.le_of_eq (h.timer hwaiting).1⟩
    simp [Listener.wake?, hwaiting, show v.listener.reassembler.isIdle = false from hbusy]
  | pause timer =>
    refine ⟨timer.due, by simp [Listener.wake?, hwaiting], Nat.le_of_not_lt fun hlong => ?_⟩
    exact hawake ⟨hbusy, timer, hwaiting, hlong⟩
  | retry reply timer =>
    exact absurd hbusy (h.retrying (by rw [Listener.isRetrying, hwaiting]))

/-- No message is ever overdue if the listener never oversleeps. -/
theorem IsTimed.not_isOverdue (h : v.IsTimed s) (hontime : ¬v.IsOverdue)
    (hawake : ∀ v', Reaches may v v' → ¬v'.Oversleeps) (hreaches : Reaches may v v') :
    ¬v'.IsOverdue := by
  induction hreaches with
  | refl => exact hontime
  | tail hbefore hstep ih =>
    have htimed := h.reaches hbefore
    cases hstep with
    | act hact =>
      obtain ⟨hadvances, -⟩ := Listener.advances_step hact
      exact not_isOverdue_advance hadvances ih _ _
    | drift | turn => exact ih
    | pass _ _ hwake => exact htimed.not_isOverdue_pass ih (hawake _ hbefore) hwake

/-- A message for which the listener oversleeps becomes overdue. -/
theorem Oversleeps.isOverdue (h : v.Oversleeps) (may : Vigil W → Endpoint W → Prop) :
    ∃ v', Reaches may v v' ∧ v'.IsOverdue := by
  obtain ⟨hbusy, timer, hwaiting, hlong⟩ := h
  by_cases hpast : timer.due ≤ v.clock.now
  · exact ⟨v, .refl, hbusy, Nat.lt_of_lt_of_le hlong hpast⟩
  · have hnone : v.listener.step v.clock v.endpoint = none := by
      unfold Listener.step
      rw [hwaiting]
      simp [Timer.isOver, hpast]
    have hwake : ∀ due ∈ v.listener.wake?, timer.due ≤ max v.clock.now due := by
      intro due hdue
      rw [Listener.wake?, hwaiting] at hdue
      cases hdue
      exact Nat.le_max_right _ _
    exact ⟨_, .single (.pass hnone (Nat.le_of_not_le hpast) hwake), hbusy, hlong⟩

/-- **Stalled messages are given up.** In every run of a listener, whatever the rest of the world
may do: while a message is in progress, the deadline is the time limit after the last packet of it
that was accepted. Whoever then waits for a packet waits before the deadline. Once the deadline has
come and no packet waits, the message is given up in the next turn, and the listener receives the
next message whose packets come in, whoever sent it, if its buffer has room for that. And a message
is never in progress after its deadline if and only if no pause after a failed receive, with a
message in progress, outlasts the deadline. -/
theorem stalled_messages_are_abandoned (may : Vigil W → Endpoint W → Prop) (clock : Clock)
    (e : Endpoint W) :
    (∀ v, Reaches may (start clock e) v → v.IsBusy →
      v.listener.deadline = v.progress + ofMillis e.node.settings.reassemblyTimeout
      ∧ (v.IsBlocked → v.clock.now < v.listener.deadline)
      ∧ ∀ timer, v.listener.waiting = .forPacket timer →
        (Link.receive v.endpoint.node.port v.endpoint.world).1 = .nothing →
        v.listener.deadline ≤ v.clock.now → ∀ turn, v.clock.turn < turn →
        v.listener.step ⟨v.clock.now, turn⟩ v.endpoint
            = some (v.listener.abandon ⟨v.clock.now, turn⟩, v.endpoint.note .warning)
          ∧ (v.listener.abandon ⟨v.clock.now, turn⟩).reassembler.isIdle = true
          ∧ ∀ p payload packets, AreFragments p payload packets →
            payload.length ≤ e.node.settings.receiveBuffer →
            (v.listener.abandon ⟨v.clock.now, turn⟩).Receives W p payload packets)
    ∧ ((∀ v, Reaches may (start clock e) v → ¬v.IsOverdue) ↔
      ∀ v, Reaches may (start clock e) v → ¬v.Oversleeps) := by
  have hstart : (start clock e).IsTimed e.node.settings := isTimed_start
  refine ⟨fun v hv hbusy => ?_, fun hontime v hv hsleeps => ?_, fun hawake v hv => ?_⟩
  · have htimed := hstart.reaches hv
    refine ⟨htimed.deadline hbusy, htimed.lt_deadline hbusy,
      fun timer hwaiting hnothing hdeadline turn hturn => ⟨?_, rfl, ?_⟩⟩
    · exact htimed.step_of_deadline hbusy hwaiting hnothing hdeadline hturn
    · intro p payload packets hfragments hroom
      exact Listener.receives_of_isIdle hfragments (Nat.le_trans hroom (Nat.le_of_eq htimed.room.symm)) rfl rfl
  · obtain ⟨v', hv', hoverdue⟩ := hsleeps.isOverdue may
    exact hontime v' (hv.trans hv') hoverdue
  · exact hstart.not_isOverdue (fun h => not_isBusy rfl h.1) hawake hv

/-! ## A pause that is too long -/

/-- The settings of a participant that waits a tenth of a second for the rest of a message, and
twice as long after a failed receive. -/
def drowsy : DispatchSettings := { reassemblyTimeout := 100, errorRetryDelay := 200 }

/-- Its listener has heard nothing. -/
def atRest : Vigil Net :=
  start ⟨0, 0⟩ ⟨.start 0 .controller drowsy [.energy] 0, .start [.controller, ⟨0x10⟩, ⟨0x11⟩]⟩

/-- The rest of the world changes the link. -/
def onNet (v : Vigil Net) (f : Net → Net) : Vigil Net :=
  { v with endpoint := { v.endpoint with world := f v.endpoint.world } }

/-- The listener acts, if it has anything to do. -/
def acted (v : Vigil Net) : Vigil Net :=
  match v.listener.step v.clock v.endpoint with
  | some (l, e) => { v with
      listener := l
      endpoint := e
      progress := if v.listener.progresses v.endpoint then v.clock.now else v.progress }
  | none => v

/-- Time passes. -/
def waited (v : Vigil Net) (now : Nat) : Vigil Net := { v with clock := ⟨now, v.clock.turn⟩ }

/-- The next turn begins. -/
def nextTurn (v : Vigil Net) : Vigil Net :=
  { v with clock := ⟨v.clock.now, v.clock.turn + 1⟩ }

/-- The first of two packets of a message arrives, and the next receive fails. -/
def asleep : Vigil Net :=
  ((atRest.onNet (·.inject 0 [(FrameEncoder.start ⟨0x10⟩ .current).packet
      (List.replicate 300 0) false 0])).acted.onNet (·.failReceives 0 [.noAck])).acted

/-- Half a tenth of a second after the deadline, nothing has arrived. -/
def overdue : Vigil Net := asleep.waited 150000

/-- Another module writes a command of one packet. -/
def written : Vigil Net :=
  overdue.onNet (·.inject 0 [(FrameEncoder.start ⟨0x11⟩ .current).packet
    (envelope .command Service.energy.toByte 0 [5]) false 0])

/-- The listener wakes, and takes it in. -/
def awake : Vigil Net := (written.waited 200000).nextTurn.acted.acted

theorem reaches_onNet (v : Vigil Net) (f : Net → Net) :
    Reaches (fun _ _ => True) v (v.onNet f) :=
  .single (.drift rfl trivial)

theorem reaches_acted (v : Vigil Net) : Reaches (fun _ _ => True) v v.acted := by
  unfold acted
  split
  · next h => exact .single (.act h)
  · exact .refl

theorem reaches_waited {v : Vigil Net} {now : Nat} (due : Nat)
    (hnone : (v.listener.step v.clock v.endpoint).isNone = true)
    (hwake : v.listener.wake? = some due) (hnow : v.clock.now ≤ now) (hdue : now ≤ due) :
    Reaches (fun _ _ => True) v (v.waited now) := by
  refine .single (.pass (Option.isNone_iff_eq_none.mp hnone) hnow fun due' hdue' => ?_)
  rw [hwake] at hdue'
  cases hdue'
  exact Nat.le_trans hdue (Nat.le_max_right _ _)

theorem reaches_asleep : Reaches (fun _ _ => True) atRest asleep :=
  (((reaches_onNet _ _).trans (reaches_acted _)).trans (reaches_onNet _ _)).trans (reaches_acted _)

theorem reaches_overdue : Reaches (fun _ _ => True) atRest overdue := by
  have hwaited : Reaches (fun _ _ => True) asleep overdue :=
    reaches_waited 200000 (by decide +kernel) (by decide +kernel) (by decide +kernel)
      (by decide +kernel)
  exact reaches_asleep.trans hwaited

theorem reaches_awake : Reaches (fun _ _ => True) overdue awake := by
  have hwritten : Reaches (fun _ _ => True) overdue written := reaches_onNet _ _
  have hwaited : Reaches (fun _ _ => True) written (written.waited 200000) :=
    reaches_waited 200000 (by decide +kernel) (by decide +kernel) (by decide +kernel)
      (by decide +kernel)
  have hturn : Reaches (fun _ _ => True) (written.waited 200000)
      (written.waited 200000).nextTurn :=
    .single .turn
  exact ((hwritten.trans hwaited).trans hturn).trans ((reaches_acted _).trans (reaches_acted _))

/-- A message is still in progress half a tenth of a second after its deadline, and a command that
arrives then is lost. -/
theorem late_command_is_lost :
    (¬∀ v, Reaches (fun _ _ => True) atRest v → ¬v.IsOverdue)
    ∧ Reaches (fun _ _ => True) atRest overdue ∧ overdue.IsOverdue
    ∧ (Link.receive 0 overdue.endpoint.world).1 = .nothing
    ∧ Reaches (fun _ _ => True) overdue awake
    ∧ (Link.receive 0 awake.endpoint.world).1 = .nothing ∧ awake.endpoint.node.inbound = [] := by
  have hsleeps : asleep.Oversleeps :=
    ⟨by unfold IsBusy; decide +kernel, ⟨200000, 0⟩, by decide +kernel, by decide +kernel⟩
  have hnever := (stalled_messages_are_abandoned (fun _ _ => True) ⟨0, 0⟩ atRest.endpoint).2
  refine ⟨fun hontime => hnever.mp hontime asleep reaches_asleep hsleeps, reaches_overdue, ?_, ?_,
    reaches_awake, ?_, ?_⟩
  · exact ⟨by unfold IsBusy; decide +kernel, by decide +kernel⟩
  · decide +kernel
  · decide +kernel
  · decide +kernel

end Vigil

end ModuleBus

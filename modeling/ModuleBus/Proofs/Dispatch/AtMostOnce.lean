import Mathlib.Logic.Relation
import ModuleBus.Bench.Desk
import ModuleBus.Proofs.Dispatch.Attendants
import ModuleBus.Proofs.Dispatch.Dockets
import ModuleBus.Proofs.Dispatch.Listening

set_option autoImplicit false

/-! # At most one answer

A participant at work is an office: its listener takes messages in and refuses what cannot be
queued, its attendant works through the queue, and a docket is kept of both. Whatever the office
does, and whichever of its writes fail, the docket stays as it should be, so that there is at most
one whole answer to each inquiry, and nothing is written about a message that makes none. -/

namespace ModuleBus

open Endpoint (Pays Idles)

variable {H W : Type}

/-! ## Offices -/

/-- A participant at work, with its docket. -/
structure Office (H W : Type) where
  listener : Listener
  attendant : Attendant H
  endpoint : Endpoint (Tapped W)
  docket : Docket

namespace Office

/-- The packets that the link took since the office was at `x`. -/
def written (x : Office H W) (e : Endpoint (Tapped W)) : List (Address × Bytes) :=
  e.world.tap.drop x.endpoint.world.tap.length

/-- Nothing has arrived at the office, and nothing is to be written. -/
structure IsOpening (x : Office H W) : Prop where
  inbound : x.endpoint.node.inbound = []
  listener : x.listener.debt? = none
  attendant : x.attendant.debt? = none
  docket : x.docket = .empty

/-- The office after a step of its listener. -/
def heard [Link W] (x : Office H W) (l : Listener) (e : Endpoint (Tapped W)) : Office H W :=
  { x with
    listener := l
    endpoint := e
    docket := x.docket.hear (x.listener.arrival? x.endpoint)
      (x.endpoint.node.inbound.length < e.node.inbound.length) l.debt?.isSome (x.written e) }

/-- The office after a step of its attendant. -/
def attended (x : Office H W) (a : Attendant H) (e : Endpoint (Tapped W)) : Office H W :=
  { x with
    attendant := a
    endpoint := e
    docket := x.docket.attend (e.node.inbound.length < x.endpoint.node.inbound.length)
      a.debt?.isSome (x.written e) }

/-- The office after a request of its own was sent. -/
def sent (x : Office H W) (e : Endpoint (Tapped W)) : Office H W :=
  { x with endpoint := e, docket := x.docket.note .own (x.written e) }

/-- One step of an office. The rest of the participant, and of the world, may do anything in
between that writes nothing and leaves the queue as it is. -/
inductive Step [Board W] [Link W] [Handler H W] (x : Office H W) : Office H W → Prop
  | listen {l : Listener} {e : Endpoint (Tapped W)} (clock : Clock) :
      x.listener.step clock x.endpoint = some (l, e) → Step x (x.heard l e)
  | attend {a : Attendant H} {e : Endpoint (Tapped W)} (clock : Clock) :
      x.attendant.step clock x.endpoint = some (a, e) → Step x (x.attended a e)
  | send (destination : Address) {frame : FrameKind} (service : Service) (type : UInt8)
      (payload : Bytes) : frame.isRequest = true →
      Step x (x.sent (x.endpoint.send destination frame service type payload).2)
  | drift {e : Endpoint (Tapped W)} : Idles x.endpoint e → Step x { x with endpoint := e }

/-- What the docket of an office says is what has happened since it was opened. -/
structure IsSound (start x : Office H W) : Prop where
  suite : x.endpoint.node.suite = start.endpoint.node.suite
  tap : x.endpoint.world.tap = start.endpoint.world.tap ++ x.docket.journal.flatMap (·.2)
  kept : x.docket.IsKept start.endpoint.node.suite x.endpoint.node.inbound x.listener.debt?
    x.attendant.debt?
  requests {q : Inquiry} : q ∈ x.docket.asked → q.frame.isRequest = true

variable {start x : Office H W} {e : Endpoint (Tapped W)} {new : List (Address × Bytes)}

theorem written_eq (h : e.world.tap = x.endpoint.world.tap ++ new) : x.written e = new := by
  rw [written, h, List.drop_left]

theorem IsOpening.isSound (h : x.IsOpening) : IsSound x x := by
  refine ⟨rfl, ?_, ?_, fun hq => ?_⟩
  · rw [h.docket]
    exact (List.append_nil _).symm
  · rw [h.docket, h.inbound, h.listener, h.attendant]
    exact .empty _
  · rw [h.docket] at hq
    cases hq

/-- Every step notes in the journal what it writes. -/
theorem IsSound.note (h : IsSound start x) {x' : Office H W} {subject : Subject}
    (hsuite : x'.endpoint.node.suite = x.endpoint.node.suite)
    (htap : x'.endpoint.world.tap = x.endpoint.world.tap ++ new)
    (hjournal : x'.docket.journal = x.docket.journal ++ [(subject, new)])
    (hkept : x'.docket.IsKept start.endpoint.node.suite x'.endpoint.node.inbound
      x'.listener.debt? x'.attendant.debt?)
    (hrequests : ∀ q ∈ x'.docket.asked, q.frame.isRequest = true) : IsSound start x' := by
  refine ⟨hsuite.trans h.suite, ?_, hkept, hrequests _⟩
  rw [htap, h.tap, hjournal]
  simp

/-- What is asked stays requests, if a request arrives. -/
theorem IsSound.requests_append (h : IsSound start x) {q : Inquiry}
    (hq : q.frame.isRequest = true) :
    ∀ r ∈ x.docket.asked ++ [q], r.frame.isRequest = true := by
  intro r hr
  rcases List.mem_append.mp hr with hr | hr
  · exact h.requests hr
  · rw [List.mem_singleton.mp hr]
    exact hq

section

variable [Link W]

theorem IsSound.listen (h : IsSound start x) {l : Listener} {clock : Clock}
    (hstep : x.listener.step clock x.endpoint = some (l, e)) : IsSound start (x.heard l e) := by
  have hkept := h.kept
  unfold heard
  cases x.listener.hears_step clock x.endpoint hstep with
  | @queues m harrival hdebt hinbound hsuite htap =>
    have hwritten : x.written e = [] := written_eq (by rw [htap, List.append_nil])
    -- The docket tells by the length of the queue that the request is in it.
    have hlonger : x.endpoint.node.inbound.length < e.node.inbound.length := by
      rw [hinbound, List.length_append]
      exact Nat.lt_add_one _
    rw [hwritten, harrival, hdebt, decide_eq_true hlonger]
    refine h.note hsuite (by simpa using htap) rfl ?_
      (h.requests_append (Listener.isRequest_of_arrival? harrival))
    dsimp only
    rw [hinbound, hdebt]
    exact hkept.hear_queued m
  | @answers q harrival hpays =>
    obtain ⟨new, whole, htap, hnew, hdebt⟩ := hpays.written
    rw [h.suite] at hnew
    rw [written_eq htap, harrival, hpays.inbound, decide_eq_false (Nat.lt_irrefl _)]
    refine h.note hpays.suite htap rfl ?_
      (h.requests_append (Listener.isRequest_of_arrival? harrival))
    dsimp only
    rw [hpays.inbound]
    exact hkept.hear_answered hnew hdebt
  | @pays debt harrival hdebt hpays =>
    have howes := hkept.refusing
    rw [hdebt] at howes
    obtain ⟨n, q, hn, hq, hto⟩ := howes
    obtain ⟨new, whole, htap, hnew, hdebt'⟩ := (hpays q hto).written
    rw [h.suite] at hnew
    rw [written_eq htap, harrival, (hpays q hto).inbound, decide_eq_false (Nat.lt_irrefl _)]
    refine h.note (hpays q hto).suite htap rfl ?_ fun _ => h.requests
    dsimp only
    rw [(hpays q hto).inbound]
    exact hkept.hear_paid hn hq hnew hdebt'
  | idles harrival hdebt hdebt' hidles =>
    have hwritten : x.written e = [] := written_eq (by rw [hidles.tap, List.append_nil])
    rw [hwritten, harrival, hidles.inbound, hdebt', decide_eq_false (Nat.lt_irrefl _)]
    refine h.note hidles.suite (by simpa using hidles.tap) rfl ?_ fun _ => h.requests
    dsimp only
    rw [hidles.inbound, hdebt']
    rw [hdebt] at hkept
    exact hkept.hear_idle

theorem IsSound.attend [Board W] [Handler H W] (h : IsSound start x) {a : Attendant H}
    {clock : Clock} (hstep : x.attendant.step clock x.endpoint = some (a, e)) :
    IsSound start (x.attended a e) := by
  have hkept := h.kept
  unfold attended
  cases Attendant.deals_step hstep with
  | @takes m rest hinbound hpays =>
    obtain ⟨new, whole, htap, hnew, hdebt⟩ := hpays.written
    have hsuite : (x.endpoint.update fun d => { d with inbound := rest }).node.suite
        = start.endpoint.node.suite := h.suite
    have hrest : e.node.inbound = rest := hpays.inbound
    -- The docket tells by the length of the queue that a request was taken up.
    have hshorter : e.node.inbound.length < x.endpoint.node.inbound.length := by
      rw [hrest, hinbound]
      exact Nat.lt_succ_self _
    rw [hsuite] at hnew
    rw [written_eq htap, decide_eq_true hshorter]
    refine h.note hpays.suite htap rfl ?_ fun _ => h.requests
    dsimp only
    rw [hrest]
    rw [hinbound] at hkept
    exact hkept.attend_taken hnew hdebt
  | @pays debt hdebt hpays =>
    have howes := hkept.serving
    rw [hdebt] at howes
    obtain ⟨n, q, hn, hq, hto⟩ := howes
    obtain ⟨new, whole, htap, hnew, hdebt'⟩ := (hpays q hto).written
    rw [h.suite] at hnew
    rw [written_eq htap, (hpays q hto).inbound, decide_eq_false (Nat.lt_irrefl _)]
    refine h.note (hpays q hto).suite htap rfl ?_ fun _ => h.requests
    dsimp only
    rw [(hpays q hto).inbound]
    exact hkept.attend_paid hn hq hnew hdebt'
  | idles hdebt hdebt' hidles =>
    have hwritten : x.written e = [] := written_eq (by rw [hidles.tap, List.append_nil])
    rw [hwritten, hidles.inbound, hdebt', decide_eq_false (Nat.lt_irrefl _)]
    refine h.note hidles.suite (by simpa using hidles.tap) rfl ?_ fun _ => h.requests
    dsimp only
    rw [hidles.inbound, hdebt']
    rw [hdebt] at hkept
    exact hkept.attend_idle

theorem IsSound.send (h : IsSound start x) (destination : Address) (frame : FrameKind)
    (service : Service) (type : UInt8) (payload : Bytes) :
    IsSound start (x.sent (x.endpoint.send destination frame service type payload).2) := by
  obtain ⟨new, htap⟩ := x.endpoint.tap_send destination frame service type payload
  obtain ⟨_, _, hframe⟩ := x.endpoint.send_frame destination frame service type payload
  rw [sent, written_eq htap]
  refine h.note ?_ htap rfl ?_ fun _ => h.requests
  · rw [hframe]
  · dsimp only
    rw [hframe]
    exact h.kept.note_own

omit [Link W] in
theorem IsSound.drift (h : IsSound start x) (hidles : Idles x.endpoint e) :
    IsSound start { x with endpoint := e } := by
  refine ⟨hidles.suite.trans h.suite, hidles.tap.trans h.tap, ?_, h.requests⟩
  dsimp only
  rw [hidles.inbound]
  exact h.kept

variable [Board W] [Handler H W]

theorem IsSound.step (h : IsSound start x) {x' : Office H W} (hstep : Step x x') :
    IsSound start x' := by
  cases hstep with
  | listen _ hstep => exact h.listen hstep
  | attend _ hstep => exact h.attend hstep
  | send destination service type payload _ => exact h.send destination _ service type payload
  | drift hidles => exact h.drift hidles

theorem IsOpening.isSound_of_run (h : start.IsOpening) (hrun : Relation.ReflTransGen Step start x) :
    IsSound start x := by
  induction hrun with
  | refl => exact h.isSound
  | tail _ hstep ih => exact ih.step hstep

/-- **At most one answer.** Whatever arrives at a participant, whoever attends to it, and whichever
of its writes fail: every packet that the link takes from it belongs to a request of its own or is
about one inquiry that has arrived, which is a command or a notification. What is written about an
inquiry are beginnings of answers that broke off, and at most one whole answer after them: a
response or, to a command only, an error, which goes to the one who asks and bears the service and
the type that were asked for. So at most one of the packets about an inquiry ends a message. A step
in which no inquiry arrives, and no refusal is tried again, writes nothing. -/
theorem answered_at_most_once (hopening : start.IsOpening)
    (hrun : Relation.ReflTransGen Step start x) :
    x.endpoint.world.tap = start.endpoint.world.tap ++ x.docket.journal.flatMap (·.2)
    ∧ (∀ entry ∈ x.docket.journal, (∃ n < x.docket.asked.length, entry.1 = .request n)
      ∨ entry.1 = .own ∨ entry.2 = [])
    ∧ (∀ n q, x.docket.asked[n]? = some q → q.frame.isRequest = true
      ∧ (∃ whole, Answering start.endpoint.node.suite q (x.docket.about n) whole)
      ∧ ((x.docket.about n).countP fun entry => endsMessage entry.2) ≤ 1)
    ∧ ∀ clock l e, x.listener.step clock x.endpoint = some (l, e) →
      x.listener.arrival? x.endpoint = none → x.listener.debt? = none →
      Idles x.endpoint e ∧ l.debt? = none := by
  have hsound := hopening.isSound_of_run hrun
  refine ⟨hsound.tap, fun entry hentry => hsound.kept.fair.journal hentry, fun n q hq => ?_, ?_⟩
  · obtain ⟨whole, hanswering, _⟩ := hsound.kept.fair.answering hq
    exact ⟨hsound.requests (List.mem_of_getElem? hq), ⟨whole, hanswering⟩,
      hanswering.countP ▸ Bool.toNat_le whole⟩
  · intro clock l e hstep harrival hdebt
    have hhears := x.listener.hears_step clock x.endpoint hstep
    -- Without an arrival and without a debt only idling is left.
    rw [harrival, hdebt] at hhears
    cases hhears with
    | queues h => cases h
    | answers h => cases h
    | pays _ h => cases h
    | idles _ _ hdebt' hidles => exact ⟨hidles, hdebt'⟩

end

/-! ## An unknown service -/

/-- A storage service that has heard nothing, on a link. -/
def storageDesk (net : Net) : Office LogStore DeskWorld where
  listener := .start {}
  attendant := .service (.start (.empty none))
  endpoint := ⟨.start 1 Slot.last.assignedAddress {} [.storage] 1,
    ⟨⟨net, .start true true none [] none none⟩, []⟩⟩
  docket := .empty

/-- A link on which the first write of the service will fail. -/
def faultyNet : Net :=
  (Net.start [.controller, Slot.last.assignedAddress]).failWrites 1 [.writeFailed]

/-- The packets of a command for a service that nobody knows. -/
def strangePackets : List Bytes :=
  match ((Dispatcher.start 0 .controller {} [] 0).frame Slot.last.assignedAddress true
    (envelope .command 0xee 7 [])).1 with
  | .error _ => []
  | .ok outgoing => outgoing.packets

/-- The office after its listener has acted, if it had anything to do. -/
def listen (x : Office LogStore DeskWorld) (clock : Clock) : Office LogStore DeskWorld :=
  match x.listener.step clock x.endpoint with
  | some (l, e) => x.heard l e
  | none => x

theorem reaches_listen (x : Office LogStore DeskWorld) (clock : Clock) :
    Relation.ReflTransGen Step x (x.listen clock) := by
  unfold listen
  split
  · next hstep => exact .single (.listen clock hstep)
  · exact .refl

/-- The command is refused, first in vain and then again. -/
def strangeRefused : Office LogStore DeskWorld :=
  ((storageDesk (faultyNet.inject 1 strangePackets)).listen ⟨0, 1⟩).listen ⟨100000, 2⟩

/-- What was written is one whole answer to the command, an error, and nothing else. -/
theorem unknown_service_is_refused_once :
    strangeRefused.docket.asked = [⟨.controller, .command, 0xee, 7⟩]
    ∧ strangeRefused.endpoint.world.tap.length = 1
    ∧ ∃ whole, Answering .standard ⟨.controller, .command, 0xee, 7⟩
      strangeRefused.endpoint.world.tap whole := by
  have hasked : strangeRefused.docket.asked = [⟨.controller, .command, 0xee, 7⟩] := by
    decide +kernel
  have harrives : Step (storageDesk faultyNet) (storageDesk (faultyNet.inject 1 strangePackets)) :=
    .drift ⟨rfl, rfl, rfl⟩
  have hrun : Relation.ReflTransGen Step (storageDesk faultyNet) strangeRefused :=
    (Relation.ReflTransGen.single harrives).trans
      ((reaches_listen _ ⟨0, 1⟩).trans (reaches_listen _ ⟨100000, 2⟩))
  obtain ⟨_, _, hanswers, _⟩ := answered_at_most_once ⟨rfl, rfl, rfl, rfl⟩ hrun
  obtain ⟨_, ⟨whole, hanswering⟩, _⟩ := hanswers 0 _ (by rw [hasked]; rfl)
  refine ⟨hasked, by decide +kernel, whole, ?_⟩
  have habout : strangeRefused.docket.about 0 = strangeRefused.endpoint.world.tap := by
    decide +kernel
  rw [← habout]
  exact hanswering

end Office

end ModuleBus

import ModuleBus.Proofs.Handshake.Minding
import ModuleBus.Simulation.Job

set_option autoImplicit false

/-! # The calls and the requests of a module

Whatever a module is about, it waits for the reply to one call at most, and a loss of power makes it
forget that one. Requests leave the queue of its participant one by one, as a server takes them up,
and what a server is about ends with the power (`Job.Turns`). -/

namespace ModuleBus

open Endpoint (Minds)

/-! ## What modules ask for -/

theorem Exchange.isTame_ofRequest {α : Type} {timeout : Nat}
    {request : Except DispatchError (Request α)} (h : ∀ r, request = .ok r → r.IsTame) :
    (Exchange.ofRequest timeout request).IsTame := by
  cases request with
  | error error => trivial
  | ok r => exact h r rfl

namespace Client

theorem isTame_write {name : String} {data : Bytes} {r : Request StorageRecord}
    (h : write name data = .ok r) : r.IsTame := by
  unfold write at h
  cases hpayload : namedPayload name data with
  | error error =>
    rw [hpayload] at h
    cases h
  | ok payload =>
    rw [hpayload] at h
    cases h
    exact fun _ _ => ⟨rfl, rfl⟩

theorem isTame_publish {name topic : String} {data : Bytes} {r : Request Int}
    (h : publish name topic data = .ok r) : r.IsTame := by
  unfold publish at h
  cases hpayload : TopicMessage.publishPayload topic name data with
  | error error =>
    rw [hpayload] at h
    cases h
  | ok payload =>
    rw [hpayload] at h
    cases h
    intro bytes d
    dsimp only
    unfold remarkRefusal
    split
    · split
      · exact ⟨rfl, rfl⟩
      · exact ⟨rfl, rfl⟩
    · exact ⟨rfl, rfl⟩

end Client

/-! ## Sensors -/

namespace Sampling

/-- The ticket of the call that is waited for. -/
def ticket? : Sampling → Option Ticket
  | locating x => x.ticket?
  | subscribing x | tickling x | sleeping x => x.ticket?
  | timing x => x.ticket?
  | storing x => x.ticket?
  | publishing x => x.ticket?
  | querying x => x.ticket?
  | resting _ => none

/-- The exchange that the stage is about, if any, leaves the other calls and the queue alone. -/
def IsTame : Sampling → Prop
  | locating x => x.IsTame
  | subscribing x | tickling x | sleeping x => x.IsTame
  | timing x => x.IsTame
  | storing x => x.IsTame
  | publishing x => x.IsTame
  | querying x => x.IsTame
  | resting _ => True

/-- A stage follows upon the call with a ticket. -/
def Follows (t : Option Ticket) (e : Endpoint Backplane)
    (next : Sampling × Endpoint Backplane) : Prop :=
  next.1.IsTame ∧ Minds t next.1.ticket? e next.2

end Sampling

namespace Job

open Sampling (Follows)

variable {j j' : Job} {clock : Clock} {e e' : Endpoint Backplane}

theorem follows_begin {α : Type} (x : Exchange α) (clock : Clock) (stage : Exchanging α → Sampling)
    (e : Endpoint Backplane) (hx : x.IsTame) (hticket : ∀ y, (stage y).ticket? = y.ticket?)
    (htame : ∀ y, y.IsTame → (stage y).IsTame) : Follows none e (begin x clock stage e) := by
  obtain ⟨hstart, hminds⟩ := Exchanging.minds_start hx clock e
  refine ⟨htame _ hstart, ?_⟩
  rw [begin, hticket]
  exact hminds

theorem follows_beginQuery (j : Job) (clock : Clock) (e : Endpoint Backplane) :
    Follows none e (j.beginQuery clock e) :=
  follows_begin (.request Client.queryEnergy _) clock .querying e (fun _ _ => ⟨rfl, rfl⟩)
    (fun _ => rfl) fun _ h => h

theorem follows_afterPublishing (j : Job) (samples : Nat) (clock : Clock)
    (e : Endpoint Backplane) : Follows none e (j.afterPublishing samples clock e) := by
  unfold afterPublishing
  split
  · exact follows_begin (.request Client.tickle _) clock .tickling e (fun _ _ => ⟨rfl, rfl⟩)
      (fun _ => rfl) fun _ h => h
  · dsimp only
    split
    · obtain ⟨htame, hminds⟩ := j.follows_beginQuery clock (e.note .warning)
      have hnoted : Minds none none e (e.note .warning) := .of_eq rfl rfl
      exact ⟨htame, hnoted.trans hminds⟩
    · exact j.follows_beginQuery clock e

theorem follows_afterQuery (j : Job) (clock : Clock) (e : Endpoint Backplane) :
    Follows none e (j.afterQuery clock e) := by
  unfold afterQuery
  split
  · exact ⟨trivial, .refl e⟩
  · next ms _ =>
    exact follows_begin (.notice (Client.sleep (UInt32.ofNat ms)) _) clock .sleeping e trivial
      (fun _ => rfl) fun _ h => h

/-! ## Steps without a new request -/

/-- What a module is about. -/
def ticket? (j : Job) : Option Ticket :=
  match j.activity with
  | .shaking h => h.ticket?
  | .relaying _ (.underway x _) _ => x.ticket?
  | .sampling _ _ stage => stage.ticket?
  | _ => none

/-- The exchange that the job is about, if any, leaves the other calls and the queue alone. -/
def IsTame (j : Job) : Prop :=
  match j.activity with
  | .relaying _ (.underway x _) _ => x.IsTame
  | .sampling _ _ stage => stage.IsTame
  | _ => True

/-- A server is about a request that it has taken up. -/
def isServing (j : Job) : Bool :=
  j.storage.waiting != .forRequest || j.relay.waiting != .forRequest

/-- A step of a module with power that leaves the queue and the servers alone. -/
structure GoesOn (j j' : Job) (e e' : Endpoint Backplane) : Prop where
  isOn : j'.activity ≠ .off
  tame : j'.IsTame
  serving : j'.isServing = j.isServing
  minds : Minds j.ticket? j'.ticket? e e'

theorem goesOn_beginSample {j₁ : Job} (hserving : j₁.isServing = j.isServing)
    (hticket : j.ticket? = none) (samples : Nat) (clock : Clock) {e₁ : Endpoint Backplane}
    (hminds : Minds none none e e₁) :
    j.GoesOn (j₁.beginSample samples clock e₁).1 e (j₁.beginSample samples clock e₁).2 := by
  have hdrawn : Minds none none e₁ (drawReading e₁).2 := .of_eq rfl rfl
  obtain ⟨htame, hbegun⟩ := follows_begin (.request Client.getDateTime
    j₁.settings.services.timeLocation) clock .timing (drawReading e₁).2 (fun _ _ => ⟨rfl, rfl⟩)
    (fun _ => rfl) fun _ h => h
  exact ⟨nofun, htame, hserving, hticket ▸ hminds.trans (hdrawn.trans hbegun)⟩

theorem goesOn_stepSampling {samples reading : Nat} {stage : Sampling}
    (hactivity : j.activity = .sampling samples reading stage) (hstage : stage.IsTame)
    (h : j.stepSampling samples reading stage clock e = some (j', e')) : j.GoesOn j' e e' := by
  have hticket : j.ticket? = stage.ticket? := by rw [ticket?, hactivity]
  have hsample (j₁ : Job) (h₁ : j₁.isServing = j.isServing) (hnone : stage.ticket? = none)
      (h : some (j₁.beginSample samples clock e) = some (j', e')) : j.GoesOn j' e e' := by
    have hbegun := goesOn_beginSample h₁ (hticket.trans hnone) samples clock (.refl e)
    rw [Option.some.inj h] at hbegun
    exact hbegun
  have hgo (j₁ : Job) (h₁ : j₁.isServing = j.isServing) (next : Sampling × Endpoint Backplane)
      (hnext : Follows stage.ticket? e next)
      (h : some (({ j₁ with activity := .sampling samples reading next.1 } : Job), next.2)
        = some (j', e')) : j.GoesOn j' e e' := by
    cases h
    exact ⟨nofun, hnext.1, h₁, hticket ▸ hnext.2⟩
  have hwait {α : Type} (x : Exchanging α) (next : Exchanging α → Sampling) (hx : x.IsTame)
      (hsame : stage.ticket? = x.ticket?) (hnext : ∀ y, (next y).ticket? = y.ticket?)
      (htame : ∀ y, y.IsTame → (next y).IsTame)
      (h : ((x.step clock e).bind fun y =>
        some (({ j with activity := .sampling samples reading (next y.1) } : Job), y.2))
          = some (j', e')) : j.GoesOn j' e e' := by
    cases hstep : x.step clock e with
    | none =>
      rw [hstep] at h
      cases h
    | some y =>
      rw [hstep] at h
      obtain ⟨hy, hminds⟩ := Exchanging.minds_step hx hstep
      refine hgo j rfl (next y.1, y.2) ⟨htame _ hy, ?_⟩ h
      rw [hsame, hnext]
      exact hminds
  rw [stepSampling.eq_def] at h
  simp only at h
  split at h
  · split at h
    · exact hgo j rfl _ (follows_begin (.request Client.startWatchdog _) clock .subscribing e
        (fun _ _ => ⟨rfl, rfl⟩) (fun _ => rfl) fun _ h => h) h
    · exact hsample j rfl rfl h
  · next result =>
    cases result with
    | ok _ => exact hsample j rfl rfl h
    | error error => exact hsample (j.failed clock "watchdog start" error) rfl rfl h
  · exact hgo j rfl _ (follows_begin _ clock .storing e
      (Exchange.isTame_ofRequest fun _ h => Client.isTame_write h) (fun _ => rfl) fun _ h => h) h
  · next result =>
    have hnext (j₁ : Job) := follows_begin (Exchange.ofRequest j.settings.services.networking
      (Client.publish j₁.description.name sampleTopic (readingBytes reading))) clock .publishing e
      (Exchange.isTame_ofRequest fun _ h => Client.isTame_publish h) (fun _ => rfl) fun _ h => h
    cases result with
    | ok record => exact hgo (j.report clock _) rfl _ (hnext _) h
    | error error => exact hgo (j.failed clock _ error) rfl _ (hnext _) h
  · exact hgo (j.report clock _) rfl _ (follows_afterPublishing _ samples clock e) h
  · next error =>
    exact hgo (j.failed clock _ error) rfl _ (follows_afterPublishing _ samples clock e) h
  · next result =>
    cases result with
    | ok _ => exact hgo j rfl _ (follows_beginQuery j clock e) h
    | error error => exact hgo (j.failed clock _ error) rfl _ (follows_beginQuery _ clock e) h
  · next information =>
    refine hgo (j.report clock (.energyQueried information)) rfl _ ?_ h
    split
    · obtain ⟨htame, hminds⟩ := follows_afterQuery (j.report clock (.energyQueried information))
        clock (e.note .warning)
      have hnoted : Minds none none e (e.note .warning) := .of_eq rfl rfl
      exact ⟨htame, hnoted.trans hminds⟩
    · exact follows_afterQuery _ clock e
  · next error => exact hgo (j.failed clock _ error) rfl _ (follows_afterQuery _ clock e) h
  · next result =>
    have hrest : Follows none e (j.beginRest clock, e) := ⟨trivial, .refl e⟩
    cases result with
    | ok done =>
      cases done
      exact hgo (j.report clock _) rfl _ hrest h
    | error error => exact hgo (j.failed clock _ error) rfl _ hrest h
  · split at h
    · exact hsample j rfl rfl h
    · cases h
  · exact hwait _ .locating hstage rfl (fun _ => rfl) (fun _ h => h) h
  · exact hwait _ .subscribing hstage rfl (fun _ => rfl) (fun _ h => h) h
  · exact hwait _ .timing hstage rfl (fun _ => rfl) (fun _ h => h) h
  · exact hwait _ .storing hstage rfl (fun _ => rfl) (fun _ h => h) h
  · exact hwait _ .publishing hstage rfl (fun _ => rfl) (fun _ h => h) h
  · exact hwait _ .tickling hstage rfl (fun _ => rfl) (fun _ h => h) h
  · exact hwait _ .querying hstage rfl (fun _ => rfl) (fun _ h => h) h
  · exact hwait _ .sleeping hstage rfl (fun _ => rfl) (fun _ h => h) h

theorem goesOn_stepReporting {ticker ticker' : Nat} {reporting reporting' : Reporting}
    {forwarding : Forwarding} (hactivity : j.activity = .relaying ticker reporting forwarding)
    (htame : j.IsTame)
    (h : j.stepReporting ticker reporting clock e = some (j', ticker', reporting', e')) :
    j.GoesOn { j' with activity := .relaying ticker' reporting' forwarding } e e' := by
  rw [IsTame, hactivity] at htame
  rw [stepReporting.eq_def] at h
  simp only at h
  split at h
  · have hticket : j.ticket? = none := by rw [ticket?, hactivity]
    split at h
    · cases h
    · split at h
      · cases h
        exact ⟨nofun, trivial, rfl, hticket ▸ .refl e⟩
      · cases h
        obtain ⟨hx, hminds⟩ := Exchanging.minds_start (x := .request (Client.reportEnergy
          j.relay.handler.owed.entries) j.settings.services.energy) (fun _ _ => ⟨rfl, rfl⟩) clock e
        exact ⟨nofun, hx, rfl, hticket ▸ hminds⟩
  · have hticket : j.ticket? = none := by rw [ticket?, hactivity]; rfl
    cases h
    exact ⟨nofun, trivial, rfl, hticket ▸ .refl e⟩
  · have hticket : j.ticket? = none := by rw [ticket?, hactivity]; rfl
    cases h
    exact ⟨nofun, trivial, rfl, hticket ▸ .refl e⟩
  · next x costs _ _ =>
    have hticket : j.ticket? = x.ticket? := by rw [ticket?, hactivity]
    obtain ⟨⟨y, e₁⟩, hstep, heq⟩ := Option.map_eq_some_iff.mp h
    cases heq
    obtain ⟨hy, hminds⟩ := Exchanging.minds_step htame hstep
    exact ⟨nofun, hy, rfl, hticket ▸ hminds⟩

/-- A message from outside is forwarded whether or not a report is underway. -/
theorem goesOn_stepForwarding {ticker : Nat} {reporting : Reporting}
    {forwarding forwarding' : Forwarding}
    (hactivity : j.activity = .relaying ticker reporting forwarding) (htame : j.IsTame)
    (h : j.stepForwarding forwarding clock e = some (j', forwarding', e')) :
    j.GoesOn { j' with activity := .relaying ticker reporting forwarding' } e e' := by
  have hsame (j₁ : Job) (h₁ : j₁.isServing = j.isServing) (hminds : ∀ t, Minds t t e e') :
      j.GoesOn { j₁ with activity := .relaying ticker reporting forwarding' } e e' := by
    have hticket : ({ j₁ with activity := .relaying ticker reporting forwarding' } : Job).ticket?
        = j.ticket? := by
      simp only [ticket?, hactivity]
      cases reporting <;> rfl
    refine ⟨nofun, ?_, h₁, hticket ▸ hminds _⟩
    rw [IsTame, hactivity] at htame
    cases reporting with
    | forTicker => trivial
    | underway x costs => exact htame
  rw [stepForwarding.eq_def] at h
  split at h
  · cases h
  · split at h
    · cases h
      exact hsame j rfl fun t => .refl e
    · cases h
      exact hsame j rfl fun t => .refl e
  · next d timer others =>
    split at h
    · cases h
    · cases hforward : Client.forward ⟨d.topic, Utf8.ofText d.data⟩ with
      | error error =>
        simp only [hforward, Exchanging.start] at h
        cases h
        exact hsame (j.failed clock _ _) rfl fun t => .refl e
      | ok n =>
        -- What is sent is a notice, so that no call begins.
        have hsent (t : Option Ticket) := e.minds_send (t := t) n.peer n.frame n.service n.type
          n.payload
        rcases hsend : e.send n.peer n.frame n.service n.type n.payload with ⟨error | written, e₁⟩
        · rw [hsend] at hsent
          simp only [hforward, Exchanging.start, hsend, Except.map] at h
          cases h
          exact hsame (j.failed clock _ _) rfl hsent
        · rw [hsend] at hsent
          simp only [hforward, Exchanging.start, hsend, Except.map] at h
          cases h
          exact hsame (j.report clock _) rfl hsent

theorem goesOn_beginWork (j₁ : Job) (hserving : j₁.isServing = j.isServing)
    (hticket : j.ticket? = none) (clock : Clock) (e : Endpoint Backplane) :
    j.GoesOn (j₁.beginWork clock e).1 e (j₁.beginWork clock e).2 := by
  unfold beginWork
  split
  · exact ⟨nofun, trivial, hserving, hticket ▸ .refl e⟩
  · exact ⟨nofun, trivial, hserving, hticket ▸ .refl e⟩
  · obtain ⟨htame, hminds⟩ := follows_begin (.request Client.getLocation
      j₁.settings.services.timeLocation) clock .locating e (fun _ _ => ⟨rfl, rfl⟩) (fun _ => rfl)
      fun _ h => h
    exact ⟨nofun, htame, hserving, hticket ▸ hminds⟩

/-! ## All steps -/

/-- What a step of a module does to its calls and its requests. -/
structure Turns (j j' : Job) (e e' : Endpoint Backplane) : Prop where
  tame : j'.IsTame
  /-- Without power no server is about anything. -/
  off : j'.activity = .off → j'.isServing = false
  calls : e.node.pending.IsOnly j.ticket? → e'.node.pending.IsOnly j'.ticket?
  /-- Unless a request is taken up, no server begins to be about one. -/
  queue : (∃ m, e.node.inbound = m :: e'.node.inbound)
    ∨ e'.node.inbound = e.node.inbound ∧ (j.isServing = false → j'.isServing = false)

theorem GoesOn.turns (h : j.GoesOn j' e e') : j.Turns j' e e' :=
  ⟨h.tame, fun hoff => absurd hoff h.isOn, h.minds.calls,
    .inr ⟨h.minds.inbound, fun hserving => h.serving.trans hserving⟩⟩

/-- A step of a server of the module. -/
theorem turns_of_server {H : Type} [Handler H Backplane] {s s' : Server H}
    (h : s.step clock e = some (s', e')) (hactivity : j'.activity = j.activity)
    (hon : j.activity ≠ .off) (htame : j.IsTame)
    (hserving : s.waiting ≠ .forRequest → j.isServing = true) : j.Turns j' e e' := by
  have hticket : j'.ticket? = j.ticket? := by rw [ticket?, ticket?, hactivity]
  have htame' : j'.IsTame := by
    rw [IsTame, hactivity]
    exact htame
  have hon' : j'.activity ≠ .off := hactivity ▸ hon
  rcases Server.minds_step (t := j.ticket?) s clock e h with
    ⟨-, m, hinbound, hcalls⟩ | ⟨hbusy, hminds⟩
  · exact ⟨htame', fun hoff => absurd hoff hon', hticket ▸ hcalls, .inl ⟨m, hinbound⟩⟩
  · refine ⟨htame', fun hoff => absurd hoff hon', hticket ▸ hminds.calls, .inr ⟨hminds.inbound, ?_⟩⟩
    intro hidle
    rw [hserving hbusy] at hidle
    cases hidle

theorem turns_live (htame : j.IsTame) (h : j.live clock e = some (j', e')) : j.Turns j' e e' := by
  rw [live] at h
  split at h
  · cases h
  · next handshake hactivity =>
    split at h
    · next address haddress =>
      -- A handshake that has its address waits for nothing.
      have hticket : j.ticket? = none := by
        rw [ticket?, hactivity]
        unfold Handshake.address? at haddress
        split at haddress
        · next hwaiting =>
          simp only [Handshake.ticket?, Handshake.call?, hwaiting, Option.map_none]
        · cases haddress
      have hbegun := goesOn_beginWork (j := j)
        (j.report clock (.initialized address handshake.attempts)) rfl hticket clock e
      rw [Option.some.inj h] at hbegun
      exact hbegun.turns
    · obtain ⟨⟨handshake', e₁⟩, hstep, heq⟩ := Option.map_eq_some_iff.mp h
      cases heq
      have hticket : j.ticket? = handshake.ticket? := by rw [ticket?, hactivity]
      exact GoesOn.turns
        ⟨fun h => (by cases h), trivial, rfl, hticket ▸ Handshake.minds_step hstep⟩
  · next hactivity =>
    obtain ⟨⟨s, e₁⟩, hstep, heq⟩ := Option.map_eq_some_iff.mp h
    cases heq
    have hon : j.activity ≠ .off := fun hoff => by
      rw [hoff] at hactivity
      cases hactivity
    refine turns_of_server hstep rfl hon htame fun hbusy => ?_
    rw [isServing, bne_iff_ne.mpr hbusy, Bool.true_or]
  · next ticker reporting forwarding hactivity =>
    split at h
    · next relay e₁ hrelay =>
      cases h
      have hon : j.activity ≠ .off := fun hoff => by
        rw [hoff] at hactivity
        cases hactivity
      refine turns_of_server hrelay rfl hon htame fun hbusy => ?_
      rw [isServing, bne_iff_ne.mpr hbusy, Bool.or_true]
    · split at h
      · next hreporting =>
        cases h
        exact (goesOn_stepReporting hactivity htame hreporting).turns
      · obtain ⟨⟨j₁, forwarding', e₁⟩, hforwarding, heq⟩ := Option.map_eq_some_iff.mp h
        cases heq
        exact (goesOn_stepForwarding hactivity htame hforwarding).turns
  · next samples reading stage hactivity =>
    rw [IsTame, hactivity] at htame
    exact (goesOn_stepSampling hactivity htame h).turns

theorem minds_abandonCalls (j : Job) (e : Endpoint Backplane) :
    Minds j.ticket? none e (j.abandonCalls e) := by
  unfold ticket? abandonCalls
  cases j.activity with
  | off => exact .refl e
  | shaking h => exact h.minds_abandonCall e
  | storing => exact .refl e
  | relaying ticker reporting forwarding =>
    cases reporting with
    | forTicker => exact .refl e
    | underway x costs => exact x.minds_abandon e
  | sampling samples reading stage =>
    cases stage with
    | resting timer => exact .refl e
    | locating x => exact x.minds_abandon e
    | subscribing x => exact x.minds_abandon e
    | timing x => exact x.minds_abandon e
    | storing x => exact x.minds_abandon e
    | publishing x => exact x.minds_abandon e
    | tickling x => exact x.minds_abandon e
    | querying x => exact x.minds_abandon e
    | sleeping x => exact x.minds_abandon e

theorem turns_losePower (j : Job) (clock : Clock) (e : Endpoint Backplane) :
    j.Turns (j.losePower clock e).1 e (j.losePower clock e).2 := by
  have hminds := j.minds_abandonCalls e
  exact ⟨trivial, fun _ => rfl, hminds.calls, .inr ⟨hminds.inbound, fun _ => rfl⟩⟩

/-- What a module forgets as it is switched on, and what it keeps. -/
theorem bootUp_frame (j : Job) (clock : Clock) (e : Endpoint Backplane) :
    (j.bootUp clock e).2.address = factoryAddress j.description.kind
    ∧ (j.bootUp clock e).2.node.keys = []
    ∧ (j.bootUp clock e).2.node.pending = e.node.pending
    ∧ (j.bootUp clock e).2.node.inbound = e.node.inbound
    ∧ (j.bootUp clock e).2.node.port = e.node.port
    ∧ ∀ port, (j.bootUp clock e).2.world.ports[e.node.port]? = some port →
      port.address = factoryAddress j.description.kind ∧ port.inbox = [] := by
  refine ⟨rfl, rfl, rfl, rfl, rfl, fun port hport => ?_⟩
  change ((e.world.ports.modify e.node.port fun port => { port with inbox := [] }).modify
    e.node.port fun port =>
      { port with address := factoryAddress j.description.kind })[e.node.port]? = some port at hport
  rw [List.getElem?_modify_eq, List.getElem?_modify_eq] at hport
  obtain ⟨flushed, hflushed, rfl⟩ := Option.map_eq_some_iff.mp hport
  obtain ⟨old, -, rfl⟩ := Option.map_eq_some_iff.mp hflushed
  exact ⟨rfl, rfl⟩

theorem goesOn_bootUp (hactivity : j.activity = .off) (clock : Clock) (e : Endpoint Backplane) :
    j.GoesOn (j.bootUp clock e).1 e (j.bootUp clock e).2 := by
  have hticket : j.ticket? = none := by rw [ticket?, hactivity]
  exact ⟨nofun, trivial, rfl, hticket ▸ .of_eq rfl rfl⟩

/-- **What a step of a module does to its calls and its requests.** -/
theorem turns_step {before : Backplane} (htame : j.IsTame)
    (h : j.step before clock e = some (j', e')) : j.Turns j' e e' := by
  rw [step] at h
  split at h
  · next hactivity =>
    split at h
    · have hbooted := goesOn_bootUp hactivity clock e
      rw [Option.some.inj h] at hbooted
      exact hbooted.turns
    · cases h
  · split at h
    · next hlive =>
      cases h
      exact turns_live htame hlive
    · split at h
      · cases h
      · have hturns := turns_losePower j clock e
        rw [Option.some.inj h] at hturns
        exact hturns

end Job

end ModuleBus

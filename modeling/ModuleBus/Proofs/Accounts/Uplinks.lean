import ModuleBus.Proofs.Accounts.Reports

set_option autoImplicit false

/-! # What a step of a module means for the costs of uplinks

Costs are owed by publishers, in a report, or settled. A step of a module either spares them, or it
notes an uplink, begins a report of all that is owed, or ends one (`Job.Bills`); when a report ends
without success, its costs are owed again. -/

namespace ModuleBus

/-! ## Reports -/

/-- What has become of the radio's call for a report. -/
inductive Fate where
  | underway
  | confirmed
  /-- The call failed, and the costs were taken back. -/
  | restored
  /-- The power was lost before the call ended. -/
  | cut
deriving DecidableEq

/-- The call of the exchange has not ended. -/
def Exchanging.isWaiting {α : Type} : Exchanging α → Bool
  | .waiting _ _ => true
  | .finished _ => false

/-- What becomes of a report when the radio is no longer about it. -/
def Exchanging.fate {α : Type} : Exchanging α → Fate
  | .finished (.ok _) => .confirmed
  | .finished (.error _) => .restored
  | .waiting _ _ => .cut

/-! ## Servers -/

namespace Server

variable {H W : Type} [Link W] {s s' : Server H} {clock : Clock} {e e' : Endpoint W}

theorem handler_noteFailure (s : Server H) (code : ErrorCode) :
    (s.noteFailure code).handler = s.handler := by
  rw [noteFailure]
  split <;> rfl

theorem handler_refuse (s : Server H) (clock : Clock) (r : ErrorReply) (e : Endpoint W) :
    (s.refuse clock r e).1.handler = s.handler := by
  rw [refuse]
  split <;> rfl

theorem handler_fail (s : Server H) (clock : Clock) (m : Message) (code : ErrorCode)
    (e : Endpoint W) : (s.fail clock m code e).1.handler = s.handler := by
  simp only [fail]
  split
  · rw [handler_refuse, handler_noteFailure]
  · exact handler_noteFailure s code

theorem handler_answer (s : Server H) (clock : Clock) (m : Message) (payload : Bytes)
    (e : Endpoint W) : (s.answer clock m payload e).1.handler = s.handler := by
  rw [answer]
  split
  · rfl
  · exact handler_fail s clock m _ _

variable [Handler H W]

/-- A step of a server takes at most one message to its handler. -/
theorem handler_step (h : s.step clock e = some (s', e')) :
    s'.handler = s.handler ∨
      ∃ m, s'.handler = (Handler.handle clock m s.handler e.world).2.1 := by
  rw [step] at h
  split at h
  · split at h
    · cases h
    · next m rest _ =>
      right
      refine ⟨m, ?_⟩
      have hserved : s' = (s.serve clock m (e.update fun d => { d with inbound := rest })).1 :=
        congrArg Prod.fst (Option.some.inj h).symm
      rw [hserved, serve]
      simp only
      split
      · rw [handler_answer]
        rfl
      · rfl
      · rw [handler_fail]
        rfl
      · rfl
  · next m payload timer _ =>
    left
    split at h
    · rw [← handler_answer s clock m payload e]
      exact congrArg (·.1.handler) (Option.some.inj h).symm
    · cases h
  · next r timer _ =>
    left
    split at h
    · rw [← handler_refuse s clock r e]
      exact congrArg (·.1.handler) (Option.some.inj h).symm
    · cases h

end Server

/-! ## The radio -/

/-- A publication is owed for, and noted; anything else changes nothing. -/
theorem Relay.handle_cases (clock : Clock) (m : Message) (r : Relay) (b : Backplane) :
    (Handler.handle clock m r b).2.1 = r ∨
      (∀ a, (Handler.handle clock m r b).2.1.owed.due a
        = r.owed.due a + if m.source = a then r.cost else 0)
      ∧ ∃ delivered, (Handler.handle clock m r b).2.1.events
        = ⟨clock.now, r.slot, .uplink m.source delivered⟩ :: r.events := by
  simp only [Handler.handle]
  split
  · exact .inl rfl
  · right
    refine ⟨fun a => ?_, _, rfl⟩
    simp only
    split
    · exact Costs.due_add m.source r.cost r.owed a
    · next hfree =>
      have hcost : r.cost = 0 := by omega
      simp [hcost]

namespace Job

/-- What publishers owe that is not in a report. -/
def owed (j : Job) : Costs := j.relay.handler.owed

/-- What an uplink costs. -/
def uplinkCost (j : Job) : Nat := j.relay.handler.cost

/-- The report that the radio is about, with its costs. -/
def underway? (j : Job) : Option (Exchanging Unit × Costs) :=
  match j.activity with
  | .relaying _ (.underway x costs) _ => some (x, costs)
  | _ => none

/-- Uplinks for a publisher, by the events that nobody has taken yet. -/
def uplinks (j : Job) (a : Address) : Nat :=
  (j.relay.handler.events ++ j.events).countP fun e =>
    match e.event with
    | .uplink source _ => source == a
    | _ => false

/-! ## Steps that spare the costs -/

/-- A change that has nothing to do with costs. -/
structure Spares (j j' : Job) : Prop where
  owed : j'.owed = j.owed
  uplinks : ∀ a, j'.uplinks a = j.uplinks a

theorem Spares.refl (j : Job) : j.Spares j := ⟨rfl, fun _ => rfl⟩

theorem Spares.trans {j j' j'' : Job} (h : j.Spares j') (h' : j'.Spares j'') : j.Spares j'' :=
  ⟨h'.owed.trans h.owed, fun a => (h'.uplinks a).trans (h.uplinks a)⟩

theorem spares_report (j : Job) (clock : Clock) {event : ModuleEvent}
    (h : ∀ source delivered, event ≠ .uplink source delivered) :
    j.Spares (j.report clock event) := by
  refine ⟨rfl, fun a => ?_⟩
  rw [uplinks, uplinks, report, List.countP_append, List.countP_append, List.countP_cons]
  cases event with
  | uplink source delivered => exact absurd rfl (h source delivered)
  | _ => rfl

theorem spares_failed (j : Job) (clock : Clock) (what : String) (error : DispatchError) :
    j.Spares (j.failed clock what error) :=
  spares_report j clock (by simp)

theorem spares_stepSampling {j j' : Job} {samples reading : Nat} {stage : Sampling} {clock : Clock}
    {e e' : Endpoint Backplane}
    (h : j.stepSampling samples reading stage clock e = some (j', e')) :
    j.Spares j' ∧ j'.underway? = none := by
  have hsample (j₁ : Job) (h₁ : j.Spares j₁) (e₁ : Endpoint Backplane)
      (h : some (j₁.beginSample samples clock e₁) = some (j', e')) :
      j.Spares j' ∧ j'.underway? = none := by
    obtain rfl := congrArg Prod.fst (Option.some.inj h)
    exact ⟨h₁.trans ⟨rfl, fun _ => rfl⟩, rfl⟩
  have hgo (j₁ : Job) (h₁ : j.Spares j₁) (next : Sampling × Endpoint Backplane)
      (h : some (({ j₁ with activity := .sampling samples reading next.1 } : Job), next.2)
        = some (j', e')) : j.Spares j' ∧ j'.underway? = none := by
    obtain rfl := congrArg Prod.fst (Option.some.inj h)
    exact ⟨h₁.trans ⟨rfl, fun _ => rfl⟩, rfl⟩
  have hwait {α : Type} (x : Exchanging α) (next : Exchanging α → Sampling)
      (h : ((x.step clock e).bind fun y =>
        some (({ j with activity := .sampling samples reading (next y.1) } : Job), y.2))
          = some (j', e')) : j.Spares j' ∧ j'.underway? = none := by
    cases hx : x.step clock e with
    | none =>
      rw [hx] at h
      cases h
    | some y =>
      rw [hx] at h
      exact hgo j (.refl j) (next y.1, y.2) h
  -- Each stage ends in the next sample, in another stage, or in more waiting.
  rw [stepSampling.eq_def] at h
  simp only at h
  split at h
  · split at h
    · exact hgo j (.refl j) _ h
    · exact hsample j (.refl j) e h
  · next result =>
    cases result with
    | ok _ => exact hsample j (.refl j) e h
    | error error => exact hsample _ (spares_failed j clock _ error) e h
  · exact hgo j (.refl j) _ h
  · next result =>
    cases result with
    | ok record => exact hgo _ (spares_report j clock (by simp)) _ h
    | error error => exact hgo _ (spares_failed j clock _ error) _ h
  · exact hgo _ (spares_report j clock (by simp)) _ h
  · next error => exact hgo _ (spares_failed j clock _ error) _ h
  · next result =>
    cases result with
    | ok _ => exact hgo j (.refl j) _ h
    | error error => exact hgo _ (spares_failed j clock _ error) _ h
  · exact hgo _ (spares_report j clock (by simp)) _ h
  · next error => exact hgo _ (spares_failed j clock _ error) _ h
  · next result =>
    cases result with
    | ok done =>
      cases done
      exact hgo _ (spares_report j clock (by simp)) (_, e) h
    | error error => exact hgo _ (spares_failed j clock _ error) (_, e) h
  · split at h
    · exact hsample j (.refl j) e h
    · cases h
  all_goals exact hwait _ _ h

theorem spares_stepForwarding {j j' : Job} {forwarding forwarding' : Forwarding} {clock : Clock}
    {e e' : Endpoint Backplane}
    (h : j.stepForwarding forwarding clock e = some (j', forwarding', e')) : j.Spares j' := by
  rw [stepForwarding.eq_def] at h
  split at h
  · cases h
  · split at h
    · cases h
      exact .refl j
    · cases h
      exact .refl j
  · split at h
    · cases h
    · simp only at h
      split at h
      · cases h
        exact spares_failed j clock _ _
      · cases h
        exact spares_report j clock (by simp)

/-! ## All steps -/

/-- What a step of a module means for the costs. -/
inductive Bills (j j' : Job) : Prop where
  /-- It has nothing to do with them. -/
  | spared (hspares : j.Spares j')
      (hunderway : j'.underway?.map Prod.snd = j.underway?.map Prod.snd)
  /-- An uplink was tried for a publisher. -/
  | published (source : Address)
      (howed : ∀ a, j'.owed.due a = j.owed.due a + if source = a then j.uplinkCost else 0)
      (huplinks : ∀ a, j'.uplinks a = j.uplinks a + if source = a then 1 else 0)
      (hunderway : j'.underway? = j.underway?)
  /-- A report of all costs was begun. -/
  | begun (x : Exchanging Unit) (howed : j'.owed = []) (huplinks : ∀ a, j'.uplinks a = j.uplinks a)
      (hnone : j.underway? = none) (hunderway : j'.underway? = some (x, j.owed))
  /-- A report has come to its end. -/
  | ended (x : Exchanging Unit) (costs : Costs)
      (howed : ∀ a, j'.owed.due a
        = j.owed.due a + if x.fate = .restored then costs.due a else 0)
      (huplinks : ∀ a, j'.uplinks a = j.uplinks a)
      (hunderway : j.underway? = some (x, costs)) (hnone : j'.underway? = none)

theorem Bills.of_spares {j j' : Job} (h : j.Spares j') (hold : j.underway? = none)
    (hnew : j'.underway? = none) : j.Bills j' :=
  .spared h (by rw [hold, hnew])

theorem bills_stepReporting {j j' : Job} {ticker ticker' : Nat} {reporting reporting' : Reporting}
    {forwarding : Forwarding} {clock : Clock} {e e' : Endpoint Backplane}
    (hactivity : j.activity = .relaying ticker reporting forwarding)
    (h : j.stepReporting ticker reporting clock e = some (j', ticker', reporting', e')) :
    j.Bills { j' with activity := .relaying ticker' reporting' forwarding } := by
  rw [stepReporting.eq_def] at h
  simp only at h
  split at h
  · have hnone : j.underway? = none := by rw [underway?, hactivity]
    split at h
    · cases h
    · split at h
      · cases h
        exact .of_spares ⟨rfl, fun _ => rfl⟩ hnone rfl
      · cases h
        exact .begun _ rfl (fun _ => rfl) hnone rfl
  · next costs =>
    cases h
    exact .ended (.finished (.ok ())) costs (fun _ => rfl)
      (spares_report j clock (by simp)).uplinks (by rw [underway?, hactivity]) rfl
  · next error costs =>
    cases h
    exact .ended (.finished (.error error)) costs (Costs.due_foldl_add costs _)
      (spares_failed j clock _ error).uplinks (by rw [underway?, hactivity]) rfl
  · next x costs _ _ =>
    obtain ⟨⟨y, e₁⟩, _, heq⟩ := Option.map_eq_some_iff.mp h
    cases heq
    exact .spared ⟨rfl, fun _ => rfl⟩ (by simp only [underway?, hactivity, Option.map_some])

theorem bills_collect {j : Job} {relay : Server Relay} {clock : Clock} {e e' : Endpoint Backplane}
    (h : j.relay.step clock e = some (relay, e')) : j.Bills (j.collect relay) := by
  rcases Server.handler_step h with hsame | ⟨m, hserved⟩
  · refine .spared ⟨?_, fun a => ?_⟩ rfl
    · change relay.handler.owed = _
      rw [hsame]
      rfl
    · simp only [uplinks, collect, hsame, List.nil_append]
  · rcases Relay.handle_cases clock m j.relay.handler e.world with hsame | ⟨howed, _, hevents⟩
    · refine .spared ⟨?_, fun a => ?_⟩ rfl
      · change relay.handler.owed = _
        rw [hserved, hsame]
        rfl
      · simp only [uplinks, collect, hserved, hsame, List.nil_append]
    · refine .published m.source (fun a => ?_) (fun a => ?_) rfl
      · rw [← hserved] at howed
        exact howed a
      · simp only [uplinks, collect, hserved, hevents, List.nil_append, List.cons_append,
          List.countP_cons, beq_iff_eq]

theorem bills_beginWork {j j₁ : Job} (hspares : j.Spares j₁) (hnone : j.underway? = none)
    (clock : Clock) (e : Endpoint Backplane) : j.Bills (j₁.beginWork clock e).1 := by
  rw [beginWork]
  split
  all_goals exact .of_spares (hspares.trans ⟨rfl, fun _ => rfl⟩) hnone rfl

theorem bills_live {j j' : Job} {clock : Clock} {e e' : Endpoint Backplane}
    (h : j.live clock e = some (j', e')) : j.Bills j' := by
  have hidle (hactivity : ∀ ticker reporting forwarding,
      j.activity ≠ .relaying ticker reporting forwarding) : j.underway? = none := by
    rw [underway?]
    split
    · next hrelaying => exact absurd hrelaying (hactivity _ _ _)
    · rfl
  rw [live] at h
  split at h
  · cases h
  · next hactivity =>
    have hnone : j.underway? = none := hidle (by simp [hactivity])
    split at h
    · obtain rfl : _ = j' := congrArg Prod.fst (Option.some.inj h)
      exact bills_beginWork (spares_report j clock (by simp)) hnone clock e
    · obtain ⟨_, _, heq⟩ := Option.map_eq_some_iff.mp h
      cases heq
      exact .of_spares ⟨rfl, fun _ => rfl⟩ hnone rfl
  · next hactivity =>
    obtain ⟨_, _, heq⟩ := Option.map_eq_some_iff.mp h
    cases heq
    exact .spared ⟨rfl, fun _ => rfl⟩ rfl
  · next ticker reporting forwarding hactivity =>
    split at h
    · next relay _ hrelay =>
      cases h
      exact bills_collect hrelay
    · split at h
      · next hreporting =>
        cases h
        exact bills_stepReporting hactivity hreporting
      · obtain ⟨⟨j₁, forwarding', e₁⟩, hforwarding, heq⟩ := Option.map_eq_some_iff.mp h
        cases heq
        refine .spared ((spares_stepForwarding hforwarding).trans ⟨rfl, fun _ => rfl⟩) ?_
        cases reporting <;> simp only [underway?, hactivity]
  · next hactivity =>
    obtain ⟨hspares, hnone⟩ := spares_stepSampling h
    exact .of_spares hspares (hidle (by simp [hactivity])) hnone

/-- A radio that has nothing to do still waits for the end of its report. -/
theorem fate_of_live {j : Job} {clock : Clock} {e : Endpoint Backplane}
    (h : j.live clock e = none) {x : Exchanging Unit} {costs : Costs}
    (hx : j.underway? = some (x, costs)) : x.fate = .cut := by
  rw [underway?] at hx
  split at hx
  · next ticker y owed forwarding hactivity =>
    cases hx
    rw [live, hactivity] at h
    simp only at h
    split at h
    · cases h
    · split at h
      · cases h
      · next hreporting =>
        match x with
        | .waiting _ _ => rfl
        | .finished (.ok ()) => cases hreporting
        | .finished (.error _) => cases hreporting
  · cases hx

/-- **What a step of a module means for the costs.** -/
theorem bills_step {j j' : Job} {before : Backplane} {clock : Clock} {e e' : Endpoint Backplane}
    (h : j.step before clock e = some (j', e')) : j.Bills j' := by
  rw [step] at h
  split at h
  · next hactivity =>
    split at h
    · obtain rfl : _ = j' := congrArg Prod.fst (Option.some.inj h)
      have hreported : j.Spares (j.report clock .poweredOn) := spares_report j clock (by simp)
      have hspares : j.Spares (j.bootUp clock e).1 := hreported.trans ⟨rfl, fun _ => rfl⟩
      exact .of_spares hspares (by rw [underway?, hactivity]) rfl
    · cases h
  · split at h
    · next hlive =>
      cases h
      exact bills_live hlive
    · next hlive =>
      split at h
      · cases h
      · obtain rfl : _ = j' := congrArg Prod.fst (Option.some.inj h)
        have hreported : j.Spares (j.report clock .powerLost) := spares_report j clock (by simp)
        have hspares : j.Spares (j.losePower clock e).1 := hreported.trans ⟨rfl, fun _ => rfl⟩
        cases hx : j.underway? with
        | none => exact .of_spares hspares hx rfl
        | some report =>
          obtain ⟨x, costs⟩ := report
          have hcut := fate_of_live hlive hx
          exact .ended x costs (fun _ => by rw [hspares.owed, hcut]; rfl) hspares.uplinks hx rfl

end Job

end ModuleBus

import ModuleBus.Proofs.Accounts.Uplinks
import ModuleBus.Proofs.Controller.Run

set_option autoImplicit false

/-! # What publishers are billed

The radio takes note of what the uplinks for a publisher cost, and from time to time reports the
costs to the controller, which moves them from the account of the publisher to that of the radio.
The radio takes costs back that it could not report. It cannot know whether a report failed on its
way or only the reply did: a report that is handled although its call fails is billed, and its costs
are reported once more.

`Billing` runs the radio and the controller side by side and counts, for every publisher, what the
uplinks cost (`incurred`) and what the reports took from its account (`debited`). Every other part
of the post is left free: what the radio finds in its endpoint at a step, which messages the
controller gets in between, and whether and when a report reaches it. What is billed, still owed or
on its way is never more than what was incurred, and once more what was both billed and taken back
(`Balanced`). -/

namespace ModuleBus

/-- A report of costs. -/
structure CostReport where
  costs : Costs
  isWritten : Bool
  fate : Fate
  /-- The controller has handled the report. -/
  isHandled : Bool
deriving DecidableEq

/-- The request by which a report gets to the controller, from an address. -/
def CostReport.message (r : CostReport) (source : Address) : Message :=
  (Client.reportEnergy r.costs.entries).message source

/-- The radio and the controller, the reports so far, newest first, and what was incurred and
debited. -/
structure Billing where
  job : Job
  coordinator : Coordinator
  reports : List CostReport
  incurred : Address → Nat
  debited : Address → Int

namespace Billing

/-- A radio that owes nothing yet, before its first report. -/
def start (j : Job) (c : Coordinator) : Billing := ⟨j, c, [], fun _ => 0, fun _ => 0⟩

/-- The reports after a step of the radio. -/
def track (j j' : Job) (reports : List CostReport) : List CostReport :=
  match j.underway?, j'.underway?, reports with
  | none, some (x, costs), _ => ⟨costs, x.isWaiting, .underway, false⟩ :: reports
  | some (x, _), none, r :: others => { r with fate := x.fate } :: others
  | _, _, _ => reports

/-- A step of the radio leads to a job. -/
def afterStep (p : Billing) (j' : Job) : Billing :=
  { p with
    job := j'
    reports := track p.job j' p.reports
    incurred := fun a => p.incurred a + p.job.uplinkCost * (j'.uplinks a - p.job.uplinks a) }

/-- The controller handles one of the reports. -/
def handle (p : Billing) (clock : Clock) (source : Address) (e : Endpoint Backplane)
    (newer : List CostReport) (r : CostReport) (older : List CostReport) : Billing :=
  let c := (p.coordinator.begin clock (.message (r.message source)) e).2.1
  { p with
    coordinator := c
    reports := newer ++ { r with isHandled := true } :: older
    debited := fun a => p.debited a + p.coordinator.debit c a }

/-- A step of the radio, of the controller, or of a report between them. -/
inductive Step : Billing → Billing → Prop where
  /-- A step of the radio. Whatever it finds in its endpoint may have happened to it. -/
  | radio {p : Billing} {j' : Job} (before : Backplane) (clock : Clock)
      (e e' : Endpoint Backplane) (hstep : p.job.step before clock e = some (j', e')) :
      Step p (p.afterStep j')
  /-- The radio's events are taken. -/
  | observe {p : Billing} : Step p { p with job := p.job.takeEvents.2 }
  /-- A report that was written reaches the controller. -/
  | handle {p : Billing} {newer older : List CostReport} {r : CostReport} (clock : Clock)
      (source : Address) (e : Endpoint Backplane) (hreports : p.reports = newer ++ r :: older)
      (hwritten : r.isWritten = true) (hhandled : r.isHandled = false) :
      Step p (p.handle clock source e newer r older)
  /-- Anything else happens to the controller. -/
  | elsewhere {p : Billing} (c' : Coordinator) : Step p { p with coordinator := c' }

/-- Some steps one after another. -/
abbrev Reaches : Billing → Billing → Prop := Relation.ReflTransGen Step

/-- What an address owes by the reports of some kind. -/
def dueIn (kind : CostReport → Bool) (reports : List CostReport) (a : Address) : Nat :=
  ((reports.filter kind).map (·.costs.due a)).sum

/-- In reports that the controller has not handled and the radio has not taken back. -/
def unbilled (p : Billing) (a : Address) : Nat :=
  dueIn (fun r => !r.isHandled && r.fate != .restored) p.reports a

/-- In reports that the controller has handled and the radio has taken back. -/
def doubled (p : Billing) (a : Address) : Nat :=
  dueIn (fun r => r.isHandled && r.fate == .restored) p.reports a

/-! ## The balance -/

@[simp] theorem dueIn_cons (kind : CostReport → Bool) (r : CostReport) (reports : List CostReport)
    (a : Address) : dueIn kind (r :: reports) a
      = (if kind r then r.costs.due a else 0) + dueIn kind reports a := by
  rw [dueIn, List.filter_cons]
  split
  · rfl
  · exact (Nat.zero_add _).symm

theorem dueIn_append (kind : CostReport → Bool) (newer older : List CostReport) (a : Address) :
    dueIn kind (newer ++ older) a = dueIn kind newer a + dueIn kind older a := by
  rw [dueIn, List.filter_append, List.map_append, List.sum_append]
  rfl

/-- The costs are in one place each, and the report that the radio is about is the newest one. -/
structure Balanced (p : Billing) : Prop where
  balance : ∀ a, p.debited a + p.job.owed.due a + p.unbilled a ≤ p.incurred a + p.doubled a
  tracked : ∀ {x costs}, p.job.underway? = some (x, costs) →
    ∃ r others, p.reports = r :: others ∧ r.costs = costs ∧ r.fate = .underway

variable {p p' : Billing}

theorem Balanced.radio (h : p.Balanced) {j' : Job} (hbills : p.job.Bills j') :
    (p.afterStep j').Balanced := by
  -- The newest report stays what the radio is about as long as nothing begins or ends.
  have hkeep (hsame : j'.underway?.map Prod.snd = p.job.underway?.map Prod.snd) :
      track p.job j' p.reports = p.reports
        ∧ ∀ {x costs}, j'.underway? = some (x, costs) →
          ∃ r others, p.reports = r :: others ∧ r.costs = costs ∧ r.fate = .underway := by
    cases hold : p.job.underway? with
    | none =>
      rw [hold, Option.map_none, Option.map_eq_none_iff] at hsame
      refine ⟨by simp only [track, hold, hsame], fun hx => ?_⟩
      rw [hsame] at hx
      cases hx
    | some report =>
      obtain ⟨x, costs⟩ := report
      rw [hold, Option.map_some] at hsame
      obtain ⟨⟨y, _⟩, hnew, rfl⟩ := Option.map_eq_some_iff.mp hsame
      refine ⟨by simp only [track, hold, hnew], fun hx => ?_⟩
      rw [hnew] at hx
      cases hx
      exact h.tracked hold
  cases hbills with
  | spared hspares hunderway =>
    obtain ⟨htrack, htracked⟩ := hkeep hunderway
    refine ⟨fun a => ?_, fun hx => ?_⟩
    · have := h.balance a
      simp only [unbilled, doubled, afterStep, htrack, hspares.owed, hspares.uplinks] at this ⊢
      omega
    · rw [afterStep, htrack]
      exact htracked hx
  | published source howed huplinks hunderway =>
    obtain ⟨htrack, htracked⟩ := hkeep (by rw [hunderway])
    refine ⟨fun a => ?_, fun hx => ?_⟩
    · have := h.balance a
      simp only [unbilled, doubled, afterStep, htrack, howed, huplinks, Nat.add_sub_cancel_left]
        at this ⊢
      split <;> omega
    · rw [afterStep, htrack]
      exact htracked hx
  | begun x howed huplinks hnone hunderway =>
    have htrack : track p.job j' p.reports
        = ⟨p.job.owed, x.isWaiting, .underway, false⟩ :: p.reports := by
      simp only [track, hnone, hunderway]
    refine ⟨fun a => ?_, fun hx => ?_⟩
    · have := h.balance a
      simp [unbilled, doubled, afterStep, htrack, howed, huplinks] at this ⊢
      omega
    · cases hunderway.symm.trans hx
      exact ⟨_, _, htrack, rfl, rfl⟩
  | ended x costs howed huplinks hunderway hnone =>
    obtain ⟨r, others, hreports, hcosts, hfate⟩ := h.tracked hunderway
    have htrack : track p.job j' (r :: others) = { r with fate := x.fate } :: others := by
      simp only [track, hunderway, hnone]
    refine ⟨fun a => ?_, fun hx => ?_⟩
    · have := h.balance a
      -- Costs that are taken back are owed again: they leave the reports, or are billed twice.
      simp only [unbilled, doubled, afterStep, htrack, hreports, howed, huplinks, dueIn_cons,
        hcosts, hfate] at this ⊢
      cases hhandled : r.isHandled <;> cases hx : x.fate <;> simp [hhandled] at this ⊢ <;> omega
    · cases hnone.symm.trans hx

theorem Balanced.handle (h : p.Balanced) {newer older : List CostReport} {r : CostReport}
    (clock : Clock) (source : Address) (e : Endpoint Backplane)
    (hreports : p.reports = newer ++ r :: older) (hhandled : r.isHandled = false) :
    (p.handle clock source e newer r older).Balanced := by
  refine ⟨fun a => ?_, fun hx => ?_⟩
  · have := h.balance a
    have hdebit : p.coordinator.debit
        (p.coordinator.begin clock (.message (r.message source)) e).2.1 a ≤ r.costs.due a :=
      p.coordinator.debit_receive_le clock (r.message source) r.costs e rfl rfl rfl a
    simp only [unbilled, doubled, Billing.handle, hreports, dueIn_append, dueIn_cons, hhandled]
      at this ⊢
    cases hfate : r.fate <;> simp [hfate] at this ⊢ <;> omega
  · -- That a report is handled tells the radio nothing.
    obtain ⟨newest, others, hnewest, hcosts, hfate⟩ := h.tracked hx
    rw [hreports] at hnewest
    cases newer with
    | nil =>
      cases hnewest
      exact ⟨_, _, rfl, hcosts, hfate⟩
    | cons q newer =>
      cases hnewest
      exact ⟨_, _, rfl, hcosts, hfate⟩

theorem Balanced.step (h : p.Balanced) (hstep : Step p p') : p'.Balanced := by
  cases hstep with
  | radio before clock e e' hstep => exact h.radio (Job.bills_step hstep)
  | observe => exact ⟨h.balance, h.tracked⟩
  | handle clock source e hreports _ hhandled => exact h.handle clock source e hreports hhandled
  | elsewhere c' => exact ⟨h.balance, h.tracked⟩

/-- **What publishers are billed.** Whatever happens between the uplinks, the reports, their
handling and their ends: what the reports took from the account of a publisher, what it still owes
and what is in reports that the controller has not handled is together at most what its uplinks
cost, and once more what was in reports that were handled and whose calls failed all the same. So a
publisher pays each uplink at most once as long as no call for a report fails that the controller
has handled. -/
theorem debited_le {j : Job} {c : Coordinator} (howed : j.owed = []) (hnone : j.underway? = none)
    (h : Reaches (start j c) p) (a : Address) :
    p.debited a + p.job.owed.due a + p.unbilled a ≤ p.incurred a + p.doubled a
    ∧ ((∀ r ∈ p.reports, r.isHandled = true → r.fate ≠ .restored) →
      p.debited a ≤ p.incurred a) := by
  have hbalanced : p.Balanced := by
    induction h with
    | refl =>
      refine ⟨fun a => ?_, fun hx => ?_⟩
      · change (0 : Int) + (j.owed.due a : Int) + (0 : Nat) ≤ (0 : Nat) + (0 : Nat)
        rw [howed]
        simp
      · rw [start, hnone] at hx
        cases hx
    | tail _ hstep ih => exact ih.step hstep
  refine ⟨hbalanced.balance a, fun hnever => ?_⟩
  have hdoubled : p.doubled a = 0 := by
    have hempty : p.reports.filter (fun r => r.isHandled && r.fate == .restored) = [] := by
      rw [List.filter_eq_nil_iff]
      intro r hr
      simpa using hnever r hr
    rw [doubled, dueIn, hempty]
    rfl
  have := hbalanced.balance a
  omega

/-! ### An uplink that is billed twice -/

/-- The address of the module whose uplinks are billed. -/
def publisher : Address := Slot.last.assignedAddress

/-- A backplane with the ports of the controller, of the radio in the first slot and of a publisher
in the last one, all of them connected. -/
def threePorts : Backplane :=
  .quiet true
    [⟨Slot.controller, .controller, []⟩, ⟨Slot.first, .radio, []⟩, ⟨Slot.last, publisher, []⟩]

/-- The radio, with some messages that wait to be handled. -/
def radioWith (inbound : List Message) : Endpoint Backplane :=
  ⟨{ Dispatcher.start 1 .radio {} [.networking] 1 with inbound := inbound }, threePorts⟩

/-- A radio at work, whose uplinks cost something, and a controller that knows it and the
publisher. -/
def atWork : Billing :=
  let description : ModuleDescription :=
    ⟨"radio", Slot.first, .radio, 0.0, 0, none, false, none, 1.0, 1000⟩
  let modules := (ModuleTable.start.assign Slot.first .radio "radio").2
  start { Job.start description Slot.first {} [] with
      activity := .relaying 0 .forTicker (.next []) }
    { (Coordinator.boot {} 0 threePorts).1 with
      modules := (modules.assign Slot.last publisher "audio").2 }

/-- The next step of the radio. -/
def stepRadio (p : Billing) (clock : Clock) (e : Endpoint Backplane) : Billing :=
  match p.job.step e.world clock e with
  | none => p
  | some (j, _) => p.afterStep j

theorem reaches_stepRadio (p : Billing) (clock : Clock) (e : Endpoint Backplane) :
    Reaches p (p.stepRadio clock e) := by
  rw [stepRadio]
  split
  · exact .refl
  · next hstep => exact .single (.radio _ _ _ _ hstep)

/-- The controller handles the newest report. -/
def handleNewest (p : Billing) : Billing :=
  match p.reports with
  | [] => p
  | r :: older =>
    if r.isWritten = true ∧ r.isHandled = false then
      p.handle ⟨0, 0⟩ .radio ⟨.start 0 .controller {} Coordinator.services 0, threePorts⟩ [] r older
    else p

theorem reaches_handleNewest (p : Billing) : Reaches p p.handleNewest := by
  rw [handleNewest]
  split
  · exact .refl
  · next hreports =>
    split
    · next h => exact .single (.handle _ _ _ hreports h.1 h.2)
    · exact .refl

/-- An uplink for the publisher, and a report of its costs, which the controller handles. -/
def reported : Billing :=
  ((atWork.stepRadio ⟨0, 0⟩ (radioWith [⟨publisher, .radio, .command, .networking,
    NetworkingRequest.publish.toByte, [0, 0]⟩])).stepRadio ⟨0, 1⟩ (radioWith [])).handleNewest

/-- The call for the report times out, and the costs are reported once more. -/
def reportedAgain : Billing :=
  (((reported.stepRadio ⟨ofMillis 10000, 2⟩ (radioWith [])).stepRadio ⟨ofMillis 10000, 3⟩
    (radioWith [])).stepRadio ⟨ofMillis 1000000, 4⟩ (radioWith [])).handleNewest

/-- The publisher pays its only uplink twice, by a report that was handled and taken back. -/
theorem uplink_is_paid_twice :
    Reaches atWork reportedAgain ∧ reportedAgain.incurred publisher = 1000
      ∧ reportedAgain.debited publisher = 2000
      ∧ ∃ r ∈ reportedAgain.reports, r.isHandled = true ∧ r.fate = .restored := by
  have hreported : Reaches atWork reported :=
    ((reaches_stepRadio _ _ _).trans (reaches_stepRadio _ _ _)).trans (reaches_handleNewest _)
  have hagain : Reaches atWork reportedAgain :=
    (((hreported.trans (reaches_stepRadio _ _ _)).trans (reaches_stepRadio _ _ _)).trans
      (reaches_stepRadio _ _ _)).trans (reaches_handleNewest _)
  have hincurred : reportedAgain.incurred publisher = 1000 := by decide +kernel
  have hdebited : reportedAgain.debited publisher = 2000 := by decide +kernel
  refine ⟨hagain, hincurred, hdebited, ?_⟩
  by_contra hnever
  push Not at hnever
  have := (debited_le rfl rfl hagain publisher).2 hnever
  omega

end Billing

end ModuleBus

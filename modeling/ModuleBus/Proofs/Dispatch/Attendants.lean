import ModuleBus.Controller.Routine
import ModuleBus.Proofs.Controller.Answers
import ModuleBus.Proofs.Dispatch.Answers

set_option autoImplicit false

/-! # Attendants

The requests that a participant queues are attended to by a server with its handler, or by the
controller. Either takes up one request at a time and may write to it more than once: a response
that breaks off is followed by an error reply, and that may be tried again, now or later. What is
still to come is its debt. Every step takes up a request, pays a debt, or writes nothing. -/

namespace ModuleBus

open Endpoint (Pays Idles)

variable {H W : Type}

/-- What a step of an attendant does, who had a debt before and has one after. -/
inductive Deals (debt debt' : Option Debt) (e e' : Endpoint (Tapped W)) : Prop
  /-- The first request in the queue is taken up. -/
  | takes {m : Message} {rest : List Message} : e.node.inbound = m :: rest →
      Pays m.inquiry debt' (e.update fun d => { d with inbound := rest }) e' →
      Deals debt debt' e e'
  | pays {d : Debt} : debt = some d → (∀ q, d.IsTo q → Pays q debt' e e') → Deals debt debt' e e'
  | idles : debt = none → debt' = none → Idles e e' → Deals debt debt' e e'

/-! ## Servers -/

namespace Server

/-- What the server still has to write. -/
def debt? (s : Server H) : Option Debt :=
  match s.waiting with
  | .forRequest => none
  | .answering m _ _ => some (.answer m)
  | .retry r _ => some (.refusal r.refusal)

variable [Link W] (s : Server H) (clock : Clock) (m : Message) (e : Endpoint (Tapped W))

theorem pays_refuse {q : Inquiry} (r : ErrorReply) (hr : (Debt.refusal r.refusal).IsTo q) :
    Pays q (s.refuse clock r e).1.debt? e (s.refuse clock r e).2 := by
  have hsend := r.pays_send hr clock e
  unfold refuse
  split
  · next h =>
    rw [h] at hsend
    exact hsend
  · next h =>
    rw [h] at hsend
    exact hsend

/-- A request that fails is refused if it is a command, and forgotten otherwise. -/
theorem pays_fail (code : ErrorCode) :
    Pays m.inquiry (s.fail clock m code e).1.debt? e (s.fail clock m code e).2 := by
  unfold fail
  dsimp only
  split
  · next hcommand => exact pays_refuse _ clock e _ ⟨hcommand, rfl, rfl, rfl⟩
  · exact (Idles.refl e).pays nofun

/-- A response is written, or the request fails. -/
theorem pays_answer (payload : Bytes) :
    Pays m.inquiry (s.answer clock m payload e).1.debt? e (s.answer clock m payload e).2 := by
  unfold answer
  split
  · next h => exact Endpoint.pays_reply h
  · next h => exact (Endpoint.pays_of_reply_error h).trans (pays_fail s clock m _ _)

theorem pays_serve [Handler H W] :
    Pays m.inquiry (s.serve clock m e).1.debt? e (s.serve clock m e).2 := by
  have hhandled : Idles e { e with world := (Handler.handle clock m s.handler e.world).2.2 } :=
    ⟨rfl, rfl, rfl⟩
  unfold serve
  dsimp only
  split
  · exact hhandled.trans_pays (pays_answer _ clock m _ _)
  · exact hhandled.pays nofun
  · exact hhandled.trans_pays (pays_fail _ clock m _ _)
  · refine hhandled.pays fun d hd => ?_
    cases hd
    rfl

theorem deals_step [Handler H W] {s' : Server H} {e' : Endpoint (Tapped W)}
    (h : s.step clock e = some (s', e')) : Deals s.debt? s'.debt? e e' := by
  unfold step at h
  split at h
  · split at h
    · cases h
    · next m rest hinbound =>
      have hserve := pays_serve s clock m (e.update fun d => { d with inbound := rest })
      rw [Option.some.inj h] at hserve
      exact .takes hinbound hserve
  · next m payload timer hwaiting =>
    split at h
    · have hanswer := pays_answer s clock m e payload
      rw [Option.some.inj h] at hanswer
      refine .pays (d := .answer m) (by rw [debt?, hwaiting]) fun q hq => ?_
      obtain rfl : m.inquiry = q := hq
      exact hanswer
    · cases h
  · next r timer hwaiting =>
    split at h
    · refine .pays (d := .refusal r.refusal) (by rw [debt?, hwaiting]) fun q hq => ?_
      have hrefuse := pays_refuse s clock e r hq
      rw [Option.some.inj h] at hrefuse
      exact hrefuse
    · cases h

end Server

/-! ## The coordinator -/

namespace Coordinator

variable [Board W] [Link W] (c : Coordinator) (clock : Clock) (m : Message)
  (e : Endpoint (Tapped W))

/-- What is still to be written after a pause. -/
def debtOf (pause : Option Pause) : Option Debt := (pause.bind Pause.refusal?).map .refusal

omit [Board W] [Link W] in
theorem debtOf_eq_none {pause : Option Pause}
    (h : ∀ p, pause = some p → p.refusal? = none) : debtOf pause = none := by
  cases pause with
  | none => rfl
  | some p => rw [debtOf, Option.bind_some, h p rfl, Option.map_none]

omit [Board W] in
theorem pays_refuse {q : Inquiry} (r : ErrorReply) (hr : (Debt.refusal r.refusal).IsTo q) :
    Pays q (debtOf (refuse r clock e).1) e (refuse r clock e).2 := by
  have hsend := r.pays_send hr clock e
  have hdebt : debtOf (refuse r clock e).1
      = (r.send clock e).1.map fun waiting => .refusal waiting.1.refusal := by
    rw [debtOf, refuse]
    dsimp only
    cases (r.send clock e).1 <;> rfl
  rw [hdebt]
  exact hsend

/-- A request is answered, or refused, or neither. -/
theorem pays_receive :
    Pays m.inquiry (debtOf (c.receive clock m e).1) e (c.receive clock m e).2.2 := by
  have hrefuse (e' : Endpoint (Tapped W)) (code : ErrorCode) (hcommand : m.frame = .command) :=
    pays_refuse clock e' (.first ⟨m.source, m.service.toByte, m.type, code⟩)
      (q := m.inquiry) ⟨hcommand, rfl, rfl, rfl⟩
  have hconcludes := concludes_handle c clock m (e := e)
  unfold receive
  split
  · next pause c' e' h =>
    rw [h] at hconcludes
    cases hconcludes with
    | silent _ hpause hboard =>
      have hdebt : debtOf pause = none := debtOf_eq_none fun p hp => hpause p (hp ▸ rfl)
      exact hboard.idles.pays fun d hd => by rw [hdebt] at hd; cases hd
    | answered payload hboard hreply hafter =>
      exact (hboard.idles.trans_pays (Endpoint.pays_reply hreply)).trans_idles hafter.idles
  · next code c' e' h =>
    rw [h] at hconcludes
    cases hconcludes with
    | silent _ _ hboard =>
      split
      · next hcommand => exact hboard.idles.trans_pays (hrefuse e' code hcommand)
      · exact hboard.idles.pays nofun
    | @interrupted _ _ _ error payload hboard hreply =>
      have hbroken := hboard.idles.trans_pays (Endpoint.pays_of_reply_error hreply)
      split
      · next hcommand => exact hbroken.trans (hrefuse e' error.status hcommand)
      · exact hbroken.trans ((Idles.refl e').pays nofun)

/-- The part of an event that follows a pause writes at most what waits in the pause. -/
theorem idles_resume {pause : Pause} (hpause : pause.refusal? = none) :
    debtOf (c.resume clock pause e).1 = none ∧ Idles e (c.resume clock pause e).2.2 := by
  cases pause with
  | cycling s _ => exact ⟨rfl, (onBoard_finishTick c s e).idles⟩
  | pulsing s others _ =>
    have hpulse := operates_pulseNext c clock (Board.setPower s true e.world) others
    unfold resume
    exact ⟨debtOf_eq_none fun p hp => refusal?_of_pulseNext hp, Endpoint.OnBoard.idles
      (.of_operates (((Board.Operates.refl e.world).setPower s true).trans hpulse))⟩
  | resetting s _ =>
    exact ⟨rfl, Endpoint.OnBoard.idles
      (.of_operates ((Board.Operates.refl e.world).setPower s true))⟩
  | refusing r _ => cases hpause

end Coordinator

/-! ## The controller -/

namespace Controller

variable [Board W] [Link W]

/-- What the controller still has to write. -/
def debt? (c : Controller) : Option Debt :=
  match c.occupation with
  | .idle _ => none
  | .paused pause _ => Coordinator.debtOf (some pause)

variable (c : Controller) (clock : Clock) (now : Nat) (e : Endpoint (Tapped W))

/-- The controller has come to a state without writing anything or being in debt. -/
def Rests (e : Endpoint (Tapped W)) (result : Controller × Endpoint (Tapped W)) : Prop :=
  result.1.debt? = none ∧ Idles e result.2

omit [Link W] in
theorem rests_afterCheck : Rests e (c.afterCheck clock now e) :=
  ⟨rfl, Endpoint.OnBoard.idles
    (.of_operates (Coordinator.operates_wakeDue c.coordinator e.world now))⟩

omit [Link W] in
/-- A check may pause to pulse a slot. -/
theorem rests_afterTick : Rests e (c.afterTick clock now e) := by
  unfold afterTick
  split
  next c' e' hperiod =>
  have hidles : Idles e e' := by
    have hupdate := Coordinator.operates_energyUpdate c.coordinator e.world now
    split at hperiod
    · cases hupdated : c.coordinator.energyUpdate now e.world with
      | mk coordinator world =>
        rw [hupdated] at hperiod hupdate
        cases hperiod
        exact Endpoint.OnBoard.idles (.of_operates hupdate)
    · cases hperiod
      exact .refl e
  have hchecked : Idles e
      { e' with world := (c'.coordinator.checkWatchdogs clock e'.world).2.2 } :=
    hidles.trans (Endpoint.OnBoard.idles
      (.of_operates (Coordinator.operates_checkWatchdogs c'.coordinator clock e'.world)))
  split
  · split
    · next pause coordinator world h =>
      rw [h] at hchecked
      refine ⟨Coordinator.debtOf_eq_none fun p hp => ?_, hchecked⟩
      cases hp
      exact Coordinator.refusal?_of_checkWatchdogs h
    · next coordinator world h =>
      rw [h] at hchecked
      have hafter := rests_afterCheck (scheduleCheck { c' with coordinator := coordinator } now)
        clock now { e' with world := world }
      exact ⟨hafter.1, hchecked.trans hafter.2⟩
  · have hafter := rests_afterCheck c' clock now e'
    exact ⟨hafter.1, hidles.trans hafter.2⟩

omit [Link W] in
/-- A tick may pause to power-cycle a slot. -/
theorem rests_runDue : Rests e (c.runDue clock e) := by
  have htick := (Coordinator.onBoard_isolationTick c.coordinator e).idles
  unfold runDue
  dsimp only
  split
  · split
    · next h =>
      rw [h] at htick
      exact ⟨rfl, htick⟩
    · next event coordinator e' h =>
      rw [h] at htick
      have hafter := rests_afterTick (scheduleTick { c with coordinator := coordinator } clock.now)
        clock clock.now e'
      exact ⟨hafter.1, htick.trans hafter.2⟩
  · exact rests_afterTick c clock clock.now e

omit [Link W] in
theorem rests_continueDuties (pause : Pause) : Rests e (c.continueDuties clock pause now e) := by
  unfold continueDuties
  split
  · exact rests_afterTick (c.scheduleTick now) clock now e
  · exact rests_afterCheck (c.scheduleCheck now) clock now e

/-- What follows a pause: the next one, or the rest of the duties, or nothing. -/
theorem debt?_of_resume {pause : Pause} {duties : Option Nat} {c' : Controller}
    {e' : Endpoint (Tapped W)} (hpaused : c.occupation = .paused pause duties)
    (h : c.step clock e = some (c', e')) :
    ∃ e₁, (c.coordinator.resume clock pause e).2.2 = e₁ ∧ Idles e₁ e'
      ∧ (c'.debt? = Coordinator.debtOf (c.coordinator.resume clock pause e).1
        ∨ c'.debt? = none) := by
  rw [step, hpaused] at h
  dsimp only at h
  split at h
  · cases h
  · rcases hresume : c.coordinator.resume clock pause e with ⟨next, coordinator, e₁⟩
    rw [hresume] at h
    refine ⟨e₁, rfl, ?_⟩
    cases next with
    | some next =>
      cases h
      exact ⟨.refl _, .inl rfl⟩
    | none =>
      cases duties with
      | some now =>
        have hduties := rests_continueDuties
          { c with coordinator := coordinator, occupation := .paused pause (some now) } clock now
          e₁ pause
        dsimp only at h
        rw [Option.some.inj h] at hduties
        exact ⟨hduties.2, .inr hduties.1⟩
      | none =>
        cases h
        exact ⟨.refl _, .inr rfl⟩

theorem deals_step {c' : Controller} {e' : Endpoint (Tapped W)}
    (h : c.step clock e = some (c', e')) : Deals c.debt? c'.debt? e e' := by
  cases hoccupation : c.occupation with
  | paused pause duties =>
    obtain ⟨e₁, rfl, hidles, hdebt⟩ := debt?_of_resume c clock e hoccupation h
    cases hrefusal : pause.refusal? with
    | none =>
      obtain ⟨hnone, hresume⟩ := Coordinator.idles_resume c.coordinator clock e hrefusal
      rw [hnone, or_self] at hdebt
      have hbefore : c.debt? = none := by
        rw [debt?, hoccupation]
        exact Coordinator.debtOf_eq_none fun p hp => Option.some.inj hp ▸ hrefusal
      exact .idles hbefore hdebt (hresume.trans hidles)
    | some refusal =>
      -- Only an error reply that waits for its next try leaves something to be written.
      cases pause with
      | refusing r timer =>
        refine .pays (d := .refusal r.refusal) (by rw [debt?, hoccupation]; rfl) fun q hq => ?_
        have hrefuse := (Coordinator.pays_refuse clock e r hq).trans_idles hidles
        rcases hdebt with hdebt | hdebt
        · rw [hdebt]
          exact hrefuse
        · -- The duties that come next leave no debt, whatever the refusal left.
          rw [hdebt]
          obtain ⟨new, whole, htap, hnew, _⟩ := hrefuse.written
          exact ⟨hrefuse.inbound, hrefuse.suite, new, whole, htap, hnew, nofun⟩
      | _ => cases hrefusal
  | idle timer =>
    have hbefore : c.debt? = none := by rw [debt?, hoccupation]
    rw [step, hoccupation] at h
    dsimp only at h
    split at h
    · next m rest hinbound =>
      have hreceive := Coordinator.pays_receive c.coordinator clock m
        (e.update fun d => { d with inbound := rest })
      refine .takes hinbound ?_
      rcases hresult : c.coordinator.receive clock m (e.update fun d => { d with inbound := rest })
        with ⟨pause, coordinator, e₁⟩
      rw [hresult] at h hreceive
      cases pause with
      | some pause =>
        cases h
        exact hreceive
      | none =>
        cases h
        exact hreceive
    · cases h
      exact .idles hbefore rfl (.refl e)
    · split at h
      · have hdue := rests_runDue c clock e
        rw [Option.some.inj h] at hdue
        exact .idles hbefore hdue.1 hdue.2
      · cases h

end Controller

/-! ## Both -/

/-- Who attends to the requests of a participant. -/
inductive Attendant (H : Type) where
  | service (server : Server H)
  | controller (controller : Controller)

namespace Attendant

variable [Board W] [Link W] [Handler H W]

/-- One step, if there is anything to do. -/
def step (a : Attendant H) (clock : Clock) (e : Endpoint (Tapped W)) :
    Option (Attendant H × Endpoint (Tapped W)) :=
  match a with
  | .service s => (s.step clock e).map fun (s, e) => (.service s, e)
  | .controller c => (c.step clock e).map fun (c, e) => (.controller c, e)

/-- What is still to be written. -/
def debt? : Attendant H → Option Debt
  | service s => s.debt?
  | controller c => c.debt?

theorem deals_step {a a' : Attendant H} {clock : Clock} {e e' : Endpoint (Tapped W)}
    (h : a.step clock e = some (a', e')) : Deals a.debt? a'.debt? e e' := by
  cases a with
  | service s =>
    obtain ⟨⟨s', e₁⟩, hstep, hsame⟩ := Option.map_eq_some_iff.mp h
    cases hsame
    exact s.deals_step clock e hstep
  | controller c =>
    obtain ⟨⟨c', e₁⟩, hstep, hsame⟩ := Option.map_eq_some_iff.mp h
    cases hsame
    exact c.deals_step clock e hstep

end Attendant

end ModuleBus

import ModuleBus.Proofs.Dispatch.Minding

set_option autoImplicit false

/-! # The calls of a handshake

A handshake waits for one call at most, and forgets it before it begins another one or gives up. -/

namespace ModuleBus

open Endpoint (Minds)

variable {W : Type} [Link W]

namespace Handshake

variable {h h' : Handshake} {clock : Clock} {e e' : Endpoint W}

/-- The ticket of the call that is waited for. -/
def ticket? (h : Handshake) : Option Ticket := h.call?.map Call.ticket

omit [Link W] in
theorem minds_abandonCall (h : Handshake) (e : Endpoint W) :
    Minds h.ticket? none e (h.abandonCall e) := by
  obtain ⟨settings, name, stage, attempts, waiting⟩ := h
  cases waiting with
  | declaring call => exact .abandon call e
  | exchanging a secret call => exact .abandon call e
  | _ => exact .refl e

variable [Lines W]

omit [Link W] in
theorem minds_giveUp (h : Handshake) (clock : Clock) (e : Endpoint W) :
    Minds none (h.giveUp clock e).1.ticket? e (h.giveUp clock e).2 :=
  .of_eq rfl rfl

theorem minds_declare (h : Handshake) (clock : Clock) (e : Endpoint W) :
    Minds none (h.declare clock e).1.ticket? e (h.declare clock e).2 := by
  have hstart := Call.minds_start clock (Client.declare h.name).key (Client.declare h.name).payload
    h.settings.declareTimeout (e.update (·.revokeKey .controller))
  have hrevoked : Minds none none e (e.update (·.revokeKey .controller)) := .of_eq rfl rfl
  unfold declare
  dsimp only
  rcases hsent : Call.start clock (Client.declare h.name).key (Client.declare h.name).payload
    h.settings.declareTimeout (e.update (·.revokeKey .controller)) with ⟨error | call, e₁⟩
  · rw [hsent] at hstart
    exact hrevoked.trans (hstart.trans (minds_giveUp h clock _))
  · rw [hsent] at hstart
    exact hrevoked.trans hstart

theorem minds_exchange (h : Handshake) (clock : Clock) (a : Address) (e : Endpoint W) :
    Minds none (h.exchange clock a e).1.ticket? e (h.exchange clock a e).2 := by
  unfold exchange
  dsimp only
  generalize (if a = e.address then e else e.setAddress a).node.entropy.secret = secret
  generalize hmoved : (if a = e.address then e else e.setAddress a).update
    (fun d => { d with entropy := d.entropy.next }) = e₁
  have hmoved : Minds none none e e₁ := by
    rw [← hmoved]
    split
    · exact .of_eq rfl rfl
    · exact .of_eq rfl rfl
  have hstart := Call.minds_start clock
    (Client.exchangeKey (e₁.node.suite.publicPoint secret)).key
    (Client.exchangeKey (e₁.node.suite.publicPoint secret)).payload
    h.settings.keyExchangeTimeout e₁
  rcases hsent : Call.start clock
    (Client.exchangeKey (e₁.node.suite.publicPoint secret)).key
    (Client.exchangeKey (e₁.node.suite.publicPoint secret)).payload
    h.settings.keyExchangeTimeout e₁ with ⟨error | call, e₂⟩
  · rw [hsent] at hstart
    exact hmoved.trans (hstart.trans (minds_giveUp _ clock _))
  · rw [hsent] at hstart
    exact hmoved.trans hstart

omit [Link W] in
theorem minds_complete (h : Handshake) (clock : Clock) (a : Address) (secret : Nat)
    (point : Bytes) (e : Endpoint W) :
    Minds none (h.complete clock a secret point e).1.ticket? e
      (h.complete clock a secret point e).2 := by
  unfold complete
  dsimp only
  split
  · exact minds_giveUp _ clock e
  · exact .of_eq rfl rfl

theorem minds_advance (hstep : h.advance clock e = some (h', e')) :
    Minds h.ticket? h'.ticket? e e' := by
  unfold advance at hstep
  split at hstep
  · next hwaiting =>
    have hnone : h.ticket? = none := by simp only [ticket?, call?, hwaiting, Option.map_none]
    rw [hnone]
    split at hstep
    · split at hstep
      · cases hstep
        exact .refl e
      · cases hstep
        exact minds_giveUp h clock e
    · cases hstep
  · next hwaiting =>
    have hnone : h.ticket? = none := by simp only [ticket?, call?, hwaiting, Option.map_none]
    rw [hnone]
    split at hstep
    · have hdeclare := minds_declare h clock e
      rw [Option.some.inj hstep] at hdeclare
      exact hdeclare
    · cases hstep
  · next call hwaiting =>
    have hcall : h.ticket? = some call.ticket := by
      simp only [ticket?, call?, hwaiting, Option.map_some]
    obtain ⟨⟨reply, e₁⟩, hreply, hnext⟩ := Option.map_eq_some_iff.mp hstep
    obtain ⟨rfl, -⟩ := Call.step_eq_some hreply
    rw [hcall]
    refine (Minds.abandon call e).trans ?_
    dsimp only at hnext
    split at hnext
    · next a _ =>
      have hexchange := minds_exchange h clock a (call.abandon e)
      rw [hnext] at hexchange
      exact hexchange
    · cases hnext
      exact minds_giveUp h clock _
  · next a secret call hwaiting =>
    have hcall : h.ticket? = some call.ticket := by
      simp only [ticket?, call?, hwaiting, Option.map_some]
    obtain ⟨⟨reply, e₁⟩, hreply, hnext⟩ := Option.map_eq_some_iff.mp hstep
    obtain ⟨rfl, -⟩ := Call.step_eq_some hreply
    rw [hcall]
    refine (Minds.abandon call e).trans ?_
    dsimp only at hnext
    split at hnext
    · next point =>
      have hcomplete := minds_complete h clock a secret point (call.abandon e)
      rw [hnext] at hcomplete
      exact hcomplete
    · cases hnext
      exact minds_giveUp h clock _
  · cases hstep

theorem minds_step (hstep : h.step clock e = some (h', e')) :
    Minds h.ticket? h'.ticket? e e' := by
  unfold step at hstep
  split at hstep
  · cases hstep
  · next hwaiting =>
    have hnone : h.ticket? = none := by simp only [ticket?, call?, hwaiting, Option.map_none]
    rw [hnone]
    split at hstep
    · cases hstep
      exact .refl e
    · split at hstep
      · cases hstep
        exact .of_eq rfl rfl
      · cases hstep
  · next hwaiting =>
    have hnone : h.ticket? = none := by simp only [ticket?, call?, hwaiting, Option.map_none]
    rw [hnone]
    split at hstep
    · cases hstep
      exact .of_eq rfl rfl
    · cases hstep
  · split at hstep
    · next hadvance =>
      cases hstep
      exact minds_advance hadvance
    · split at hstep
      · cases hstep
      · cases hstep
        exact (minds_abandonCall h e).trans (minds_giveUp h clock _)

end Handshake

end ModuleBus

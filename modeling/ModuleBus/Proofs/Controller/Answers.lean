import ModuleBus.Proofs.Controller.Footprint

set_option autoImplicit false

/-! # How the coordinator answers

Whatever the request, the coordinator first does what is asked, on its board and in its records,
and then writes one response or none. It never writes a second, and once the first is written it
only keeps a key. A response that cannot be written is what the request fails with. -/

namespace ModuleBus

variable {W : Type} [Board W] [Link W]

/-- The error reply that waits in a pause. -/
def Pause.refusal? : Pause → Option Refusal
  | refusing r _ => some r.refusal
  | _ => none

namespace Coordinator

omit [Link W] in
theorem refusal?_of_pulseNext {c : Coordinator} {clock : Clock} {slots : List Slot} {w : W}
    {pause : Pause} (h : (c.pulseNext clock slots w).1 = some pause) : pause.refusal? = none := by
  cases slots with
  | nil => cases h
  | cons s others =>
    cases h
    rfl

omit [Link W] in
theorem refusal?_of_checkWatchdogs {c c' : Coordinator} {clock : Clock} {w w' : W} {pause : Pause}
    (h : c.checkWatchdogs clock w = (some pause, c', w')) : pause.refusal? = none := by
  unfold checkWatchdogs at h
  exact refusal?_of_pulseNext (congrArg Prod.fst h)

omit [Link W] in
theorem refusal?_of_applyDownlink {c : Coordinator} {clock : Clock} {command : DownlinkCommand}
    {w : W} {pause : Pause} (h : (c.applyDownlink clock command w).1 = some pause) :
    pause.refusal? = none := by
  cases command with
  | hardReset => cases h
  | on name | off name | reset name =>
    unfold applyDownlink at h
    dsimp only at h
    split at h
    · cases h
    · unfold applyTo at h
      dsimp only at h
      try split at h
      all_goals cases h
      try rfl

/-- How the handling of a request ends. -/
inductive Concludes (m : Message) (e : Endpoint W) : Handling W → Prop
  /-- Nothing is written. -/
  | silent {c : Coordinator} {e' : Endpoint W} (result : Except ErrorCode (Option Pause)) :
      (∀ pause, result = .ok (some pause) → pause.refusal? = none) → e.OnBoard e' →
      Concludes m e (result, c, e')
  /-- A response is written, and the request is done. -/
  | answered {c : Coordinator} {e₁ e₂ e₃ : Endpoint W} {written : Nat} (payload : Bytes) :
      e.OnBoard e₁ → e₁.reply m payload = (.ok written, e₂) → e₂.OnBoard e₃ →
      Concludes m e (.ok none, c, e₃)
  /-- A response cannot be written, and the request fails. -/
  | interrupted {c : Coordinator} {e₁ e₂ : Endpoint W} {error : DispatchError} (payload : Bytes) :
      e.OnBoard e₁ → e₁.reply m payload = (.error error, e₂) →
      Concludes m e (.error error.status, c, e₂)

variable (c : Coordinator) (clock : Clock) (m : Message) {e e' : Endpoint W}

theorem concludes_reply (payload : Bytes) (h : e.OnBoard e') :
    Concludes m e (c.reply m payload e') := by
  unfold reply
  rcases hreply : e'.reply m payload with ⟨error | written, e''⟩
  · exact .interrupted payload h hreply
  · exact .answered payload h hreply (.refl _)

theorem concludes_declare : Concludes m e (c.declare m e) := by
  unfold declare
  split
  · exact .silent _ nofun (.refl e)
  · dsimp only
    refine concludes_reply _ m _ ?_
    split <;> exact ⟨.refl _, rfl, rfl⟩

/-- The key is kept after the response is written. -/
theorem concludes_exchangeKey : Concludes m e (c.exchangeKey m e) := by
  unfold exchangeKey
  split
  · exact .silent _ nofun (.refl e)
  · dsimp only
    have hupdate : e.OnBoard (e.update fun d => { d with entropy := d.entropy.next }) :=
      ⟨.refl _, rfl, rfl⟩
    split
    · exact .silent _ nofun hupdate
    · rw [reply]
      rcases hreply : Endpoint.reply (e.update fun d => { d with entropy := d.entropy.next }) m
        (e.node.suite.publicPoint e.node.entropy.secret) with ⟨error | written, e'⟩
      · exact .interrupted _ hupdate hreply
      · exact .answered _ hupdate hreply ⟨.refl _, rfl, rfl⟩

theorem concludes_handleInitialization : Concludes m e (c.handleInitialization m e) := by
  unfold handleInitialization
  split
  · exact .silent _ nofun (.refl e)
  · exact concludes_declare c m
  · exact concludes_exchangeKey c m
  · exact concludes_reply c m _ (.refl e)
  · exact concludes_reply _ m _ ⟨.refl _, rfl, rfl⟩
  · exact concludes_reply c m _ (.refl e)

theorem concludes_handleEnergy : Concludes m e (c.handleEnergy clock m e) := by
  unfold handleEnergy
  split
  · exact .silent _ nofun (.refl e)
  · next s entity _ =>
    dsimp only
    split
    · exact .silent _ nofun (.refl e)
    · exact concludes_reply c m _ (.refl e)
    · exact concludes_reply _ m _ (.refl e)
    · split
      · exact concludes_reply _ m _ (.refl e)
      · exact .silent _ nofun (.refl e)
    · split
      · exact .silent _ nofun (.refl e)
      · exact .silent _ nofun (.of_operates (operates_sleep c s e.world clock.now _))

theorem concludes_handleTimeLocation : Concludes m e (c.handleTimeLocation m e) := by
  unfold handleTimeLocation
  dsimp only
  split
  · exact concludes_reply c m _ (.refl e)
  · exact concludes_reply c m _ (.refl e)
  · exact .silent _ nofun (.refl e)
  · exact .silent _ nofun (.refl e)

theorem concludes_handleWatchdog : Concludes m e (c.handleWatchdog m e) := by
  unfold handleWatchdog
  split
  · exact .silent _ nofun (.refl e)
  · split
    · exact .silent _ nofun (.refl e)
    · exact concludes_reply _ m _ (.refl e)

theorem concludes_handleNetworking : Concludes m e (c.handleNetworking clock m e) := by
  unfold handleNetworking
  split
  · split
    · exact .silent _ nofun (.refl e)
    · split
      · exact .silent _ nofun (.refl e)
      · exact .silent _ (fun pause h => refusal?_of_applyDownlink (Except.ok.inj h))
          (.of_operates (operates_applyDownlink c clock e.world _))
  · exact .silent _ nofun (.refl e)

/-- Every request ends in one of these ways. -/
theorem concludes_handle : Concludes m e (c.handle clock m e) := by
  unfold handle
  split
  · exact concludes_handleInitialization c m
  · exact concludes_handleEnergy c clock m
  · exact concludes_handleTimeLocation c m
  · exact concludes_handleWatchdog c m
  · exact concludes_handleNetworking c clock m
  · exact .silent _ nofun (.refl e)

end Coordinator

end ModuleBus

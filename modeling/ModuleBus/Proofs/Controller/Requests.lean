import ModuleBus.Proofs.Controller.Events

set_option autoImplicit false

/-! # What each request switches

A request shows on the switchboard by the command that it carries, or the sleep that it asks for.
All else that it does, to the records of the modules, the accounts, the keys and the link, leaves
the switchboard as it is. -/

namespace ModuleBus

open Wired (rails)
open Switchboard (Does)

/-- The command that a message from outside carries. -/
def Message.command? (m : Message) : Option DownlinkCommand :=
  if m.service = .networking ∧ NetworkingRequest.ofByte? m.type = some .subscribe then
    (TopicMessage.parse m.payload).toOption.bind DownlinkCommand.parse?
  else none

/-- The slot that a message puts to sleep, and the milliseconds that it asks for. -/
def Coordinator.nap? (c : Coordinator) (m : Message) : Option (Slot × Nat) :=
  if m.service = .energy ∧ EnergyRequest.ofByte? m.type = some .dutyCycle then
    match c.modules.slotOf? m.source, m.payload.natLE? 0 4 with
    | some s, some ms => if s.isMetered then some (s, ms) else none
    | _, _ => none
  else none

namespace Coordinator

theorem nap?_eq_some {c : Coordinator} {m : Message} {s : Slot} {ms : Nat} :
    c.nap? m = some (s, ms) ↔
      m.service = .energy ∧ EnergyRequest.ofByte? m.type = some .dutyCycle
        ∧ c.modules.slotOf? m.source = some s ∧ m.payload.natLE? 0 4 = some ms
        ∧ s.isMetered = true := by
  unfold nap?
  constructor
  · intro h
    split at h
    · next hrequest =>
      split at h
      · next r n hslot hms =>
        split at h
        · next hmetered =>
          cases h
          exact ⟨hrequest.1, hrequest.2, hslot, hms, hmetered⟩
        · cases h
      · cases h
    · cases h
  · rintro ⟨hservice, htype, hslot, hms, hmetered⟩
    simp only [hservice, htype, hslot, hms, hmetered, and_self, if_true]

/-- A request to sleep carries no command. -/
theorem command?_of_nap? {c : Coordinator} {m : Message} {s : Slot} {ms : Nat}
    (h : c.nap? m = some (s, ms)) : m.command? = none :=
  if_neg (by simp [(nap?_eq_some.mp h).1])

end Coordinator

namespace ModuleTable

theorem states_vacateOther (t : ModuleTable) (s : Slot) (a : Address) :
    (t.vacateOther s a).states = t.states := by
  unfold vacateOther
  split
  · split
    · rfl
    · exact states_modify_of_state t _ _ rfl
  · rfl

/-- Binding an address to a slot does not switch anything. -/
theorem states_assign (t : ModuleTable) (s : Slot) (a : Address) (name : String) :
    (t.assign s a name).2.states = t.states := by
  unfold assign
  dsimp only
  rw [states_modify_of_state _ s _ rfl, states_vacateOther]

end ModuleTable

variable {W : Type} [Board W] [Link W] [Wired W]

namespace Coordinator

/-- The outcome of a request follows a switchboard. -/
def Settles (P : Switching → Prop) (b : Switchboard) (h : Handling W) : Prop :=
  h.2.1.Follows P b h.1.toOption.join h.2.2.world

section

variable {P : Switching → Prop} {b : Switchboard} {c : Coordinator} {e : Endpoint W}

theorem settles_error (code : ErrorCode) (h : c.switchboard none e.world = b) :
    Settles P b (.error code, c, e) :=
  .of_eq h

theorem settles_ok (h : c.switchboard none e.world = b) : Settles P b (.ok none, c, e) :=
  .of_eq h

/-- An answer that is written, or not, does not show. -/
theorem switchboard_reply (c : Coordinator) (m : Message) (payload : Bytes) (e : Endpoint W) :
    (c.reply m payload e).2.1.switchboard none (c.reply m payload e).2.2.world
      = c.switchboard none e.world := by
  have hworld : c.switchboard none (e.reply m payload).2.world = c.switchboard none e.world := by
    rw [switchboard, switchboard, ModuleTable.switchboard, rails_reply]
    rfl
  exact hworld

omit [Board W] [Wired W] in
theorem pause_reply (c : Coordinator) (m : Message) (payload : Bytes) (e : Endpoint W) :
    (c.reply m payload e).1.toOption.join = none := by
  unfold reply
  dsimp only
  cases (e.reply m payload).1 <;> rfl

theorem settles_reply (m : Message) (payload : Bytes) (h : c.switchboard none e.world = b) :
    Settles P b (c.reply m payload e) := by
  rw [Settles, pause_reply]
  exact .of_eq ((switchboard_reply c m payload e).trans h)

end

variable (P : Switching → Prop) (c : Coordinator) (m : Message) (e : Endpoint W)

/-! ## Initialization -/

theorem settles_declare : Settles P (c.switchboard none e.world) (c.declare m e) := by
  unfold declare
  split
  · exact settles_ok rfl
  · next s hholder =>
    dsimp only
    refine settles_reply m _ ?_
    have hassign (a : Address) (name : String) (w : W) :
        ({ c with modules := (c.modules.assign s a name).2 }).switchboard none w
          = c.switchboard none w := by
      rw [switchboard, ModuleTable.switchboard, ModuleTable.states_assign]
      rfl
    rw [switchboard_modify _ none s _ _ rfl, hassign]
    split <;> rfl

theorem settles_exchangeKey : Settles P (c.switchboard none e.world) (c.exchangeKey m e) := by
  unfold exchangeKey
  split
  · exact settles_error _ rfl
  · next s _ =>
    dsimp only
    split
    · exact settles_error _ rfl
    · next key _ =>
      have hreply := switchboard_reply c m (e.node.suite.publicPoint e.node.entropy.secret)
        (e.update fun d => { d with entropy := d.entropy.next })
      split
      · next h =>
        rw [h] at hreply
        exact settles_error _ hreply
      · next c' e' h =>
        rw [h] at hreply
        exact settles_ok ((switchboard_modify c' none s _ e'.world rfl).trans hreply)

theorem settles_handleInitialization :
    Settles P (c.switchboard none e.world) (c.handleInitialization m e) := by
  unfold handleInitialization
  split
  · exact settles_error _ rfl
  · exact settles_declare P c m e
  · exact settles_exchangeKey P c m e
  · exact settles_reply m _ rfl
  · refine settles_reply m _ ?_
    split
    · exact switchboard_modify c none _ _ e.world rfl
    · rfl
  · exact settles_reply m _ rfl

/-! ## Energy -/

omit [Board W] [Link W] [Wired W] in
/-- A report changes nothing but what the accounts hold. -/
theorem applyReport_frame (c : Coordinator) (reporter : Entity) (entries : List ReportEntry) :
    ∃ all, c.applyReport reporter entries
      = { c with accounts := { c.accounts with all := all } } := by
  unfold applyReport
  induction entries generalizing c with
  | nil => exact ⟨c.accounts.all, rfl⟩
  | cons entry rest ih =>
    rw [List.foldl_cons]
    split
    · next consumer _ =>
      obtain ⟨all, hrest⟩ := ih
        { c with accounts := (c.accounts.transfer reporter consumer entry.energy.toNat).2 }
      refine ⟨all, hrest.trans ?_⟩
      unfold Accounts.transfer
      split <;> rfl
    · exact ih c

/-- A slot that is to sleep is switched off, unless it is not metered. -/
theorem settles_handleEnergy (clock : Clock) (hservice : m.service = .energy)
    (hsleep : ∀ s ms, c.nap? m = some (s, ms) → P (.off s .disabledDutyCycle)) :
    Settles P (c.switchboard none e.world) (c.handleEnergy clock m e) := by
  unfold handleEnergy
  split
  · exact settles_error _ rfl
  · next s entity hentity =>
    dsimp only
    split
    · exact settles_error _ rfl
    · exact settles_reply m _ rfl
    · exact settles_reply m _ rfl
    · split
      · refine settles_reply m _ ?_
        obtain ⟨all, hreport⟩ :=
          applyReport_frame c entity (ReportEntry.decodeReport m.payload)
        rw [hreport]
        rfl
      · exact settles_error _ rfl
    · next htype =>
      split
      · exact settles_error _ rfl
      · next ms hms =>
        refine .of_does ?_
        by_cases hmetered : s.isMetered = true
        · refine does_sleep c clock.now s ms e.world (hsleep s ms ?_)
          rw [nap?, if_pos ⟨hservice, htype⟩, (slotOf?_of_entityOf hentity).1, hms]
          exact if_pos hmetered
        · rw [sleep, if_pos (by simpa using hmetered)]
          exact .refl _

/-! ## The other services -/

theorem settles_handleTimeLocation :
    Settles P (c.switchboard none e.world) (c.handleTimeLocation m e) := by
  unfold handleTimeLocation
  dsimp only
  split
  · exact settles_reply m _ rfl
  · exact settles_reply m _ rfl
  · exact settles_error _ rfl
  · exact settles_error _ rfl

theorem settles_handleWatchdog :
    Settles P (c.switchboard none e.world) (c.handleWatchdog m e) := by
  unfold handleWatchdog
  split
  · exact settles_error _ rfl
  · split
    · exact settles_error _ rfl
    · next s _ => exact settles_reply m _ (switchboard_modify c none s _ e.world rfl)

theorem settles_handleNetworking (clock : Clock) (hservice : m.service = .networking)
    (hcommands : ∀ d, m.command? = some d → ∀ x, c.Commands e.world d x → P x)
    (hdeny : ∀ name s, m.command? = some (.on name) → c.modules.findName? name = some s →
      P (.deny s))
    (hcut : ∀ name s, m.command? = some (.reset name) → c.modules.findName? name = some s →
      P (.cut s)) :
    Settles P (c.switchboard none e.world) (c.handleNetworking clock m e) := by
  unfold handleNetworking
  split
  · next htype =>
    split
    · exact settles_error _ rfl
    · next downlink hparse =>
      split
      · exact settles_ok rfl
      · next command hcommand =>
        have hcarried : m.command? = some command := by
          rw [Message.command?, if_pos ⟨hservice, htype⟩, hparse]
          exact hcommand
        exact follows_applyDownlink c clock command e.world (hcommands command hcarried)
          (fun name s hon => hdeny name s (hon ▸ hcarried))
          fun name s hreset => hcut name s (hreset ▸ hcarried)
  · exact settles_error _ rfl

/-- A request switches what it says. -/
theorem settles_handle (clock : Clock)
    (hsleep : ∀ s ms, c.nap? m = some (s, ms) → P (.off s .disabledDutyCycle))
    (hcommands : ∀ d, m.command? = some d → ∀ x, c.Commands e.world d x → P x)
    (hdeny : ∀ name s, m.command? = some (.on name) → c.modules.findName? name = some s →
      P (.deny s))
    (hcut : ∀ name s, m.command? = some (.reset name) → c.modules.findName? name = some s →
      P (.cut s)) :
    Settles P (c.switchboard none e.world) (c.handle clock m e) := by
  unfold handle
  split
  · exact settles_handleInitialization P c m e
  · next hservice => exact settles_handleEnergy P c m e clock hservice hsleep
  · exact settles_handleTimeLocation P c m e
  · exact settles_handleWatchdog P c m e
  · next hservice => exact settles_handleNetworking P c m e clock hservice hcommands hdeny hcut
  · exact settles_error _ rfl

/-! ## Refusals -/

/-- An error reply does not show, whether it is written now or waits. -/
theorem follows_refuse (r : ErrorReply) (clock : Clock) {b : Switchboard}
    (h : Does P b (c.switchboard none e.world)) :
    c.Follows P b (refuse r clock e).1 (refuse r clock e).2.world := by
  have hworld : Does P b (c.switchboard none (refuse r clock e).2.world) := by
    rw [switchboard, ModuleTable.switchboard, refuse]
    dsimp only
    rw [rails_errorReply]
    exact h
  unfold refuse at hworld ⊢
  dsimp only at hworld ⊢
  cases (r.send clock e).1 with
  | none => exact .of_does hworld
  | some waiting => exact ⟨hworld, trivial⟩

omit [Wired W] in
/-- A refusal does not change the coordinator. -/
theorem coordinator_receive (c : Coordinator) (clock : Clock) (m : Message) (e : Endpoint W) :
    (c.receive clock m e).2.1 = (c.handle clock m e).2.1 := by
  unfold receive
  split
  · next h => rw [h]
  · next h =>
    rw [h]
    split <;> rfl

/-- Receiving a request, and refusing it if need be. -/
theorem follows_receive_of_settles (clock : Clock) {b : Switchboard}
    (h : Settles P b (c.handle clock m e)) :
    (c.receive clock m e).2.1.Follows P b (c.receive clock m e).1
      (c.receive clock m e).2.2.world := by
  unfold receive
  split
  · next hhandle =>
    rw [hhandle] at h
    exact h
  · next code c' e' hhandle =>
    rw [hhandle] at h
    split
    · exact follows_refuse _ c' e' _ clock h.does
    · exact h

theorem follows_receive (clock : Clock)
    (hsleep : ∀ s ms, c.nap? m = some (s, ms) → P (.off s .disabledDutyCycle))
    (hcommands : ∀ d, m.command? = some d → ∀ x, c.Commands e.world d x → P x)
    (hdeny : ∀ name s, m.command? = some (.on name) → c.modules.findName? name = some s →
      P (.deny s))
    (hcut : ∀ name s, m.command? = some (.reset name) → c.modules.findName? name = some s →
      P (.cut s)) :
    (c.receive clock m e).2.1.Follows P (c.switchboard none e.world)
      (c.receive clock m e).1 (c.receive clock m e).2.2.world :=
  follows_receive_of_settles P c m e clock
    (settles_handle P c m e clock hsleep hcommands hdeny hcut)

end Coordinator

end ModuleBus

import ModuleBus.Proofs.Controller.Declarations
import ModuleBus.Proofs.Controller.KeyChanges
import ModuleBus.Proofs.Controller.Listings
import ModuleBus.Proofs.Controller.Power

set_option autoImplicit false

/-! # Names and addresses throughout runs

Only a declaration changes what a slot is called or which address it has: the slot that holds the
bus gets the address and the name that are declared, and a slot that had that address gets none. So
whatever holds of all that may be declared holds of all that the table tells
(`Moment.forall_labels`). A name that is declared is read from sixteen bytes and kept as it was
read, not as it was written, and an address that is declared is kept even if it is the one that
stands for none. Where clients see another table than the controller's, it is for one of these
reasons (`Moment.clients_see_table_iff`). -/

namespace ModuleBus

/-! ## Labels -/

theorem keptName_textLossy {bytes : Bytes} (h : bytes.length ≤ maxWireName) :
    keptName (Utf8.textLossy bytes) = Utf8.textLossy bytes := by
  have hlength : (Utf8.decodeLossy bytes).length ≤ maxKeptName :=
    Nat.le_trans (Utf8.length_decodeLossy_le bytes) h
  rw [keptName, Utf8.textLossy, String.toList_ofList, List.take_of_length_le hlength]

/-- The name that a message declares. -/
def Message.declaredName (m : Message) : String := Utf8.textLossy (m.payload.take maxWireName)

theorem keptName_declaredName (m : Message) : keptName m.declaredName = m.declaredName :=
  keptName_textLossy (List.length_take_le _ _)

namespace ModuleTable

/-- What a slot is known by: the address and the name. -/
def labels (t : ModuleTable) (s : Slot) : Option Address × String :=
  ((t.get s).address, (t.get s).name)

theorem labels_of_plates {t t' : ModuleTable} (h : t'.plates = t.plates) :
    t'.labels = t.labels :=
  funext fun s => congrArg (fun plate => (plate.1, plate.2.1)) (congrFun h s)

theorem labels_modify (t : ModuleTable) (s : Slot) (f : ModuleRecord → ModuleRecord)
    (haddress : (f (t.get s)).address = (t.get s).address)
    (hname : (f (t.get s)).name = (t.get s).name) : (t.modify s f).labels = t.labels := by
  funext r
  by_cases h : r = s
  · rw [h, labels, get_modify_self, haddress, hname, labels]
  · rw [labels, get_modify_of_ne _ _ h, labels]

/-- Binding an address and a name to a slot may take them from another one. -/
theorem labels_assign (t : ModuleTable) (s : Slot) (a : Address) (name : String) (r : Slot) :
    (t.assign s a name).2.labels r = (if r = s then (some a, keptName name) else t.labels r)
      ∨ (t.assign s a name).2.labels r = (none, "") := by
  by_cases hr : r = s
  · rw [if_pos hr, hr, labels, assign, get_modify_self]
    exact .inl rfl
  · have hother : (t.assign s a name).2.labels r = (t.vacateOther s a).labels r := by
      rw [labels, assign, get_modify_of_ne _ _ hr, labels]
    rw [hother, if_neg hr, vacateOther]
    split
    · next other _ =>
      split
      · exact .inl rfl
      · by_cases hrother : r = other
        · rw [hrother, labels, get_modify_self]
          exact .inr rfl
        · rw [labels, get_modify_of_ne _ _ hrother]
          exact .inl rfl
    · exact .inl rfl

end ModuleTable

/-! ## Events -/

namespace Coordinator

/-- The labels after an event: those before, or a declaration has been bound to the holder of the
bus. -/
inductive Labels (c : Coordinator) (event : Event) : (Slot → Option Address × String) → Prop
  | same : Labels c event c.modules.labels
  | declared {m : Message} {s : Slot} : event = .message m → event.IsDeclaration →
      c.isolation.holder = some s →
      Labels c event (c.modules.assign s (m.bound s) m.declaredName).2.labels

variable {W : Type} (c : Coordinator) (clock : Clock) (m : Message) (e : Endpoint W)

theorem Labels.of_eq {c : Coordinator} {event : Event}
    {labels : Slot → Option Address × String} (h : labels = c.modules.labels) :
    Labels c event labels := h ▸ .same

/-- What holds of all labels, and of what is declared, holds of all labels afterwards. -/
theorem Labels.forall {c : Coordinator} {event : Event}
    {labels : Slot → Option Address × String} {P : Option Address × String → Prop}
    (h : Labels c event labels) (hempty : P (none, ""))
    (hdeclared : ∀ m s, event = .message m → event.IsDeclaration →
      P (some (m.bound s), m.declaredName))
    (hbefore : ∀ s, P (c.modules.labels s)) (r : Slot) : P (labels r) := by
  cases h with
  | same => exact hbefore r
  | @declared m s hevent hdeclares _ =>
    rcases c.modules.labels_assign s (m.bound s) m.declaredName r with hlabel | hlabel
    · rw [hlabel, keptName_declaredName]
      split
      · exact hdeclared m s hevent hdeclares
      · exact hbefore r
    · rw [hlabel]
      exact hempty

theorem labels_forgetKey (s : Slot) : (c.forgetKey s e).1.modules.labels = c.modules.labels :=
  c.modules.labels_modify s _ rfl rfl

section

variable [Board W]

theorem labels_afterTick (event : IsolationEvent) :
    (c.afterTick event e).1.modules.labels = c.modules.labels := by
  unfold afterTick
  split
  · next c' e' hevent =>
    split at hevent
    · next s =>
      have hforget := c.labels_forgetKey e s
      rw [hevent] at hforget
      exact hforget
    · cases hevent
      rfl

theorem labels_isolationTick : (c.isolationTick e).2.1.modules.labels = c.modules.labels := by
  have htick := ModuleTable.labels_of_plates
    (Isolation.plates_tick c.isolation c.modules e.world)
  unfold isolationTick
  dsimp only
  split
  · exact (labels_afterTick _ _ _).trans htick
  · exact htick

theorem labels_finishTick (s : Slot) :
    (c.finishTick s e).2.1.modules.labels = c.modules.labels := by
  have hcycle := ModuleTable.labels_of_plates
    (Isolation.plates_finishCycle c.isolation c.modules e.world s)
  unfold finishTick
  dsimp only
  exact (labels_afterTick _ _ _).trans hcycle

end

variable [Link W]

theorem labels_exchangeKey : (c.exchangeKey m e).2.1.modules.labels = c.modules.labels := by
  unfold exchangeKey
  split
  · rfl
  · next s _ =>
    dsimp only
    split
    · rfl
    · split
      · next h =>
        have hsame := congrArg (fun result => result.2.1.modules.labels) h
        exact hsame.symm
      · next c' e' h =>
        have hsame := congrArg (fun result => result.2.1.modules.labels) h
        exact (c'.modules.labels_modify s _ rfl rfl).trans hsame.symm

theorem labels_handleInitialization (h : m.service = .initialization) :
    Labels c (.message m) (c.handleInitialization m e).2.1.modules.labels := by
  unfold handleInitialization
  split
  · exact .same
  · next htype =>
    unfold declare
    split
    · exact .same
    · next s hs =>
      have hkey := (c.modules.assign s (m.bound s) m.declaredName).2.labels_modify s
        (fun r => { r with hasKey := false }) rfl rfl
      have hdeclared := Labels.declared (c := c) rfl (show Event.IsDeclaration (.message m) from
        ⟨h, htype⟩) hs
      rw [← hkey] at hdeclared
      exact hdeclared
  · exact .of_eq (labels_exchangeKey c m e)
  · exact .same
  · refine .of_eq ?_
    dsimp only [reply]
    split
    · exact c.modules.labels_modify _ _ rfl rfl
    · rfl
  · exact .same

variable [Board W]

theorem labels_handle : Labels c (.message m) (c.handle clock m e).2.1.modules.labels := by
  by_cases hservice : m.service = .initialization
  · rw [handle, hservice]
    exact labels_handleInitialization c m e hservice
  · exact .of_eq (ModuleTable.labels_of_plates (plates_handle c clock m e hservice))

/-- Only a declaration changes a label. -/
theorem labels_begin (event : Event) :
    Labels c event (c.begin clock event e).2.1.modules.labels := by
  unfold begin
  cases event with
  | tick =>
    refine .of_eq ?_
    have htick := c.labels_isolationTick e
    dsimp only
    split <;> next h => rw [h] at htick; exact htick
  | period =>
    dsimp only
    exact .of_eq (ModuleTable.labels_of_plates (plates_energyUpdate c clock.now e.world))
  | check =>
    dsimp only
    exact .of_eq (ModuleTable.labels_of_plates (plates_checkWatchdogs c clock e.world))
  | wake =>
    dsimp only
    exact .of_eq (ModuleTable.labels_of_plates (plates_wakeDue c clock.now e.world))
  | command d =>
    dsimp only
    exact .of_eq (ModuleTable.labels_of_plates (plates_applyDownlink c clock d e.world))
  | message m =>
    dsimp only
    rw [coordinator_receive]
    exact labels_handle c clock m e
  | fix _ => exact .same

theorem labels_resume (pause : Pause) :
    (c.resume clock pause e).2.1.modules.labels = c.modules.labels := by
  cases pause with
  | cycling s _ => exact labels_finishTick c e s
  | pulsing _ _ _ | resetting _ _ | refusing _ _ => rfl

end Coordinator

/-! ## Runs -/

namespace Moment

variable {W : Type} [Board W] [Link W] [Wired W] {may : Moment W → Event → Prop}
  {P : Option Address × String → Prop} {m m' : Moment W}

/-- The step: what holds of all labels, and of all that may be declared, goes on to hold. -/
theorem forall_labels_step (hempty : P (none, ""))
    (hdeclared : ∀ m q s, may m (.message q) → Event.IsDeclaration (.message q) →
      P (some (q.bound s), q.declaredName))
    (hstep : Step may m m') (h : ∀ s, P (m.coordinator.modules.labels s)) (s : Slot) :
    P (m'.coordinator.modules.labels s) := by
  cases hstep with
  | drift _ => exact h s
  | begin clock event _ hmay =>
    refine (m.coordinator.labels_begin clock m.endpoint event).forall hempty ?_ h s
    rintro q r rfl hdeclares
    exact hdeclared m q r hmay hdeclares
  | resume clock _ =>
    have hlabels := m.coordinator.labels_resume clock m.endpoint
    exact (congrFun (hlabels _) s).symm ▸ h s

theorem labels_start (s : Slot) : ModuleTable.start.labels s
    = if s = Slot.controller then (some .controller, "controller") else (none, "") := by
  revert s
  decide +kernel

/-- The run, by induction on its steps. -/
theorem forall_labels {settings : Settings} {now : Nat} {node : Dispatcher} {w : W}
    (hempty : P (none, "")) (hcontroller : P (some .controller, "controller"))
    (hdeclared : ∀ m q s, may m (.message q) → Event.IsDeclaration (.message q) →
      P (some (q.bound s), q.declaredName))
    (h : Reaches may (boot settings now node w) m) (s : Slot) :
    P (m.coordinator.modules.labels s) := by
  induction h generalizing s with
  | refl =>
    change P (ModuleTable.start.labels s)
    rw [labels_start]
    split
    · exact hcontroller
    · exact hempty
  | tail _ hstep ih => exact forall_labels_step hempty hdeclared hstep ih s

end Moment

/-! ## What clients see -/

/-- Clients see the table as it is: they read the addresses and the states that it holds, and every
name is one that fits on the wire. -/
structure ModuleTable.IsSeen (t : ModuleTable) : Prop where
  addresses : Client.listModules.read (encodeAddresses t.addresses) = .ok t.addresses.toList
  states : Client.listStates.read (SlotState.encodeList t.slotStates) = .ok t.slotStates
  names : ∀ s, (Utf8.ofText (t.get s).name).length ≤ maxWireName

/-- A declaration that clients can see: from another address than the one that stands for none, with
sixteen bytes of a name that are well formed. -/
structure Message.IsPlain (m : Message) : Prop where
  source : m.source ≠ ⟨emptySlot⟩
  name : (Utf8.text? (m.payload.take maxWireName)).isSome = true

namespace Message.IsPlain

variable {m : Message}

theorem bound_ne (h : m.IsPlain) (s : Slot) : m.bound s ≠ ⟨emptySlot⟩ := by
  have hassigned : ∀ s : Slot, s.assignedAddress ≠ ⟨emptySlot⟩ := by decide
  unfold bound
  split
  · exact hassigned s
  · exact h.source

theorem length_le (h : m.IsPlain) : (Utf8.ofText m.declaredName).length ≤ maxWireName := by
  rw [declaredName, Utf8.length_ofText_textLossy h.name]
  exact List.length_take_le _ _

end Message.IsPlain

namespace Moment

variable {W : Type} [Board W] [Link W] [Wired W] {may : Moment W → Event → Prop} {m : Moment W}

/-- If all that is declared can be seen, then so can the table. -/
theorem isSeen_of_isPlain {settings : Settings} {now : Nat} {node : Dispatcher} {w : W}
    (hplain : ∀ m q, may m (.message q) → Event.IsDeclaration (.message q) → q.IsPlain)
    (h : Reaches may (boot settings now node w) m) : m.coordinator.modules.IsSeen := by
  have hlabels := forall_labels
    (P := fun label => label.1 ≠ some ⟨emptySlot⟩ ∧ (Utf8.ofText label.2).length ≤ maxWireName)
    ⟨nofun, by decide⟩ ⟨by decide, by decide⟩
    (fun m q s hmay hdeclares => ⟨fun haddress =>
      (hplain m q hmay hdeclares).bound_ne s (Option.some.inj haddress),
      (hplain m q hmay hdeclares).length_le⟩) h
  exact ⟨(ModuleTable.read_listModules_eq_iff _).mpr fun s => (hlabels s).1,
    (ModuleTable.read_listStates_eq_iff _).mpr fun s _ _ => .inl (hlabels s).2,
    fun s => (hlabels s).2⟩

/-- Every name in the table was read from sixteen bytes. -/
theorem exists_bytes_of_name {settings : Settings} {now : Nat} {node : Dispatcher} {w : W}
    (h : Reaches may (boot settings now node w) m) (s : Slot) :
    ∃ bytes, bytes.length ≤ maxWireName
      ∧ (m.coordinator.modules.get s).name = Utf8.textLossy bytes :=
  forall_labels
    (P := fun label => ∃ bytes, bytes.length ≤ maxWireName ∧ label.2 = Utf8.textLossy bytes)
    ⟨[], by decide, (Utf8.textLossy_ofText "").symm⟩
    ⟨Utf8.ofText "controller", by decide, (Utf8.textLossy_ofText _).symm⟩
    (fun _ q _ _ _ => ⟨_, List.length_take_le _ _, rfl⟩) h s

/-- **Clients see the table, unless a declaration is odd.** At every moment of every run from boot,
whatever was handled, requests for the addresses of all slots and for the states of the occupied
ones are answered from the table. What clients read are the addresses that it holds if and only if
none is 0xFF, and the states that it holds if and only if no name gets another one on the wire.
Every name was read from at most sixteen bytes, has at most sixteen characters, and takes up to 48
bytes. If all declarations that may happen come from other addresses than 0xFF with well-formed
names, then clients see the table as it is, and every name fits in sixteen bytes. -/
theorem clients_see_table_iff {settings : Settings} {now : Nat} {node : Dispatcher} {w : W}
    (h : Reaches may (boot settings now node w) m) :
    (∀ (clock : Clock) (q : Message) (e : Endpoint W), q.service = .initialization →
      (q.type = InitializationRequest.listModules.toByte → m.coordinator.handle clock q e
        = m.coordinator.reply q (encodeAddresses m.coordinator.modules.addresses) e)
      ∧ (q.type = InitializationRequest.listStates.toByte → m.coordinator.handle clock q e
        = m.coordinator.reply q (SlotState.encodeList m.coordinator.modules.slotStates) e))
    ∧ (Client.listModules.read (encodeAddresses m.coordinator.modules.addresses)
        = .ok m.coordinator.modules.addresses.toList
      ↔ ∀ s, (m.coordinator.modules.get s).address ≠ some ⟨emptySlot⟩)
    ∧ (Client.listStates.read (SlotState.encodeList m.coordinator.modules.slotStates)
        = .ok m.coordinator.modules.slotStates
      ↔ ∀ s a, (m.coordinator.modules.get s).address = some a →
        SlotState.ReadsBack (m.coordinator.modules.get s).name)
    ∧ (∀ s, ∃ bytes, bytes.length ≤ maxWireName
      ∧ (m.coordinator.modules.get s).name = Utf8.textLossy bytes
      ∧ (m.coordinator.modules.get s).name.toList.length ≤ maxWireName
      ∧ (Utf8.ofText (m.coordinator.modules.get s).name).length ≤ 3 * maxWireName)
    ∧ ((∀ m q, may m (.message q) → Event.IsDeclaration (.message q) → q.IsPlain) →
      m.coordinator.modules.IsSeen) := by
  refine ⟨fun clock q e hservice => ⟨fun htype => ?_, fun htype => ?_⟩,
    ModuleTable.read_listModules_eq_iff _, ModuleTable.read_listStates_eq_iff _, fun s => ?_,
    fun hplain => isSeen_of_isPlain hplain h⟩
  · rw [Coordinator.handle, hservice]
    dsimp only
    rw [Coordinator.handleInitialization, htype]
    rfl
  · rw [Coordinator.handle, hservice]
    dsimp only
    rw [Coordinator.handleInitialization, htype]
    rfl
  · obtain ⟨bytes, hbytes, hname⟩ := exists_bytes_of_name h s
    refine ⟨bytes, hbytes, hname, ?_, ?_⟩
    · rw [hname, Utf8.textLossy, String.toList_ofList]
      exact Nat.le_trans (Utf8.length_decodeLossy_le bytes) hbytes
    · rw [hname, Utf8.ofText, Utf8.textLossy, String.toList_ofList]
      exact Nat.le_trans (Utf8.length_encode_decodeLossy_le bytes) (Nat.mul_le_mul_left 3 hbytes)

/-- A module in the last slot of the desk has declared itself from the address that stands for no
module, with a name of bytes that cannot begin a character. -/
def strayed : Moment DeskWorld :=
  granted.begin ⟨0, 1⟩
    (.message ⟨⟨emptySlot⟩, .controller, .command, .initialization,
      InitializationRequest.declare.toByte, List.replicate 16 0x80⟩)

/-- Clients do not see that module, nor its name, which has grown to 48 bytes. -/
theorem stray_module_is_not_seen :
    Reaches (fun _ _ => True) deskBoot strayed
      ∧ Client.listModules.read (encodeAddresses strayed.coordinator.modules.addresses)
        ≠ .ok strayed.coordinator.modules.addresses.toList
      ∧ Client.listStates.read (SlotState.encodeList strayed.coordinator.modules.slotStates)
        ≠ .ok strayed.coordinator.modules.slotStates
      ∧ (Utf8.ofText (strayed.coordinator.modules.get Slot.last).name).length = 48 := by
  have hstrayed : Reaches (fun _ _ => True) deskBoot strayed :=
    reaches_granted.tail (.begin ⟨0, 1⟩ _ (by decide +kernel) trivial)
  have haddress : (strayed.coordinator.modules.get Slot.last).address = some ⟨emptySlot⟩ := by
    decide +kernel
  have hname : (strayed.coordinator.modules.get Slot.last).name.toList
      = List.replicate 16 Utf8.replacement := by
    decide +kernel
  have hlength : (Utf8.ofText (strayed.coordinator.modules.get Slot.last).name).length = 48 := by
    rw [Utf8.ofText, hname]
    decide
  obtain ⟨-, haddresses, hstates, -, -⟩ := clients_see_table_iff hstrayed
  refine ⟨hstrayed, fun h => haddresses.mp h Slot.last haddress, fun h => ?_, hlength⟩
  rcases hstates.mp h Slot.last _ haddress with hshort | ⟨before, hbefore, hlt⟩
  · rw [hlength] at hshort
    exact absurd hshort (by decide)
  · -- Fifteen of its characters are too long as well.
    have hfifteen : before = List.replicate 15 Utf8.replacement := by
      refine List.append_cancel_right (hbefore.symm.trans (hname.trans ?_))
      rfl
    rw [hfifteen] at hlt
    exact absurd hlt (by decide)

end Moment
end ModuleBus

import ModuleBus.Client
import ModuleBus.Proofs.Accounts.Refusals
import ModuleBus.Proofs.Accounts.Reports

set_option autoImplicit false

/-! # Accepted reports

A report that is accepted moves the energy of those of its entries that count: they name the
address of a slot, and no more energy than a report may hold. Each account is shifted by a sum over
these entries, and sums do not depend on an order. So entries may be sent in any order, and reports
may be handled in any order (`accepted_reports_add_up`). This holds of whatever bytes a report is
made of, as every payload holds entries (`ReportEntry.exists_holds`). -/

namespace ModuleBus

/-! ## What any bytes hold -/

namespace ReportEntry

/-- Six bytes are an entry. -/
theorem exists_toBytes (a₀ a₁ e₀ e₁ e₂ e₃ : UInt8) :
    ∃ entry : ReportEntry, entry.toBytes = [a₀, a₁, e₀, e₁, e₂, e₃] := by
  have happlication : Bytes.toNatLE [a₀, a₁] < 65536 := Bytes.toNatLE_lt [a₀, a₁]
  have henergy : Bytes.toNatLE [e₀, e₁, e₂, e₃] < 4294967296 := Bytes.toNatLE_lt [e₀, e₁, e₂, e₃]
  refine ⟨⟨UInt16.ofNat (Bytes.toNatLE [a₀, a₁]), UInt32.ofNat (Bytes.toNatLE [e₀, e₁, e₂, e₃])⟩,
    ?_⟩
  rw [toBytes, UInt16.toNat_ofNat_of_lt' happlication, UInt32.toNat_ofNat_of_lt' henergy]
  exact congrArg₂ (· ++ ·) (Bytes.ofNatLE_toNatLE [a₀, a₁]) (Bytes.ofNatLE_toNatLE [e₀, e₁, e₂, e₃])

/-- Any bytes are whole entries and a rest. -/
theorem exists_flatMap_append (bytes : Bytes) : ∃ (all : List ReportEntry) (rest : Bytes),
    bytes = all.flatMap toBytes ++ rest ∧ rest.length < size := by
  induction hlength : bytes.length using Nat.strong_induction_on generalizing bytes with
  | _ length ih =>
    subst hlength
    match bytes with
    | a₀ :: a₁ :: e₀ :: e₁ :: e₂ :: e₃ :: bytes =>
      obtain ⟨entry, hentry⟩ := exists_toBytes a₀ a₁ e₀ e₁ e₂ e₃
      obtain ⟨all, rest, rfl, hrest⟩ :=
        ih bytes.length (by simp only [List.length_cons]; omega) bytes rfl
      exact ⟨entry :: all, rest, by rw [List.flatMap_cons, hentry]; rfl, hrest⟩
    | [] | [_] | [_, _] | [_, _, _] | [_, _, _, _] | [_, _, _, _, _] =>
      exact ⟨[], _, rfl, by simp [size]⟩

/-- Every payload holds entries. -/
theorem exists_holds (payload : Bytes) : ∃ entries, Holds payload entries := by
  cases payload with
  | nil => exact ⟨[], .empty⟩
  | cons count body =>
    obtain ⟨all, rest, rfl, hrest⟩ := exists_flatMap_append body
    exact ⟨_, .counted count all hrest⟩

/-- The energy of some entries together. -/
def energies (entries : List ReportEntry) : Nat := (entries.map (·.energy.toNat)).sum

end ReportEntry

namespace Coordinator

open ReportEntry (energies)

/-! ## Entries that count -/

/-- An entry counts if it names the address of a slot, and no more energy than a report may hold. -/
def counts (c : Coordinator) (entry : ReportEntry) : Bool :=
  (Slot.all.any fun s =>
    (c.modules.get s).address.any fun a => a.value.toNat == entry.application.toNat)
  && entry.energy.toNat ≤ c.accounts.settings.reportCeiling

/-- The energy of the entries that count. -/
def counted (c : Coordinator) (entries : List ReportEntry) : Nat :=
  energies (entries.filter c.counts)

/-- The energy of the entries that count and charge an entity. -/
def chargedTo (c : Coordinator) (x : Entity) (entries : List ReportEntry) : Nat :=
  energies (entries.filter fun entry => c.counts entry && c.consumer? entry == some x)

variable {c : Coordinator} {entry : ReportEntry} {entries : List ReportEntry}

/-- An entry charges somebody if it names the address of a slot. -/
theorem isSome_consumer?_iff (h : entry.application.toNat < 256) :
    (c.consumer? entry).isSome = true ↔
      ∃ s a, (c.modules.get s).address = some a ∧ a.value.toNat = entry.application.toNat := by
  have haddress : (UInt8.ofNat entry.application.toNat).toNat = entry.application.toNat :=
    UInt8.toNat_ofNat_of_lt' h
  rw [consumer?, entityOf]
  cases hslot : c.modules.slotOf? ⟨UInt8.ofNat entry.application.toNat⟩ with
  | none =>
    simp only [Except.toOption, Option.map_none, Option.isSome_none, Bool.false_eq_true, false_iff]
    rintro ⟨s, ⟨b⟩, hs, hb⟩
    refine ModuleTable.address_ne_of_slotOf? hslot s (hs.trans ?_)
    rw [← hb, UInt8.ofNat_toNat]
  | some s =>
    exact iff_of_true rfl ⟨s, _, ModuleTable.address_of_slotOf? hslot, haddress⟩

theorem counts_iff (h : entry.application.toNat < 256) : c.counts entry = true ↔
    (c.consumer? entry).isSome = true ∧ entry.energy.toNat ≤ c.accounts.settings.reportCeiling := by
  rw [isSome_consumer?_iff h]
  simp [counts, Slot.mem_all, Option.any_eq_true]

/-- What one entry moves into the account of an entity. -/
theorem moves_eq (h : entry.application.toNat < 256) (reporter x : Entity) :
    c.moves reporter entry x = (if reporter = x then (c.counted [entry] : Int) else 0)
      - c.chargedTo x [entry] := by
  have hcounts := counts_iff (c := c) h
  unfold moves counted chargedTo energies
  cases hconsumer : c.consumer? entry with
  | none =>
    have hnot : c.counts entry = false := by
      rw [Bool.eq_false_iff, Ne, hcounts, hconsumer]
      simp
    simp [hnot]
  | some consumer =>
    rw [hconsumer] at hcounts
    unfold Accounts.movedInto Accounts.accepted
    by_cases hceiling : entry.energy.toNat ≤ c.accounts.settings.reportCeiling
    · have hyes : c.counts entry = true := hcounts.mpr ⟨rfl, hceiling⟩
      by_cases hx : consumer = x <;> simp [hyes, hx, hconsumer, Nat.not_lt.mpr hceiling]
    · have hnot : c.counts entry = false := by
        rw [Bool.eq_false_iff, Ne, hcounts]
        exact fun hboth => hceiling hboth.2
      simp [hnot, Nat.not_le.mp hceiling]

/-- What the entries of a report move into the account of an entity. -/
theorem moved_eq (h : AreAddressed entries) (reporter x : Entity) :
    c.moved reporter entries x = (if reporter = x then (c.counted entries : Int) else 0)
      - c.chargedTo x entries := by
  induction entries with
  | nil => simp [moved, counted, chargedTo, energies]
  | cons entry rest ih =>
    have hcounted : c.counted (entry :: rest) = c.counted [entry] + c.counted rest := by
      simp only [counted, energies, ← List.sum_append, ← List.map_append, ← List.filter_append]
      rfl
    have hcharged : c.chargedTo x (entry :: rest) = c.chargedTo x [entry] + c.chargedTo x rest := by
      simp only [chargedTo, energies, ← List.sum_append, ← List.map_append, ← List.filter_append]
      rfl
    rw [moved_cons, moves_eq (h entry List.mem_cons_self),
      ih fun other hother => h other (List.mem_cons_of_mem entry hother), hcounted, hcharged]
    push_cast
    split <;> ring

end Coordinator

/-! ## Any order -/

theorem Entity.exists_index (i : Fin entityCount) : ∃ e : Entity, e.index = i := by
  have hall : ∀ i : Fin entityCount, ∃ e ∈ all, e.index = i := by decide
  obtain ⟨e, _, he⟩ := hall i
  exact ⟨e, he⟩

theorem PerEntity.ext_get {α : Type} {v w : PerEntity α} (h : ∀ e, v.get e = w.get e) : v = w := by
  refine Vector.ext fun i hi => ?_
  obtain ⟨e, he⟩ := Entity.exists_index ⟨i, hi⟩
  have hval : e.index.val = i := congrArg Fin.val he
  subst hval
  exact h e

namespace Coordinator

open ReportEntry (Holds)

variable {c : Coordinator} {reporter reporter' : Entity} {entries entries' : List ReportEntry}

/-- Coordinators whose accounts hold the same, and that agree in all else, are the same. -/
theorem eq_of_get {c₁ c₂ : Coordinator}
    (h₁ : ∃ all, c₁ = { c with accounts := { c.accounts with all := all } })
    (h₂ : ∃ all, c₂ = { c with accounts := { c.accounts with all := all } })
    (h : ∀ x, c₁.accounts.get x = c₂.accounts.get x) : c₁ = c₂ := by
  obtain ⟨v, rfl⟩ := h₁
  obtain ⟨w, rfl⟩ := h₂
  rw [PerEntity.ext_get (v := v) (w := w) h]

/-- The order of the entries does not matter. -/
theorem applyReport_perm (h : entries.Perm entries') (c : Coordinator) (reporter : Entity) :
    c.applyReport reporter entries = c.applyReport reporter entries' := by
  refine eq_of_get (applyReport_frame c _ _) (applyReport_frame c _ _) fun x => ?_
  rw [get_applyReport, get_applyReport, moved, moved, Accounts.total_eq_sum, Accounts.total_eq_sum,
    (h.map _).sum_eq]

/-- A report changes neither what addresses stand for, nor how much an entry may hold. -/
theorem moved_applyReport (c : Coordinator) (reporter reporter' x : Entity)
    (entries entries' : List ReportEntry) :
    (c.applyReport reporter entries).moved reporter' entries' x = c.moved reporter' entries' x := by
  obtain ⟨all, hall⟩ := applyReport_frame c reporter entries
  rw [hall]
  exact moved_accounts rfl reporter' entries' x

/-- Nor does the order of two reports. -/
theorem applyReport_comm (c : Coordinator) (reporter reporter' : Entity)
    (entries entries' : List ReportEntry) :
    (c.applyReport reporter entries).applyReport reporter' entries'
      = (c.applyReport reporter' entries').applyReport reporter entries := by
  obtain ⟨v, hv⟩ := applyReport_frame c reporter entries
  obtain ⟨w, hw⟩ := applyReport_frame c reporter' entries'
  refine eq_of_get (c := c) ?_ ?_ fun x => ?_
  · rw [hv]
    exact applyReport_frame _ reporter' entries'
  · rw [hw]
    exact applyReport_frame _ reporter entries
  · rw [get_applyReport, get_applyReport, get_applyReport, get_applyReport, Account.shift_shift,
      Account.shift_shift, moved_applyReport, moved_applyReport, Int.add_comm]

/-! ## Handling reports -/

/-- The controller after a report, whether that can be answered or not. -/
def reported (c : Coordinator) (m : Message) : Coordinator :=
  match c.entityOf m.source with
  | .error _ => c
  | .ok (_, reporter) =>
    if (ReportEntry.decodeReport m.payload).all fun entry => entry.application.toNat < 256 then
      c.applyReport reporter (ReportEntry.decodeReport m.payload)
    else c

theorem entityOf_applyReport (c : Coordinator) (reporter : Entity) (entries : List ReportEntry)
    (a : Address) : (c.applyReport reporter entries).entityOf a = c.entityOf a := by
  obtain ⟨all, hall⟩ := applyReport_frame c reporter entries
  rw [hall]
  rfl

/-- A report books some entries for somebody, none if it is refused. Who and which depends on what
the addresses stand for only. -/
theorem exists_reported_eq (c : Coordinator) (m : Message) : ∃ reporter entries,
    ∀ c' : Coordinator, (∀ a, c'.entityOf a = c.entityOf a) →
      c'.reported m = c'.applyReport reporter entries := by
  simp only [reported]
  cases hknown : c.entityOf m.source with
  | error code => exact ⟨.controller, [], fun c' hc' => by rw [hc', hknown]; rfl⟩
  | ok known =>
    by_cases haddressed : (ReportEntry.decodeReport m.payload).all
        fun entry => entry.application.toNat < 256
    · exact ⟨known.2, ReportEntry.decodeReport m.payload,
        fun c' hc' => by rw [hc', hknown]; exact if_pos haddressed⟩
    · exact ⟨.controller, [], fun c' hc' => by rw [hc', hknown]; exact if_neg haddressed⟩

/-- Reports of any senders may change places. -/
theorem reported_comm (c : Coordinator) (m m' : Message) :
    (c.reported m).reported m' = (c.reported m').reported m := by
  obtain ⟨reporter, entries, hm⟩ := exists_reported_eq c m
  obtain ⟨reporter', entries', hm'⟩ := exists_reported_eq c m'
  rw [hm c fun _ => rfl, hm' c fun _ => rfl, hm' _ (entityOf_applyReport c reporter entries),
    hm _ (entityOf_applyReport c reporter' entries'), applyReport_comm]

variable {W : Type} [Board W] [Link W] {c' : Coordinator} {clock : Clock} {m : Message}
  {e e' : Endpoint W} {pause : Option Pause}

/-- What a report leaves does not depend on the time, nor on the bus. -/
theorem coordinator_handle_report (hservice : m.service = .energy)
    (htype : m.type = EnergyRequest.report.toByte) (c : Coordinator) (clock : Clock)
    (e : Endpoint W) : (c.handle clock m e).2.1 = c.reported m := by
  rw [handle_report hservice htype, reported]
  cases c.entityOf m.source with
  | error code => rfl
  | ok known =>
    dsimp only
    split <;> rfl

/-- A report is accepted from a known sender, if all its entries name addresses. -/
theorem accepted_report (hservice : m.service = .energy)
    (htype : m.type = EnergyRequest.report.toByte)
    (haccepted : c.handle clock m e = (.ok pause, c', e')) :
    pause = none ∧ ∃ s reporter, c.entityOf m.source = .ok (s, reporter)
      ∧ AreAddressed (ReportEntry.decodeReport m.payload)
      ∧ c' = c.applyReport reporter (ReportEntry.decodeReport m.payload) := by
  rw [handle_report hservice htype] at haccepted
  split at haccepted
  · cases haccepted
  · next s reporter hknown =>
    split at haccepted
    · next haddressed =>
      rw [reply] at haccepted
      rcases hreply : e.reply m (Bytes.ofIntLE 4 energyStatus) with ⟨error | written, e''⟩
      · rw [hreply] at haccepted
        cases haccepted
      · rw [hreply] at haccepted
        cases haccepted
        exact ⟨rfl, s, reporter, hknown, by simpa [AreAddressed] using haddressed, rfl⟩
    · cases haccepted

/-- **What an accepted report changes.** A report that is sent holds the first 255 of its entries,
and any other payload holds entries too. When a report is accepted, its sender is known, and each
account is shifted by the energy of the entries that count, if it is the sender's, less the energy
of those that charge it. It makes no difference in which order up to 255 entries are sent, nor in
which order, when and with what luck on the bus two reports are handled. -/
theorem accepted_reports_add_up (c : Coordinator) (clock : Clock) (m : Message) (e : Endpoint W)
    (hservice : m.service = .energy) (htype : m.type = EnergyRequest.report.toByte) :
    (∀ entries, Holds (Client.reportEnergy entries).payload (entries.take 255))
    ∧ (∃ entries, Holds m.payload entries)
    ∧ (∀ pause c' e', c.handle clock m e = (.ok pause, c', e') →
      pause = none ∧ ∃ s reporter, c.entityOf m.source = .ok (s, reporter)
        ∧ ∀ entries, Holds m.payload entries → ∀ x, c'.accounts.get x = (c.accounts.get x).shift
            ((if reporter = x then (c.counted entries : Int) else 0) - c.chargedTo x entries))
    ∧ (∀ entries entries' : List ReportEntry, entries.Perm entries' → entries.length ≤ 255 →
      c.handle clock { m with payload := (Client.reportEnergy entries).payload } e
        = c.handle clock { m with payload := (Client.reportEnergy entries').payload } e)
    ∧ ∀ m' : Message, m'.service = .energy → m'.type = EnergyRequest.report.toByte →
      ∀ (clock₁ clock₂ clock₃ clock₄ : Clock) (e₁ e₂ e₃ e₄ : Endpoint W),
        ((c.handle clock₁ m e₁).2.1.handle clock₂ m' e₂).2.1
          = ((c.handle clock₃ m' e₃).2.1.handle clock₄ m e₄).2.1 := by
  refine ⟨ReportEntry.holds_encodeReport, ReportEntry.exists_holds m.payload, ?_, ?_, ?_⟩
  · intro pause c' e' haccepted
    obtain ⟨hpause, s, reporter, hknown, haddressed, rfl⟩ :=
      accepted_report hservice htype haccepted
    refine ⟨hpause, s, reporter, hknown, fun entries hholds x => ?_⟩
    rw [ReportEntry.decodeReport_of_holds hholds] at haddressed ⊢
    rw [get_applyReport, moved_eq haddressed]
  · intro entries entries' hperm hlength
    have hread : ReportEntry.decodeReport (Client.reportEnergy entries).payload = entries :=
      (ReportEntry.decodeReport_encodeReport entries).trans (List.take_of_length_le hlength)
    have hread' : ReportEntry.decodeReport (Client.reportEnergy entries').payload = entries' :=
      (ReportEntry.decodeReport_encodeReport entries').trans
        (List.take_of_length_le (hperm.length_eq ▸ hlength))
    have hhandle := fun entries =>
      handle_report (m := { m with payload := (Client.reportEnergy entries).payload }) hservice
        htype c clock e
    rw [hhandle, hhandle]
    simp only [hread, hread', applyReport_perm hperm, hperm.all_eq]
    rfl
  · intro m' hservice' htype' _ _ _ _ _ _ _ _
    rw [coordinator_handle_report hservice htype, coordinator_handle_report hservice' htype',
      coordinator_handle_report hservice' htype', coordinator_handle_report hservice htype,
      reported_comm]

/-- The last module is paid by the controller. -/
theorem accepted_report_is_paid :
    ∃ c e, Moment.declared.coordinator.handle ⟨0, 2⟩ costReport Moment.declared.endpoint
        = (.ok none, c, e)
      ∧ c.accounts.get (.module Slot.last)
        = (Moment.declared.coordinator.accounts.get (.module Slot.last)).shift 1000
      ∧ c.accounts.get .controller
        = (Moment.declared.coordinator.accounts.get .controller).shift (-1000) := by
  rcases hhandle : Moment.declared.coordinator.handle ⟨0, 2⟩ costReport Moment.declared.endpoint
    with ⟨result, c, e⟩
  have hresult : (Moment.declared.coordinator.handle ⟨0, 2⟩ costReport Moment.declared.endpoint).1
      = .ok none := by
    decide +kernel
  obtain rfl : result = .ok none := (congrArg Prod.fst hhandle).symm.trans hresult
  obtain ⟨hsent, -, heffect, -⟩ := accepted_reports_add_up Moment.declared.coordinator ⟨0, 2⟩
    costReport Moment.declared.endpoint rfl rfl
  obtain ⟨-, s, reporter, hknown, hshift⟩ := heffect none c e hhandle
  have hsource : Moment.declared.coordinator.entityOf costReport.source
      = .ok (Slot.last, .module Slot.last) := by
    decide +kernel
  cases hsource.symm.trans hknown
  have hentries : Holds costReport.payload [⟨0x20, 1000⟩] := hsent [⟨0x20, 1000⟩]
  refine ⟨c, e, rfl, ?_, ?_⟩
  · rw [hshift _ hentries]
    exact congrArg _ (by decide +kernel)
  · rw [hshift _ hentries]
    exact congrArg _ (by decide +kernel)

end Coordinator
end ModuleBus

import Mathlib.Algebra.Order.BigOperators.Group.List
import ModuleBus.Proofs.Accounts.Charges
import ModuleBus.Proofs.Controller.Power

set_option autoImplicit false

/-! # Refused reports

A report from an unknown module, or with an address that is none, is refused as a whole. A report
that is accepted is applied first and answered then; if the answer cannot be written, the report
fails as well, and its sender is told so, although the energy has been moved. -/

namespace ModuleBus.Coordinator

/-- All entries of a report name an address. -/
def AreAddressed (entries : List ReportEntry) : Prop :=
  ∀ entry ∈ entries, entry.application.toNat < 256

/-- An entry of a report charges somebody else than the reporter. -/
def Charges (c : Coordinator) (reporter : Entity) (entries : List ReportEntry) : Prop :=
  ∃ entry ∈ entries, ∃ consumer, c.consumer? entry = some consumer ∧ consumer ≠ reporter
    ∧ 0 < entry.energy.toNat ∧ entry.energy.toNat ≤ c.accounts.settings.reportCeiling

variable {c : Coordinator} {reporter : Entity} {entries : List ReportEntry}

/-- No entry takes anything from the reporter. -/
theorem moves_reporter_nonneg (c : Coordinator) (reporter : Entity) (entry : ReportEntry) :
    0 ≤ c.moves reporter entry reporter := by
  have haccepted := c.accounts.accepted_nonneg entry.energy.toNat
  unfold moves Accounts.movedInto
  split
  · rw [if_pos rfl]
    split <;> omega
  · exact Int.le_refl 0

/-- Entries that charge nobody else than the reporter move nothing, and all others do. -/
theorem moved_eq_zero_iff :
    (∀ x, c.moved reporter entries x = 0) ↔ ¬c.Charges reporter entries := by
  constructor
  · rintro hzero ⟨entry, hentry, consumer, hconsumer, hother, hpos, hceiling⟩
    -- The reporter gains by this entry, and loses by none.
    have hgain : c.moves reporter entry reporter = 0 := by
      have hsum := hzero reporter
      rw [moved, Accounts.total_eq_sum] at hsum
      refine List.all_zero_of_le_zero_le_of_sum_eq_zero ?_ hsum (List.mem_map_of_mem hentry)
      simp only [List.mem_map]
      rintro _ ⟨other, _, rfl⟩
      exact moves_reporter_nonneg c reporter other
    rw [moves, hconsumer] at hgain
    simp only [Accounts.movedInto, if_neg hother, if_true, Int.sub_zero,
      Accounts.accepted_eq_zero_iff] at hgain
    omega
  · intro hnone x
    rw [moved, Accounts.total_eq_sum]
    refine List.sum_eq_zero fun amount hamount => ?_
    obtain ⟨entry, hentry, rfl⟩ := List.mem_map.mp hamount
    unfold moves Accounts.movedInto
    split
    · next consumer hconsumer =>
      by_cases hother : consumer = reporter
      · rw [hother, Int.sub_self]
      · have hnothing : c.accounts.accepted entry.energy.toNat = 0 := by
          rw [Accounts.accepted_eq_zero_iff]
          by_contra hmoves
          exact hnone ⟨entry, hentry, consumer, hconsumer, hother, by omega, by omega⟩
        rw [hnothing, ite_self, ite_self, Int.sub_self]
    · rfl

variable {W : Type} [Board W] [Link W] {c' : Coordinator} {clock : Clock} {m : Message}
  {e e' : Endpoint W} {code : ErrorCode}

/-- Handling a report. -/
theorem handle_report (hservice : m.service = .energy) (htype : m.type = EnergyRequest.report.toByte)
    (c : Coordinator) (clock : Clock) (e : Endpoint W) : c.handle clock m e =
      match c.entityOf m.source with
      | .error code => (.error code, c, e)
      | .ok (_, reporter) =>
        if (ReportEntry.decodeReport m.payload).all fun entry => entry.application.toNat < 256 then
          (c.applyReport reporter (ReportEntry.decodeReport m.payload)).reply m
            (Bytes.ofIntLE 4 energyStatus) e
        else (.error .invalid, c, e) := by
  have hkind : EnergyRequest.ofByte? m.type = some .report := by
    rw [htype]
    rfl
  rw [handle, hservice]
  cases hknown : c.entityOf m.source <;> simp only [handleEnergy, hknown, hkind]

/-- How a report can be refused: before anything is done, or because it cannot be answered. -/
theorem refused_report (hservice : m.service = .energy)
    (htype : m.type = EnergyRequest.report.toByte)
    (hrefused : c.handle clock m e = (.error code, c', e')) :
    (c.entityOf m.source = .error code ∧ c' = c ∧ e' = e)
    ∨ ∃ s reporter, c.entityOf m.source = .ok (s, reporter)
      ∧ ((¬AreAddressed (ReportEntry.decodeReport m.payload) ∧ code = .invalid ∧ c' = c ∧ e' = e)
        ∨ (AreAddressed (ReportEntry.decodeReport m.payload)
          ∧ (∃ error, e.reply m (Bytes.ofIntLE 4 energyStatus) = (.error error, e')
            ∧ code = error.status)
          ∧ c' = c.applyReport reporter (ReportEntry.decodeReport m.payload))) := by
  rw [handle_report hservice htype] at hrefused
  split at hrefused
  · next hunknown =>
    cases hrefused
    exact .inl ⟨hunknown, rfl, rfl⟩
  · next s reporter hknown =>
    refine .inr ⟨s, reporter, hknown, ?_⟩
    split at hrefused
    · next haddressed =>
      have haddressed : AreAddressed (ReportEntry.decodeReport m.payload) := by
        simpa [AreAddressed] using haddressed
      refine .inr ⟨haddressed, ?_⟩
      rw [reply] at hrefused
      rcases hreply : e.reply m (Bytes.ofIntLE 4 energyStatus) with ⟨error | written, e''⟩
      · rw [hreply] at hrefused
        cases hrefused
        exact ⟨⟨error, rfl, rfl⟩, rfl⟩
      · rw [hreply] at hrefused
        cases hrefused
    · next haddressed =>
      cases hrefused
      refine .inl ⟨fun h => haddressed ?_, rfl, rfl, rfl⟩
      simpa [AreAddressed] using h

/-- **What a refused report changes.** Handling a report fails with a code. Then it has changed
nothing, neither the controller nor the endpoint, or it was accepted and its answer failed with that
code: all of it is applied then, and each account is shifted by what the entries move into it. So
all accounts are as they were if and only if the report is not accepted, or charges nobody else than
its sender with an energy that may be moved. -/
theorem refused_report_changes_nothing_iff (hservice : m.service = .energy)
    (htype : m.type = EnergyRequest.report.toByte)
    (hrefused : c.handle clock m e = (.error code, c', e')) :
    ((c' = c ∧ e' = e) ∨ ∃ s reporter error, c.entityOf m.source = .ok (s, reporter)
      ∧ AreAddressed (ReportEntry.decodeReport m.payload)
      ∧ e.reply m (Bytes.ofIntLE 4 energyStatus) = (.error error, e') ∧ code = error.status
      ∧ c' = c.applyReport reporter (ReportEntry.decodeReport m.payload)
      ∧ ∀ x, c'.accounts.get x = (c.accounts.get x).shift
          (c.moved reporter (ReportEntry.decodeReport m.payload) x))
    ∧ ((∀ x, c'.accounts.get x = c.accounts.get x) ↔
      ¬∃ s reporter, c.entityOf m.source = .ok (s, reporter)
        ∧ AreAddressed (ReportEntry.decodeReport m.payload)
        ∧ c.Charges reporter (ReportEntry.decodeReport m.payload)) := by
  rcases refused_report hservice htype hrefused with ⟨hunknown, rfl, rfl⟩
    | ⟨s, reporter, hknown, ⟨hforeign, rfl, rfl, rfl⟩ | ⟨haddressed, ⟨error, hreply, rfl⟩, rfl⟩⟩
  · refine ⟨.inl ⟨rfl, rfl⟩, iff_of_true (fun _ => rfl) ?_⟩
    rintro ⟨s, reporter, hknown, _⟩
    cases hunknown.symm.trans hknown
  · exact ⟨.inl ⟨rfl, rfl⟩, iff_of_true (fun _ => rfl)
      fun ⟨_, _, _, haddressed, _⟩ => hforeign haddressed⟩
  · refine ⟨.inr ⟨s, reporter, error, hknown, haddressed, hreply, rfl, rfl,
      get_applyReport c reporter _⟩, ?_⟩
    simp only [get_applyReport, Account.shift_eq_self_iff, moved_eq_zero_iff, not_iff_not]
    refine ⟨fun hcharges => ⟨s, reporter, hknown, haddressed, hcharges⟩, ?_⟩
    rintro ⟨s', reporter', hknown', -, hcharges⟩
    cases hknown.symm.trans hknown'
    exact hcharges

/-- A report of the module in the last slot: it spent a thousand microwatt-hours for the
controller. -/
def costReport : Message :=
  ⟨Slot.last.assignedAddress, .controller, .command, .energy, EnergyRequest.report.toByte,
    ReportEntry.encodeReport [⟨0x20, 1000⟩]⟩

/-- The controller after that module has declared itself, on a link that refuses the next packet. -/
def refusedDesk : Moment DeskWorld :=
  { Moment.declared with
    endpoint := ⟨Moment.declared.endpoint.node,
      { Moment.declared.endpoint.world with
        net := Moment.declared.endpoint.world.net.failWrites 0 [.noAck] }⟩ }

/-- The module is told that its report has failed, and has its energy all the same. -/
theorem refused_report_is_paid :
    ∃ c e, refusedDesk.coordinator.handle ⟨0, 2⟩ costReport refusedDesk.endpoint
        = (.error .noAck, c, e)
      ∧ ¬∀ x, c.accounts.get x = refusedDesk.coordinator.accounts.get x := by
  rcases hhandle : refusedDesk.coordinator.handle ⟨0, 2⟩ costReport refusedDesk.endpoint
    with ⟨result, c, e⟩
  have hcode : (refusedDesk.coordinator.handle ⟨0, 2⟩ costReport refusedDesk.endpoint).1
      = .error .noAck := by
    decide +kernel
  obtain rfl : result = .error .noAck := (congrArg Prod.fst hhandle).symm.trans hcode
  have hentries : ReportEntry.decodeReport costReport.payload = [⟨0x20, 1000⟩] := by decide +kernel
  refine ⟨c, e, rfl, fun hsame => ?_⟩
  refine (refused_report_changes_nothing_iff rfl rfl hhandle).2.mp hsame
    ⟨Slot.last, .module Slot.last, by decide +kernel, ?_, ⟨0x20, 1000⟩, ?_, .controller,
      by decide +kernel, by decide, by decide, by decide +kernel⟩
  · simp [hentries, AreAddressed]
  · simp [hentries]

end ModuleBus.Coordinator

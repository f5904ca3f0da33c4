import Mathlib.Data.List.Nodup
import ModuleBus.Proofs.Dispatch.Answers

set_option autoImplicit false

/-! # Dockets

A docket numbers the inquiries of a participant in the order in which they arrive, and notes what
was written about each. The numbers that are still to be dealt with (queued, or in debt) are all
different, and no answer to them is whole yet. A number that is dealt with never comes back, so
that there is at most one whole answer to each. -/

namespace ModuleBus

/-- What a step was about: an inquiry by its number, a request of the participant's own, or
nothing. -/
inductive Subject where
  | request (number : Nat)
  | own
  | nothing
deriving DecidableEq

/-- The subject of a step that is about a number or none. -/
def Subject.of : Option Nat → Subject
  | some n => request n
  | none => nothing

/-- What has arrived at an office, and what was written about it. -/
structure Docket where
  /-- The inquiries, in the order of their arrival. -/
  asked : List Inquiry
  /-- The numbers of the requests in the queue. -/
  queued : List Nat
  /-- The number that the listener still has to write to. -/
  refusing : Option Nat
  /-- The number that the attendant still has to write to. -/
  serving : Option Nat
  /-- The packets that the link took, step by step. -/
  journal : List (Subject × List (Address × Bytes))

namespace Docket

/-- A docket at the start. -/
def empty : Docket := ⟨[], [], none, none, []⟩

/-- The numbers that are still to be dealt with. -/
def pending (d : Docket) : List Nat := d.serving.toList ++ d.queued ++ d.refusing.toList

/-- What was written about a number. -/
def about (d : Docket) (n : Nat) : List (Address × Bytes) :=
  d.journal.flatMap fun entry => if entry.1 = .request n then entry.2 else []

/-- The docket with what a step has written. -/
def note (d : Docket) (subject : Subject) (packets : List (Address × Bytes)) : Docket :=
  { d with journal := d.journal ++ [(subject, packets)] }

/-- The docket after a step of the listener. -/
def hear (d : Docket) (arrival : Option Inquiry) (isQueued isOwed : Bool)
    (packets : List (Address × Bytes)) : Docket :=
  match arrival with
  | some q =>
    let n := d.asked.length
    ({ d with
      asked := d.asked ++ [q]
      queued := if isQueued then d.queued ++ [n] else d.queued
      refusing := if isOwed then some n else none }).note (.request n) packets
  | none =>
    ({ d with refusing := if isOwed then d.refusing else none }).note (.of d.refusing) packets

/-- The docket after a step of the attendant. -/
def attend (d : Docket) (isTaken isOwed : Bool) (packets : List (Address × Bytes)) : Docket :=
  let subject := if isTaken then d.queued.head? else d.serving
  ({ d with
    queued := if isTaken then d.queued.tail else d.queued
    serving := if isOwed then subject else none }).note (.of subject) packets

/-- A number is owed something exactly if there is a debt, which is then to its inquiry. -/
def Owes (d : Docket) (subject : Option Nat) : Option Debt → Prop
  | none => subject = none
  | some debt => ∃ n q, subject = some n ∧ d.asked[n]? = some q ∧ debt.IsTo q

/-- Every inquiry is answered at most once, and not yet if it is still to be dealt with. -/
structure IsFair (suite : Suite) (d : Docket) : Prop where
  answering {n : Nat} {q : Inquiry} : d.asked[n]? = some q →
    ∃ whole, Answering suite q (d.about n) whole ∧ (n ∈ d.pending → whole = false)
  nodup : d.pending.Nodup
  asked_of_pending {n : Nat} : n ∈ d.pending → n < d.asked.length
  journal {entry : Subject × List (Address × Bytes)} : entry ∈ d.journal →
    (∃ n < d.asked.length, entry.1 = .request n) ∨ entry.1 = .own ∨ entry.2 = []

variable {suite : Suite} {d d' : Docket}

theorem asked_append {d : Docket} {n : Nat} {q r : Inquiry} (h : d.asked[n]? = some q) :
    (d.asked ++ [r])[n]? = some q :=
  (List.getElem?_append_left (List.getElem?_eq_some_iff.mp h).1).trans h

/-- What is owed stays owed while more inquiries arrive. -/
theorem Owes.append {subject : Option Nat} {debt : Option Debt} (h : d.Owes subject debt)
    {r : Inquiry} (hasked : d'.asked = d.asked ++ [r]) : d'.Owes subject debt := by
  cases debt with
  | none => exact h
  | some debt =>
    obtain ⟨n, q, hn, hq, hto⟩ := h
    exact ⟨n, q, hn, hasked ▸ asked_append hq, hto⟩

/-- A number stays owed if what was written about it leaves a debt. -/
theorem Owes.of_debt {n : Nat} {q : Inquiry} (hq : d.asked[n]? = some q) {debt : Option Debt}
    {whole : Bool} (hdebt : ∀ r ∈ debt, r.IsTo q ∧ whole = false) :
    d.Owes (if debt.isSome then some n else none) debt := by
  cases debt with
  | none => rfl
  | some r => exact ⟨n, q, rfl, hq, (hdebt r rfl).1⟩

theorem about_note (d : Docket) (subject : Subject) (packets : List (Address × Bytes)) (n : Nat) :
    (d.note subject packets).about n
      = d.about n ++ if subject = .request n then packets else [] := by
  simp [about, note]

/-- A new inquiry gets a number of its own, about which nothing was written. -/
theorem IsFair.ask (h : d.IsFair suite) (q : Inquiry) :
    ({ d with
      asked := d.asked ++ [q]
      queued := d.queued ++ [d.asked.length]
      refusing := none }).IsFair suite := by
  have hpending {n : Nat} (hn : n ∈ d.serving.toList ++ (d.queued ++ [d.asked.length]) ++ []) :
      n ∈ d.pending ∨ n = d.asked.length := by
    simp only [pending, List.mem_append, List.mem_singleton, List.not_mem_nil, or_false] at hn ⊢
    tauto
  constructor
  case answering =>
    intro n q' hn
    by_cases hlast : n = d.asked.length
    · subst hlast
      rw [List.getElem?_concat_length] at hn
      cases hn
      refine ⟨false, ?_, fun _ => rfl⟩
      -- The journal is about smaller numbers only.
      have hnothing : d.about d.asked.length = [] := by
        refine List.flatMap_eq_nil_iff.mpr fun entry hentry => ?_
        rcases h.journal hentry with ⟨k, hk, hsubject⟩ | hsubject | hempty
        · rw [hsubject, if_neg]
          rintro ⟨⟩
          exact Nat.lt_irrefl _ hk
        · rw [hsubject, if_neg nofun]
        · rw [hempty, ite_self]
      exact hnothing ▸ .nothing
    · have hlt : n < d.asked.length := by
        have hbound := (List.getElem?_eq_some_iff.mp hn).1
        rw [List.length_append, List.length_singleton] at hbound
        omega
      rw [List.getElem?_append_left hlt] at hn
      obtain ⟨whole, hanswering, hopen⟩ := h.answering hn
      exact ⟨whole, hanswering, fun hn => hopen ((hpending hn).resolve_right hlast)⟩
  case nodup =>
    have hfresh : d.asked.length ∉ d.serving.toList ++ d.queued := fun hn =>
      Nat.lt_irrefl _ (h.asked_of_pending (List.mem_append_left _ hn))
    have hold : (d.serving.toList ++ d.queued).Nodup :=
      h.nodup.sublist (List.sublist_append_left _ _)
    simp only [pending, Option.toList_none, List.append_nil, ← List.append_assoc]
    exact hold.append (List.nodup_singleton _) (List.disjoint_singleton.mpr hfresh)
  case asked_of_pending =>
    intro n hn
    rw [List.length_append, List.length_singleton]
    rcases hpending hn with hn | rfl
    · exact Nat.lt_succ_of_lt (h.asked_of_pending hn)
    · exact Nat.lt_succ_self _
  case journal =>
    intro entry hentry
    refine (h.journal hentry).imp_left fun ⟨n, hn, hsubject⟩ => ⟨n, ?_, hsubject⟩
    rw [List.length_append]
    exact Nat.lt_add_right _ hn

/-- What is written about a number that is still to be dealt with. -/
theorem IsFair.write (h : d.IsFair suite) {n : Nat} {q : Inquiry} (hq : d.asked[n]? = some q)
    (hn : n ∈ d.pending) {packets : List (Address × Bytes)} {whole : Bool}
    (hpackets : Answering suite q packets whole) (hasked : d'.asked = d.asked)
    (hjournal : d'.journal = d.journal ++ [(.request n, packets)])
    (hpending : d'.pending.Sublist d.pending) (hopen : n ∈ d'.pending → whole = false) :
    d'.IsFair suite := by
  have habout (k : Nat) : d'.about k = d.about k ++ if n = k then packets else [] := by
    simp [about, hjournal]
  constructor
  case answering =>
    intro k q' hk
    rw [hasked] at hk
    obtain ⟨before, hanswering, hbefore⟩ := h.answering hk
    rw [habout]
    by_cases hnk : n = k
    · subst hnk
      obtain rfl : q = q' := Option.some.inj (hq.symm.trans hk)
      -- The number was still to be dealt with, so nothing about it was whole.
      rw [hbefore hn] at hanswering
      rw [if_pos rfl]
      exact ⟨whole, hanswering.append hpackets, hopen⟩
    · rw [if_neg hnk, List.append_nil]
      exact ⟨before, hanswering, fun hk => hbefore (hpending.subset hk)⟩
  case nodup => exact h.nodup.sublist hpending
  case asked_of_pending =>
    intro k hk
    rw [hasked]
    exact h.asked_of_pending (hpending.subset hk)
  case journal =>
    intro entry hentry
    rw [hjournal] at hentry
    rw [hasked]
    rcases List.mem_append.mp hentry with hentry | hentry
    · exact h.journal hentry
    · exact .inl ⟨n, (List.getElem?_eq_some_iff.mp hq).1, by rw [List.mem_singleton.mp hentry]⟩

/-- A number is dealt with, unless what was written about it leaves a debt. -/
theorem IsFair.settle (h : d.IsFair suite) {n : Nat} {q : Inquiry} (hq : d.asked[n]? = some q)
    (hn : n ∈ d.pending) {packets : List (Address × Bytes)} {whole : Bool}
    (hpackets : Answering suite q packets whole) {debt : Option Debt}
    (hdebt : ∀ r ∈ debt, r.IsTo q ∧ whole = false) (hasked : d'.asked = d.asked)
    (hjournal : d'.journal = d.journal ++ [(.request n, packets)])
    (hpending : d'.pending.Sublist d.pending) (hclosed : debt = none → n ∉ d'.pending) :
    d'.IsFair suite := by
  refine h.write hq hn hpackets hasked hjournal hpending fun hn' => ?_
  cases debt with
  | none => exact absurd hn' (hclosed rfl)
  | some r => exact (hdebt r rfl).2

/-- What is written about nothing that has arrived. -/
theorem IsFair.note (h : d.IsFair suite) {subject : Subject} {packets : List (Address × Bytes)}
    (hsubject : subject = .own ∨ subject = .nothing ∧ packets = []) :
    (d.note subject packets).IsFair suite := by
  have habout (n : Nat) : (d.note subject packets).about n = d.about n := by
    rw [about_note, if_neg, List.append_nil]
    rintro rfl
    rcases hsubject with hsubject | ⟨hsubject, _⟩ <;> cases hsubject
  refine ⟨fun hn => ?_, h.nodup, h.asked_of_pending, fun {entry} hentry => ?_⟩
  · rw [habout]
    exact h.answering hn
  · rcases List.mem_append.mp hentry with hentry | hentry
    · exact h.journal hentry
    · rw [List.mem_singleton.mp hentry]
      exact hsubject.elim (fun hown => .inr (.inl hown)) fun hnothing => .inr (.inr hnothing.2)

/-- The docket of an office, whose queue is `inbound`, while its listener and its attendant have a
debt each, or none. -/
structure IsKept (suite : Suite) (inbound : List Message) (refusal debt : Option Debt)
    (d : Docket) : Prop where
  fair : d.IsFair suite
  queued : List.Forall₂ (fun n (m : Message) => d.asked[n]? = some m.inquiry) d.queued inbound
  refusing : d.Owes d.refusing refusal
  serving : d.Owes d.serving debt

namespace IsKept

variable {inbound rest : List Message} {refusal refusal' debt debt' : Option Debt} {q : Inquiry}
  {m : Message} {new : List (Address × Bytes)} {whole : Bool}

theorem empty (suite : Suite) : Docket.empty.IsKept suite [] none none where
  fair := by
    refine ⟨fun hn => ?_, List.nodup_nil, fun hn => ?_, fun hentry => ?_⟩
    · cases hn
    · cases hn
    · cases hentry
  queued := .nil
  refusing := rfl
  serving := rfl

/-- A request that arrives is queued. -/
theorem hear_queued (h : d.IsKept suite inbound refusal debt) (m : Message) :
    (d.hear (some m.inquiry) true false []).IsKept suite (inbound ++ [m]) none debt := by
  have hlast : (d.asked ++ [m.inquiry])[d.asked.length]? = some m.inquiry :=
    List.getElem?_concat_length
  have hfresh : d.asked.length ∈ d.serving.toList ++ (d.queued ++ [d.asked.length]) ++ [] := by
    simp
  constructor
  case fair =>
    exact (h.fair.ask m.inquiry).write hlast hfresh .nothing rfl rfl (List.Sublist.refl _)
      fun _ => rfl
  case queued =>
    refine List.rel_append (R := fun n (m' : Message) => _ = some m'.inquiry) ?_ ?_
    · exact h.queued.imp fun n m' hn => asked_append hn
    · exact .cons hlast .nil
  case refusing => rfl
  case serving => exact h.serving.append rfl

/-- An inquiry that arrives is refused, or dropped. -/
theorem hear_answered (h : d.IsKept suite inbound refusal debt)
    (hnew : Answering suite q new whole) (hdebt : ∀ r ∈ refusal', r.IsTo q ∧ whole = false) :
    (d.hear (some q) false refusal'.isSome new).IsKept suite inbound refusal' debt := by
  have hlast : (d.asked ++ [q])[d.asked.length]? = some q := List.getElem?_concat_length
  have hfresh : d.asked.length ∈ d.serving.toList ++ (d.queued ++ [d.asked.length]) ++ [] := by
    simp
  constructor
  case fair =>
    refine (h.fair.ask q).settle hlast hfresh hnew hdebt rfl rfl ?_ ?_
    · cases refusal' <;> simp [pending, hear, Docket.note]
    · rintro rfl hn
      have hold : d.asked.length ∈ d.pending :=
        List.mem_append_left _ (by simpa [pending, hear, Docket.note] using hn)
      exact Nat.lt_irrefl _ (h.fair.asked_of_pending hold)
  case queued => exact h.queued.imp fun n m hn => asked_append hn
  case refusing => exact .of_debt hlast hdebt
  case serving => exact h.serving.append rfl

/-- A refusal is tried again. -/
theorem hear_paid (h : d.IsKept suite inbound refusal debt) {n : Nat} (hn : d.refusing = some n)
    (hq : d.asked[n]? = some q) (hnew : Answering suite q new whole)
    (hdebt : ∀ r ∈ refusal', r.IsTo q ∧ whole = false) :
    (d.hear none false refusal'.isSome new).IsKept suite inbound refusal' debt := by
  obtain ⟨asked, queued, refusing, serving, journal⟩ := d
  obtain rfl : refusing = some n := hn
  have hpending : n ∈ pending ⟨asked, queued, some n, serving, journal⟩ := by simp [pending]
  refine ⟨h.fair.settle hq hpending hnew hdebt rfl rfl ?_ ?_, h.queued, .of_debt hq hdebt,
    h.serving⟩
  · cases refusal' <;> simp [pending, hear, Docket.note]
  · -- A number that was refused is neither queued nor served.
    rintro rfl hn
    have hother : n ∈ serving.toList ++ queued := by
      simpa [pending, hear, Docket.note] using hn
    exact List.disjoint_of_nodup_append h.fair.nodup hother (List.mem_singleton_self n)

/-- Nothing is heard. -/
theorem hear_idle (h : d.IsKept suite inbound none debt) :
    (d.hear none false false []).IsKept suite inbound none debt := by
  obtain ⟨asked, queued, refusing, serving, journal⟩ := d
  obtain rfl : refusing = none := h.refusing
  exact ⟨h.fair.note (.inr ⟨rfl, rfl⟩), h.queued, rfl, h.serving⟩

/-- The first request in the queue is taken up. -/
theorem attend_taken (h : d.IsKept suite (m :: rest) refusal debt)
    (hnew : Answering suite m.inquiry new whole)
    (hdebt : ∀ r ∈ debt', r.IsTo m.inquiry ∧ whole = false) :
    (d.attend true debt'.isSome new).IsKept suite rest refusal debt' := by
  obtain ⟨asked, queued, refusing, serving, journal⟩ := d
  have hqueued := h.queued
  dsimp only at hqueued
  cases hqueued with
  | @cons n _ queued _ hn hrest =>
    have hpending : n ∈ pending ⟨asked, n :: queued, refusing, serving, journal⟩ := by
      simp [pending]
    have hnodup := h.fair.nodup
    simp only [pending, List.append_assoc] at hnodup
    refine ⟨h.fair.settle hn hpending hnew hdebt rfl rfl ?_ ?_, hrest, h.refusing,
      .of_debt hn hdebt⟩
    · -- What is taken up moves from the queue into service, in place of what was there before.
      simp only [pending, attend, Docket.note, List.append_assoc]
      refine List.Sublist.trans ?_ (List.sublist_append_right serving.toList _)
      cases debt' with
      | none => exact List.sublist_cons_self n _
      | some r => exact List.Sublist.refl _
    · rintro rfl hn'
      exact (List.nodup_cons.mp (List.nodup_append.mp hnodup).2.1).1 hn'

/-- What is owed to a request is written, or tried. -/
theorem attend_paid (h : d.IsKept suite inbound refusal debt) {n : Nat} (hn : d.serving = some n)
    (hq : d.asked[n]? = some q) (hnew : Answering suite q new whole)
    (hdebt : ∀ r ∈ debt', r.IsTo q ∧ whole = false) :
    (d.attend false debt'.isSome new).IsKept suite inbound refusal debt' := by
  obtain ⟨asked, queued, refusing, serving, journal⟩ := d
  obtain rfl : serving = some n := hn
  have hpending : n ∈ pending ⟨asked, queued, refusing, some n, journal⟩ := by simp [pending]
  have hnodup := h.fair.nodup
  simp only [pending, List.append_assoc] at hnodup
  refine ⟨h.fair.settle hq hpending hnew hdebt rfl rfl ?_ ?_, h.queued, h.refusing,
    .of_debt hq hdebt⟩
  · cases debt' with
    | none => exact List.sublist_cons_self n _
    | some r => exact List.Sublist.refl _
  · rintro rfl hn'
    exact (List.nodup_cons.mp hnodup).1 hn'

/-- Nothing is attended to. -/
theorem attend_idle (h : d.IsKept suite inbound refusal none) :
    (d.attend false false []).IsKept suite inbound refusal none := by
  obtain ⟨asked, queued, refusing, serving, journal⟩ := d
  obtain rfl : serving = none := h.serving
  exact ⟨h.fair.note (.inr ⟨rfl, rfl⟩), h.queued, h.refusing, rfl⟩

/-- A request of the participant's own is sent. -/
theorem note_own (h : d.IsKept suite inbound refusal debt) :
    (d.note .own new).IsKept suite inbound refusal debt :=
  ⟨h.fair.note (.inl rfl), h.queued, h.refusing, h.serving⟩

end IsKept

end Docket

end ModuleBus

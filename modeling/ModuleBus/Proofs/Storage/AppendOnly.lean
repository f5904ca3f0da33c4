import ModuleBus.Client
import ModuleBus.Proofs.Storage.Refinement

set_option autoImplicit false

/-! # What was written is read back

Requests come one after another, to a store or to the archive that it stands for: both give the
same answers and stay what they should be to each other. A write is answered with the record of
its bytes. The client turns the record into a request to read, and as long as the log is not
deleted, whatever else is asked in between, the answer is the bytes that were written. -/

namespace ModuleBus

/-- The answers to some requests, and what they leave behind. -/
def respondAll {S : Type} (respond : S → UInt8 → Bytes → Except ErrorCode Bytes × S) :
    List (UInt8 × Bytes) → S → List (Except ErrorCode Bytes) × S
  | [], s => ([], s)
  | (type, payload) :: rest, s =>
    let (answer, s) := respond s type payload
    let (answers, s) := respondAll respond rest s
    (answer :: answers, s)

variable {requests : List (UInt8 × Bytes)} {name : String}

/-- The request by which the client reads a span. -/
theorem Client.read_eq {r : StorageRecord} (h : checkLogName r.logName = .ok ()) :
    Client.read r = .ok (Client.toStorage .read (Utf8.ofText r.logName
      ++ 0 :: (Bytes.ofNatLE 4 r.offset.toNat ++ Bytes.ofNatLE 4 r.length.toNat)) .ok) := by
  rw [Client.read, namedPayload_eq h]
  rfl

/-- Only a request to delete a log takes away what it starts with. -/
theorem Archive.holds_respondAll {a : Archive} {bytes : Bytes} (h : a.Holds name bytes)
    (hdelete : ∀ request ∈ requests,
      StorageCommand.parse request.1 request.2 ≠ .ok (.delete name)) :
    (respondAll respond requests a).2.Holds name bytes := by
  induction requests generalizing a with
  | nil => exact h
  | cons request rest ih =>
    have hfirst : (a.respond request.1 request.2).2.Holds name bytes := by
      rw [respond]
      split
      · exact h
      · next command hparse =>
        refine h.run fun hcommand => hdelete request List.mem_cons_self ?_
        rw [hparse, hcommand]
    exact ih hfirst fun request hrequest => hdelete request (List.mem_cons_of_mem _ hrequest)

namespace LogStore

variable {s : LogStore}

/-- A store in order stays in order, and answers as its archive does. -/
theorem isSorted_respondAll (h : s.IsSorted) (requests : List (UInt8 × Bytes)) :
    (respondAll respond requests s).2.IsSorted
      ∧ respondAll Archive.respond requests s.view
        = ((respondAll respond requests s).1, (respondAll respond requests s).2.view) := by
  induction requests generalizing s with
  | nil => exact ⟨h, rfl⟩
  | cons request rest ih =>
    obtain ⟨hsorted, hrespond⟩ := h.respond request.1 request.2
    obtain ⟨hall, hrest⟩ := ih hsorted
    refine ⟨hall, ?_⟩
    rw [respondAll, hrespond]
    dsimp only
    rw [hrest]
    rfl

theorem isWithin_respondAll (h : s.IsWithin) : (respondAll respond requests s).2.IsWithin := by
  induction requests generalizing s with
  | nil => exact h
  | cons request rest ih => exact ih (h.respond request.1 request.2)

theorem capacity_respondAll (s : LogStore) :
    (respondAll respond requests s).2.capacity = s.capacity := by
  induction requests generalizing s with
  | nil => rfl
  | cons request rest ih => exact (ih _).trans (s.capacity_respond request.1 request.2)

theorem isSorted_empty (capacity : Option Nat) : (empty capacity).IsSorted := List.Pairwise.nil

theorem isWithin_empty (capacity : Option Nat) : (empty capacity).IsWithin := fun _ _ =>
  Nat.zero_le _

theorem view_empty (capacity : Option Nat) : (empty capacity).view = .empty capacity := rfl

/-! ## Writing and reading -/

/-- A write is answered with the record of its bytes, which stand behind what the log held. -/
theorem IsSorted.holds_of_write (h : s.IsSorted) {payload reply : Bytes}
    (hwrite : (s.respond StorageRequest.write.toByte payload).1 = .ok reply) :
    ∃ name data before, splitLogName payload = .ok (name, data) ∧ checkLogName name = .ok ()
      ∧ reply = (Archive.span name before.length data.length).toBytes
      ∧ (s.respond StorageRequest.write.toByte payload).2.view.Holds name (before ++ data) := by
  have hview := (h.respond StorageRequest.write.toByte payload).2
  cases hparse : StorageCommand.parse StorageRequest.write.toByte payload with
  | error _ =>
    rw [respond_eq, hparse] at hwrite
    cases hwrite
  | ok command =>
    obtain ⟨name, data, hpayload, hcheck, rfl⟩ := StorageCommand.exists_of_parse_write hparse
    rw [Archive.respond, hparse] at hview
    dsimp only at hview
    obtain ⟨hreply, hholds⟩ := Archive.holds_of_write ((congrArg Prod.fst hview).trans hwrite)
    rw [hview] at hholds
    exact ⟨name, data, s.view.content name, splitLogName_eq_ok_iff.mpr ⟨hcheck, hpayload⟩, hcheck,
      hreply, hholds⟩

/-- A span is read as it stands in the log. -/
theorem IsSorted.respond_read (h : s.IsSorted) {before data : Bytes}
    (hholds : s.view.Holds name (before ++ data)) (hsmall : (before ++ data).length < 2 ^ 32)
    (hcheck : checkLogName name = .ok ()) :
    (s.respond StorageRequest.read.toByte (Utf8.ofText name
      ++ 0 :: (Bytes.ofNatLE 4 (UInt32.ofNat before.length).toNat
        ++ Bytes.ofNatLE 4 (UInt32.ofNat data.length).toNat))).1 = .ok data := by
  rw [List.length_append] at hsmall
  have hoffset : (UInt32.ofNat before.length).toNat = before.length :=
    UInt32.toNat_ofNat_of_lt' (lt_of_le_of_lt (Nat.le_add_right _ _) hsmall)
  have hlength : (UInt32.ofNat data.length).toNat = data.length :=
    UInt32.toNat_ofNat_of_lt' (lt_of_le_of_lt (Nat.le_add_left _ _) hsmall)
  have hparse := StorageCommand.parse_read hcheck (UInt32.ofNat before.length)
    (UInt32.ofNat data.length)
  have hrespond := (h.respond StorageRequest.read.toByte (Utf8.ofText name
      ++ 0 :: (Bytes.ofNatLE 4 (UInt32.ofNat before.length).toNat
        ++ Bytes.ofNatLE 4 (UInt32.ofNat data.length).toNat))).2
  rw [Archive.respond, hparse, hoffset, hlength] at hrespond
  rw [hoffset, hlength]
  exact (congrArg Prod.fst hrespond).symm.trans hholds.read

/-- **The store is an append-only map.** Whatever its budget and whatever it is asked, its answers
are those of an archive with the same budget, and it holds the logs of the archive in the order of
their names. It keeps within its budget, and a request that is refused leaves it as it is. As long
as all logs together are shorter than four gigabytes, the client reads with the record of a write
exactly the bytes that it wrote, until the log is deleted and whatever else is asked before. -/
theorem store_is_append_only (capacity : Option Nat) (requests : List (UInt8 × Bytes)) :
    respondAll respond requests (.empty capacity)
        = (respondAll Archive.respond requests (.empty capacity)).map id Archive.store
    ∧ ∀ s, (respondAll respond requests (.empty capacity)).2 = s →
      (∀ bound, capacity = some bound → s.used ≤ bound)
      ∧ (∀ type payload error, (s.respond type payload).1 = .error error →
        (s.respond type payload).2 = s)
      ∧ ∀ payload reply s', s.respond StorageRequest.write.toByte payload = (.ok reply, s') →
        s'.used < 2 ^ 32 →
        ∃ name data record read, splitLogName payload = .ok (name, data)
          ∧ Client.record reply = .ok record ∧ record.logName = name
          ∧ Client.read record = .ok read
          ∧ ∀ later, (∀ request ∈ later,
              StorageCommand.parse request.1 request.2 ≠ .ok (.delete name)) →
            ((respondAll respond later s').2.respond read.key.type read.payload).1 = .ok data := by
  obtain ⟨hsorted, hanswers⟩ := isSorted_respondAll (isSorted_empty capacity) requests
  constructor
  · have hstore := hsorted.eq_store
    rw [← view_empty, hanswers]
    exact Prod.ext rfl hstore
  · rintro s rfl
    refine ⟨fun bound hbound => ?_, fun type payload error herror => ?_,
      fun payload reply s' hwrite hsmall => ?_⟩
    · refine isWithin_respondAll (isWithin_empty capacity) bound ?_
      rw [capacity_respondAll]
      exact hbound
    · exact respond_of_error _ _ _ herror
    · obtain ⟨name, data, before, hsplit, hcheck, rfl, hholds⟩ :=
        hsorted.holds_of_write (congrArg Prod.fst hwrite)
      have hsorted' := (hsorted.respond StorageRequest.write.toByte payload).1
      rw [hwrite] at hholds hsorted'
      -- The span ends within the log, so that its offset and length fit into the record.
      have hlength := hholds.length_le_used.trans_lt (hsorted'.used_view ▸ hsmall)
      have hparse := StorageRecord.parse?_toBytes
        (r := Archive.span name before.length data.length) hcheck
      have hrecord : Client.record (Archive.span name before.length data.length).toBytes
          = .ok (Archive.span name before.length data.length) := by
        rw [Client.record, hparse]
        rfl
      refine ⟨name, data, _, _, hsplit, hrecord, rfl, Client.read_eq hcheck,
        fun later hlater => ?_⟩
      obtain ⟨hall, hview⟩ := isSorted_respondAll hsorted' later
      have hkept := Archive.holds_respondAll hholds hlater
      rw [hview] at hkept
      exact hall.respond_read hkept hlength hcheck

/-- What a log and another one held before. -/
def earlier : List (UInt8 × Bytes) :=
  [(StorageRequest.write.toByte, Utf8.ofText "a" ++ 0 :: [1, 2]),
    (StorageRequest.write.toByte, Utf8.ofText "b" ++ 0 :: [7])]

/-- Both logs are written, one write does not fit, and the other log is deleted. -/
def inBetween : List (UInt8 × Bytes) :=
  [(StorageRequest.write.toByte, Utf8.ofText "a" ++ 0 :: [6]),
    (StorageRequest.write.toByte, Utf8.ofText "b" ++ 0 :: [8, 9, 10, 11, 12, 13]),
    (StorageRequest.delete.toByte, Utf8.ofText "b")]

/-- A store of ten bytes after the first requests. -/
def storeOfTen : LogStore := (respondAll respond earlier (.empty (some 10))).2

/-- The store when three more bytes were written. -/
def storeOfThree : LogStore :=
  (storeOfTen.respond StorageRequest.write.toByte (Utf8.ofText "a" ++ 0 :: [3, 4, 5])).2

/-- The three bytes are read back. -/
theorem interleaved_write_is_read_back :
    ∃ record read, Client.record (StorageRecord.toBytes ⟨"a", 2, 3⟩) = .ok record
      ∧ Client.read record = .ok read
      ∧ ((respondAll respond inBetween storeOfThree).2.respond read.key.type read.payload).1
        = .ok [3, 4, 5] := by
  have hanswer : (storeOfTen.respond StorageRequest.write.toByte
      (Utf8.ofText "a" ++ 0 :: [3, 4, 5])).1 = .ok (StorageRecord.toBytes ⟨"a", 2, 3⟩) := by
    decide +kernel
  obtain ⟨_, hstore⟩ := store_is_append_only (some 10) earlier
  obtain ⟨_, _, hreads⟩ := hstore storeOfTen rfl
  obtain ⟨name, data, record, read, hsplit, hrecord, _, hread, hlater⟩ :=
    hreads _ _ storeOfThree (Prod.ext hanswer rfl) (by decide +kernel)
  cases hsplit.symm.trans (splitLogName_append (by decide) _)
  exact ⟨record, read, hrecord, hread, hlater inBetween (by decide +kernel)⟩

end LogStore

end ModuleBus

import ModuleBus.Proofs.Storage.Archive

set_option autoImplicit false

/-! # The log store is an archive

The store holds its logs in a list. As long as their names increase along it, which every command
keeps so, the list is a finite map: a name is found where it is held, an extended log takes the
place of the old one, and a scan lists the names in order. Answers and logs are then those of the
archive that the store stands for. -/

namespace ModuleBus

namespace LogStore

/-! ## Commands -/

/-- The answer to a command, and the store after it. -/
def run (s : LogStore) : StorageCommand → Except ErrorCode Bytes × LogStore
  | .write name data => let (r, s) := s.append name data; (r.map StorageRecord.toBytes, s)
  | .read name offset length => (s.read name offset length, s)
  | .delete name => let (r, s) := s.delete name; (r.map StorageRecord.toBytes, s)
  | .scan max => (.ok ((s.scan (min max maxScan)).flatMap StorageRecord.toBytes), s)

variable (s : LogStore) (type : UInt8) (payload : Bytes)

/-- A request is answered as the command that it makes, or refused if it makes none. -/
theorem respond_eq : s.respond type payload = match StorageCommand.parse type payload with
    | .error error => (.error error, s)
    | .ok command => s.run command := by
  unfold respond StorageCommand.parse
  cases StorageRequest.ofByte? type with
  | none => rfl
  | some request =>
    cases request with
    | write => cases splitLogName payload <;> rfl
    | read =>
      cases splitLogName payload with
      | error _ => rfl
      | ok named =>
        simp only [Except.bind, bind]
        cases named.2.natLE? 0 4 <;> cases named.2.natLE? 4 4 <;> rfl
    | delete =>
      dsimp only
      cases Utf8.text? (payload.takeWhile (· != 0)) with
      | none => rfl
      | some name =>
        dsimp only
        cases checkLogName name <;> rfl
    | scan =>
      dsimp only
      cases payload.natLE? 0 4 <;> rfl

theorem run_of_error {command : StorageCommand} {error : ErrorCode}
    (h : (s.run command).1 = .error error) : (s.run command).2 = s := by
  cases command with
  | write name data =>
    simp only [run, append] at h ⊢
    split at h
    · rfl
    · split at h
      · next hfull => rw [if_pos hfull]
      · cases h
  | read name offset length => rfl
  | delete name =>
    simp only [run, delete] at h ⊢
    split at h
    · rfl
    · cases h
  | scan max => rfl

/-- A request that is refused leaves the store as it is. -/
theorem respond_of_error {error : ErrorCode} (h : (s.respond type payload).1 = .error error) :
    (s.respond type payload).2 = s := by
  rw [respond_eq] at h ⊢
  split at h
  · rfl
  · exact s.run_of_error h

/-! ## Logs in order -/

section

variable {capacity : Option Nat} {name other : String} {content data : Bytes}
  {logs rest : List (String × Bytes)} {l : String × Bytes}

theorem find?_cons (other name : String) : (mk capacity ((other, content) :: rest)).find? name
    = if other = name then some content else (mk capacity rest).find? name := by
  unfold find?
  rw [List.find?_cons]
  by_cases hname : other = name
  · simp [hname]
  · have hne : (other == name) = false := by simpa using hname
    simp [hname, hne]

theorem find?_nil : (mk capacity []).find? name = none := rfl

theorem find?_eq_none_iff :
    (mk capacity logs).find? name = none ↔ ∀ l ∈ logs, l.1 ≠ name := by
  rw [find?, Option.map_eq_none_iff, List.find?_eq_none]
  simp

theorem mem_extend (h : l ∈ extend name data logs) : l.1 = name ∨ l.1 ∈ logs.map (·.1) := by
  induction logs with
  | nil => exact .inl (by rw [List.mem_singleton.mp h])
  | cons first rest ih =>
    obtain ⟨n, content⟩ := first
    rw [extend] at h
    split at h
    · next hname =>
      rcases List.mem_cons.mp h with rfl | h
      · exact .inl hname
      · exact .inr (List.mem_cons_of_mem _ (List.mem_map_of_mem h))
    · split at h
      · rcases List.mem_cons.mp h with rfl | h
        · exact .inl rfl
        · exact .inr (List.mem_map_of_mem h)
      · rcases List.mem_cons.mp h with rfl | h
        · exact .inr List.mem_cons_self
        · exact (ih h).imp_right (List.mem_cons_of_mem _)

/-- The names increase along the list. -/
def IsSorted (s : LogStore) : Prop := s.logs.Pairwise fun l r => l.1 < r.1

/-- A log is extended where it is, or put where its name belongs. -/
theorem isSorted_extend (h : (mk capacity logs).IsSorted) :
    (mk capacity (extend name data logs)).IsSorted := by
  induction logs with
  | nil => exact List.pairwise_singleton _ _
  | cons first rest ih =>
    obtain ⟨n, content⟩ := first
    obtain ⟨hfirst, hrest⟩ := List.pairwise_cons.mp h
    rw [extend]
    split
    · exact List.pairwise_cons.mpr ⟨hfirst, hrest⟩
    · next hne =>
      split
      · next hlt =>
        refine List.pairwise_cons.mpr ⟨fun l hl => ?_, h⟩
        rcases List.mem_cons.mp hl with rfl | hl
        · exact hlt
        · exact hlt.trans (hfirst l hl)
      · next hlt =>
        refine List.pairwise_cons.mpr ⟨fun l hl => ?_, ih hrest⟩
        rcases mem_extend hl with hname | hl
        · rw [hname]
          exact lt_of_le_of_ne (not_lt.mp hlt) hne
        · obtain ⟨l', hl', hname⟩ := List.mem_map.mp hl
          rw [← hname]
          exact hfirst l' hl'

theorem find?_extend (h : (mk capacity logs).IsSorted) :
    (mk capacity (extend name data logs)).find? other = if other = name
      then some (((mk capacity logs).find? name).getD [] ++ data)
      else (mk capacity logs).find? other := by
  induction logs with
  | nil =>
    rw [extend, find?_cons, find?_nil, find?_nil]
    simp only [eq_comm, Option.getD_none, List.nil_append]
  | cons first rest ih =>
    obtain ⟨n, content⟩ := first
    obtain ⟨hfirst, hrest⟩ := List.pairwise_cons.mp h
    rw [extend]
    split
    · next hname =>
      subst hname
      simp only [find?_cons, if_true, Option.getD_some, eq_comm (a := other)]
      split <;> rfl
    · next hne =>
      split
      · next hlt =>
        -- All names that follow are greater, so that there was no such log.
        have hnone : (mk capacity ((n, content) :: rest)).find? name = none := by
          refine find?_eq_none_iff.mpr fun l hl hname => ?_
          rcases List.mem_cons.mp hl with rfl | hl
          · exact hne hname
          · exact lt_irrefl _ (hlt.trans (hname ▸ hfirst l hl))
        rw [hnone, find?_cons name]
        simp only [Option.getD_none, List.nil_append, eq_comm (a := other)]
      · rw [find?_cons n other, find?_cons n other, find?_cons n name, ih hrest,
          if_neg hne]
        by_cases hother : other = name
        · rw [if_pos hother, if_pos hother, if_neg (hother ▸ hne)]
        · rw [if_neg hother, if_neg hother]

theorem find?_filter : (mk capacity (logs.filter fun l => l.1 != name)).find? other
    = if other = name then none else (mk capacity logs).find? other := by
  induction logs with
  | nil =>
    rw [List.filter_nil, find?_nil, ite_self]
  | cons first rest ih =>
    obtain ⟨n, content⟩ := first
    by_cases hname : n = name
    · subst hname
      rw [List.filter_cons_of_neg (by simp), ih, find?_cons]
      by_cases hother : other = n
      · rw [if_pos hother, if_pos hother]
      · rw [if_neg hother, if_neg hother, if_neg (Ne.symm hother)]
    · rw [List.filter_cons_of_pos (by simpa using hname), find?_cons, find?_cons, ih]
      by_cases hother : other = name
      · rw [if_pos hother, if_pos hother, if_neg (hother ▸ hname)]
      · rw [if_neg hother, if_neg hother]

theorem find?_of_mem (h : (mk capacity logs).IsSorted) (hl : l ∈ logs) :
    (mk capacity logs).find? l.1 = some l.2 := by
  induction logs with
  | nil => cases hl
  | cons first rest ih =>
    obtain ⟨hfirst, hrest⟩ := List.pairwise_cons.mp h
    obtain ⟨n, content⟩ := first
    rw [find?_cons]
    rcases List.mem_cons.mp hl with rfl | hl
    · rw [if_pos rfl]
    · rw [if_neg (ne_of_lt (hfirst l hl)), ih hrest hl]

theorem used_extend :
    (mk capacity (extend name data logs)).used = (mk capacity logs).used + data.length := by
  unfold used
  induction logs with
  | nil => simp [extend]
  | cons first rest ih =>
    obtain ⟨n, content⟩ := first
    rw [extend]
    split
    · simp only [List.foldr_cons, List.length_append]
      omega
    · split
      · simp only [List.foldr_cons]
        omega
      · simp only [List.foldr_cons] at ih ⊢
        omega

theorem used_filter (p : String × Bytes → Bool) :
    (mk capacity (logs.filter p)).used ≤ (mk capacity logs).used := by
  unfold used
  induction logs with
  | nil => exact Nat.le_refl _
  | cons first rest ih =>
    rw [List.filter_cons]
    split
    · exact Nat.add_le_add_left ih _
    · exact ih.trans (Nat.le_add_left _ _)

end

/-! ## What a store stands for -/

/-- The archive that a store stands for. -/
def view (s : LogStore) : Archive :=
  ⟨s.capacity, (s.logs.map fun l => (⟨l.1, l.2⟩ : Sigma fun _ : String => Bytes)).toFinmap⟩

theorem capacity_view : s.view.capacity = s.capacity := rfl

theorem lookup_view (name : String) : s.view.logs.lookup name = s.find? name := by
  obtain ⟨capacity, logs⟩ := s
  rw [view, Finmap.dlookup_list_toFinmap]
  induction logs with
  | nil => rfl
  | cons first rest ih =>
    obtain ⟨n, content⟩ := first
    rw [find?_cons, List.map_cons]
    by_cases hname : n = name
    · subst hname
      rw [List.dlookup_cons_eq, if_pos rfl]
    · rw [List.dlookup_cons_ne _ _ (Ne.symm hname), if_neg hname]
      exact ih

theorem content_view (name : String) : s.view.content name = (s.find? name).getD [] := by
  rw [Archive.content, lookup_view]

theorem mem_view {name : String} : name ∈ s.view.logs ↔ name ∈ s.logs.map (·.1) := by
  obtain ⟨capacity, logs⟩ := s
  have hnone : (mk capacity logs).find? name = none ↔ _ := find?_eq_none_iff
  rw [← not_iff_not, ← Finmap.lookup_eq_none, lookup_view, hnone, List.mem_map]
  exact ⟨fun h ⟨l, hl, hname⟩ => h l hl hname, fun h l hl hname => h ⟨l, hl, hname⟩⟩

theorem keys_view : s.view.logs.keys = (s.logs.map (·.1)).toFinset := by
  ext name
  rw [Finmap.mem_keys, mem_view, List.mem_toFinset]

theorem IsSorted.nodup {s : LogStore} (h : s.IsSorted) : (s.logs.map (·.1)).Nodup :=
  (List.pairwise_map.mpr h).imp ne_of_lt

theorem IsSorted.used_view {s : LogStore} (h : s.IsSorted) : s.view.used = s.used := by
  have hlength {l : String × Bytes} (hl : l ∈ s.logs) :
      (s.view.content l.1).length = l.2.length := by
    rw [content_view, find?_of_mem h hl, Option.getD_some]
  calc s.view.used
      = ((s.logs.map (·.1)).map fun name => (s.view.content name).length).sum := by
        rw [Archive.used, keys_view, List.sum_toFinset _ h.nodup]
    _ = (s.logs.map fun l => l.2.length).sum := by
        rw [List.map_map]
        exact congrArg List.sum (List.map_congr_left fun l hl => hlength hl)
    _ = s.used := by
        rw [used, List.sum_eq_foldr, List.foldr_map]

/-- A scan lists the logs in the order of their names. -/
theorem IsSorted.sort_keys {s : LogStore} (h : s.IsSorted) :
    s.view.logs.keys.sort (· ≤ ·) = s.logs.map (·.1) := by
  rw [keys_view]
  exact (List.toFinset_sort _ h.nodup).mpr ((List.pairwise_map.mpr h).imp le_of_lt)

/-- A store in order is what its archive says it is. -/
theorem IsSorted.eq_store {s : LogStore} (h : s.IsSorted) : s = s.view.store := by
  have hlog {l : String × Bytes} (hl : l ∈ s.logs) : (l.1, s.view.content l.1) = l := by
    rw [content_view, find?_of_mem h hl, Option.getD_some]
  have hlogs : s.view.store.logs = s.logs := by
    rw [Archive.store, h.sort_keys, List.map_map]
    exact (List.map_congr_left fun l hl => hlog hl).trans s.logs.map_id
  exact congrArg (mk s.capacity) hlogs.symm

/-! ## Refinement -/

theorem IsSorted.view_extend {s : LogStore} (h : s.IsSorted) (name : String) (data : Bytes) :
    { s with logs := extend name data s.logs }.view
      = { s.view with logs := s.view.logs.insert name (s.view.content name ++ data) } := by
  refine congrArg (Archive.mk s.capacity) (Finmap.ext_lookup fun other => ?_)
  refine (lookup_view _ other).trans ((find?_extend h).trans ?_)
  rw [content_view]
  by_cases hother : other = name
  · subst hother
    rw [if_pos rfl, Finmap.lookup_insert]
  · rw [if_neg hother, Finmap.lookup_insert_of_ne _ hother, lookup_view]

theorem view_filter (name : String) :
    { s with logs := s.logs.filter fun l => l.1 != name }.view
      = { s.view with logs := s.view.logs.erase name } := by
  refine congrArg (Archive.mk s.capacity) (Finmap.ext_lookup fun other => ?_)
  refine (lookup_view _ other).trans (find?_filter.trans ?_)
  by_cases hother : other = name
  · subst hother
    rw [if_pos rfl, Finmap.lookup_erase]
  · rw [if_neg hother, Finmap.lookup_erase_ne hother, lookup_view]

/-- A command is answered as by the archive that the store stands for, and does the same to it. -/
theorem IsSorted.run {s : LogStore} (h : s.IsSorted) {command : StorageCommand}
    (hname : ∀ name data, command = .write name data → checkLogName name = .ok ()) :
    (s.run command).2.IsSorted
      ∧ s.view.run command = ((s.run command).1, (s.run command).2.view) := by
  cases command with
  | write name data =>
    simp only [LogStore.run, append, hname name data rfl, Archive.run, h.used_view, capacity_view]
    split
    · exact ⟨h, rfl⟩
    · refine ⟨isSorted_extend h, Prod.ext ?_ (h.view_extend name data).symm⟩
      rw [content_view]
      rfl
  | read name offset length =>
    refine ⟨h, Prod.ext ?_ rfl⟩
    simp only [Archive.run, LogStore.run, read, lookup_view]
    cases s.find? name <;> rfl
  | delete name =>
    simp only [LogStore.run, delete, Archive.run]
    cases hfind : s.find? name with
    | none =>
      rw [if_neg (Finmap.lookup_eq_none.mp ((s.lookup_view name).trans hfind))]
      exact ⟨h, rfl⟩
    | some content =>
      rw [if_pos (Finmap.mem_of_lookup_eq_some ((s.lookup_view name).trans hfind))]
      refine ⟨h.filter _, Prod.ext ?_ (view_filter s name).symm⟩
      rw [Archive.whole, content_view, hfind]
      rfl
  | scan max =>
    refine ⟨h, Prod.ext ?_ rfl⟩
    have hwhole {l : String × Bytes} (hl : l ∈ s.logs) : s.view.whole l.1 = wholeLog l := by
      rw [Archive.whole, content_view, find?_of_mem h hl]
      rfl
    simp only [Archive.run, LogStore.run, scan, h.sort_keys, ← List.map_take, List.flatMap_map]
    refine congrArg Except.ok (List.flatMap_congr fun l hl => ?_)
    rw [hwhole (List.mem_of_mem_take hl)]

/-- A request is answered as by the archive that the store stands for, and does the same to it. -/
theorem IsSorted.respond {s : LogStore} (h : s.IsSorted) (type : UInt8) (payload : Bytes) :
    (s.respond type payload).2.IsSorted
      ∧ s.view.respond type payload
        = ((s.respond type payload).1, (s.respond type payload).2.view) := by
  rw [respond_eq, Archive.respond]
  cases hparse : StorageCommand.parse type payload with
  | error _ => exact ⟨h, rfl⟩
  | ok command =>
    exact h.run fun name data hwrite => StorageCommand.checkLogName_of_parse (hwrite ▸ hparse)

/-- The store is within its budget. -/
def IsWithin (s : LogStore) : Prop := ∀ capacity, s.capacity = some capacity → s.used ≤ capacity

theorem capacity_run (command : StorageCommand) : (s.run command).2.capacity = s.capacity := by
  cases command with
  | write name data =>
    simp only [run, append]
    split
    · rfl
    · split <;> rfl
  | read name offset length => rfl
  | delete name =>
    simp only [run, delete]
    split <;> rfl
  | scan max => rfl

theorem IsWithin.run {s : LogStore} (h : s.IsWithin) (command : StorageCommand) :
    (s.run command).2.IsWithin := by
  cases command with
  | write name data =>
    simp only [LogStore.run, append]
    split
    · exact h
    · split
      · exact h
      · next hfits =>
        intro capacity hcapacity
        rw [used_extend]
        by_contra hfull
        refine hfits ?_
        rw [show s.capacity = some capacity from hcapacity]
        simpa using hfull
  | read name offset length => exact h
  | delete name =>
    simp only [LogStore.run, delete]
    split
    · exact h
    · exact fun capacity hcapacity => (used_filter _).trans (h capacity hcapacity)
  | scan max => exact h

theorem capacity_respond : (s.respond type payload).2.capacity = s.capacity := by
  rw [respond_eq]
  split
  · rfl
  · exact s.capacity_run _

theorem IsWithin.respond {s : LogStore} (h : s.IsWithin) (type : UInt8) (payload : Bytes) :
    (s.respond type payload).2.IsWithin := by
  rw [respond_eq]
  split
  · exact h
  · exact h.run _

end LogStore

end ModuleBus

import LotusAdvise.AdvisoryCopilot.RunPages

/-! # Listings of copilot runs

In memory and in the database a page of runs is a page of their keys, for runs whose times are in
UTC. The repository steps that store runs keep the keys of those that are stored.
-/

namespace LotusAdvise.AdvisoryCopilot

open KeysetWalk Pagination Tables

/-- A listing over the runs that an adapter stores. -/
structure CopilotRunListing (S : Type) where
  repository : CopilotRunRepository S
  rows : S → List AdvisoryCopilotRunRecord
  selects : CopilotRunFilters → AdvisoryCopilotRunRecord → Bool
  list : S → CopilotRunFilters → ℕ → Option String →
    Except String (List AdvisoryCopilotRunRecord × Option String)

def inMemoryListing (cursors : CursorReaders) (lineages : LineageReaders) :
    CopilotRunListing InMemoryCopilotRepository where
  repository := inMemoryRuns
  rows := InMemoryCopilotRepository.runs
  selects := matchesRun lineages
  list store filters := store.listRunsForProposalVersion cursors lineages filters

def postgresListing (cursors : CursorReaders) (lineages : LineageReaders) :
    CopilotRunListing PostgresCopilotTables where
  repository := postgresRuns
  rows := PostgresCopilotTables.runs
  selects := matchesRow lineages
  list store filters := store.listRunsForProposalVersion cursors lineages filters

section Rows

/-- Runs with distinct identifiers, each of them listable. -/
structure ListableRows (rows : List AdvisoryCopilotRunRecord) : Prop where
  nodup : (rows.map AdvisoryCopilotRunRecord.runId).Nodup
  listable : ∀ run ∈ rows, Listable run

/-- The run is stored, as far as its key is concerned. -/
def Stored (rows : List AdvisoryCopilotRunRecord) (run : AdvisoryCopilotRunRecord) : Prop :=
  ∃ stored ∈ rows, stored.runId = run.runId ∧ stored.createdAt = run.createdAt

variable {rows rows' : List AdvisoryCopilotRunRecord} {run run' : AdvisoryCopilotRunRecord}

theorem instant_eq (h : Listable run) :
    run.createdAt.instant = run.createdAt.localMicroseconds := by
  rw [DateTime.instant, h.utc, Option.getD_some, Int.sub_zero]

theorem instant_inj (h : Listable run) (h' : Listable run') :
    run.createdAt.instant = run'.createdAt.instant ↔ run.createdAt = run'.createdAt := by
  rw [instant_eq h, instant_eq h']
  exact ⟨DateTime.eq_of_localMicroseconds (h.utc.trans h'.utc.symm), fun heq => heq ▸ rfl⟩

theorem runKey_inj (h : Listable run) (h' : Listable run') :
    runKey run = runKey run' ↔ run.runId = run'.runId ∧ run.createdAt = run'.createdAt := by
  rw [runKey, runKey, toLex_inj, Prod.mk.injEq, instant_inj h h', and_comm]

theorem runKey_eq_of_stored (hid : run.runId = run'.runId) (ht : run.createdAt = run'.createdAt) :
    runKey run = runKey run' := by
  rw [runKey, runKey, hid, ht]

theorem ListableRows.eq_of_runId (h : ListableRows rows) (hrun : run ∈ rows) (hrun' : run' ∈ rows)
    (hid : run.runId = run'.runId) : run = run' :=
  List.inj_on_of_nodup_map h.nodup hrun hrun' hid

theorem ListableRows.nodup_keys (h : ListableRows rows) : (rows.map runKey).Nodup := by
  refine List.Nodup.of_map (fun key => (ofLex key).2) ?_
  rw [List.map_map]
  exact h.nodup

theorem listable_of_stored (h : ListableRows rows) (hstored : Stored rows run) : Listable run := by
  obtain ⟨stored, hmem, hid, ht⟩ := hstored
  have hlistable := h.listable stored hmem
  exact ⟨ht ▸ hlistable.utc, hid ▸ hlistable.trimmed, hid ▸ hlistable.nonblank⟩

/-- Every stored run keeps its identifier and its time. -/
def KeysKept (rows rows' : List AdvisoryCopilotRunRecord) : Prop :=
  ∀ run, Stored rows run → Stored rows' run

theorem stored_of_mem (h : run ∈ rows) : Stored rows run := ⟨run, h, rfl, rfl⟩

/-- A new listable run is added. -/
theorem listableRows_concat (h : ListableRows rows) (hrun : Listable run)
    (hnew : lookup AdvisoryCopilotRunRecord.runId rows run.runId = none) :
    ListableRows (rows ++ [run]) ∧ KeysKept rows (rows ++ [run]) := by
  refine ⟨⟨nodup_keys_concat h.nodup hnew, fun other hother => ?_⟩, ?_⟩
  · rcases List.mem_append.mp hother with hother | hother
    · exact h.listable other hother
    · rwa [List.mem_singleton.mp hother]
  · rintro other ⟨stored, hmem, hkey⟩
    exact ⟨stored, List.mem_append_left _ hmem, hkey⟩

/-- A stored run is put in its place. -/
theorem listableRows_replace (h : ListableRows rows) (hrun : Stored rows run) :
    ListableRows (rows.map fun stored => if stored.runId = run.runId then run else stored) ∧
      KeysKept rows (rows.map fun stored => if stored.runId = run.runId then run else stored) := by
  have hkept : ∀ stored ∈ rows, (if stored.runId = run.runId then run else stored).runId =
      stored.runId ∧ (if stored.runId = run.runId then run else stored).createdAt =
        stored.createdAt := by
    intro stored hstored
    split
    · next hid =>
      obtain ⟨other, hother, hotherId, hcreatedAt⟩ := hrun
      obtain rfl := h.eq_of_runId hother hstored (hotherId.trans hid.symm)
      exact ⟨hid.symm, hcreatedAt.symm⟩
    · exact ⟨rfl, rfl⟩
  refine ⟨⟨?_, ?_⟩, ?_⟩
  · have hids : (rows.map fun stored => if stored.runId = run.runId then run else stored).map
        AdvisoryCopilotRunRecord.runId = rows.map AdvisoryCopilotRunRecord.runId := by
      rw [List.map_map]
      exact List.map_congr_left fun stored hstored => (hkept stored hstored).1
    rw [hids]
    exact h.nodup
  · rw [List.forall_mem_map]
    intro stored hstored
    obtain ⟨hid, hcreatedAt⟩ := hkept stored hstored
    exact listable_of_stored h ⟨stored, hstored, hid.symm, hcreatedAt.symm⟩
  · rintro other ⟨stored, hmem, hid, hcreatedAt⟩
    obtain ⟨hkeptId, hkeptCreatedAt⟩ := hkept stored hmem
    exact ⟨_, List.mem_map_of_mem hmem, hkeptId.trans hid, hkeptCreatedAt.trans hcreatedAt⟩

end Rows

section Pages

variable {cursors : CursorReaders} {lineages : LineageReaders} {filters : CopilotRunFilters}
  {limit : ℕ}

/-- The text is that of a cursor at the key. -/
def CursorAt (key : Option (ℤ ×ₗ String)) (text : Option String) : Prop :=
  ∃ last : Option AdvisoryCopilotRunRecord, (∀ run ∈ last, Listable run) ∧
    key = last.map runKey ∧ text = last.map encodeCopilotRunCursor

/-- The text of a cursor is read as the run after which the next page starts. -/
theorem decodeCopilotRunCursor_eq {last : Option AdvisoryCopilotRunRecord}
    (h : ∀ run ∈ last, Listable run) :
    decodeCopilotRunCursor cursors (last.map encodeCopilotRunCursor) =
      .ok (last.map fun run => { createdAt := run.createdAt, runId := run.runId }) := by
  cases last with
  | none => rfl
  | some run => exact decodeCopilotRunCursor_encode (h run rfl)

theorem copilotRunPage_cursor (runs : List AdvisoryCopilotRunRecord) :
    (copilotRunPage runs limit).2 = (nextCursor runs limit).map encodeCopilotRunCursor := by
  unfold copilotRunPage nextCursor
  dsimp only
  by_cases hlimit : limit < runs.length
  · rw [if_pos hlimit, if_neg (Nat.not_le.mpr hlimit)]
  · rw [if_neg hlimit, if_pos (Nat.not_lt.mp hlimit)]
    rfl

theorem nextCursor_map {α β : Type*} (f : α → β) (matched : List α) :
    nextCursor (matched.map f) limit = (nextCursor matched limit).map f := by
  unfold nextCursor
  rw [List.length_map, ← List.map_take, List.getLast?_map, apply_ite (Option.map f)]
  rfl

/-- The page of the sorted runs after a cursor is a page of the keys. -/
theorem isPage_copilotRunPage {rows sorted : List AdvisoryCopilotRunRecord}
    {selects after : AdvisoryCopilotRunRecord → Bool} {key : Option (ℤ ×ₗ String)}
    (hrows : ListableRows rows)
    (hafter : ∀ run ∈ rows, after run = true ↔ KeysetWalk.Below key (runKey run))
    (hperm : sorted.Perm (rows.filter fun run => selects run && after run))
    (hsorted : sorted.Pairwise fun a b => runKey b < runKey a) (hlimit : 0 < limit) :
    ∃ next, IsPage ((rows.filter selects).map runKey) key
        ((copilotRunPage sorted limit).1.map runKey) next ∧
      CursorAt next (copilotRunPage sorted limit).2 ∧
      (copilotRunPage sorted limit).1 ⊆ rows := by
  have hmem : ∀ run, run ∈ sorted ↔
      run ∈ rows ∧ selects run = true ∧ KeysetWalk.Below key (runKey run) := by
    intro run
    rw [hperm.mem_iff, List.mem_filter, Bool.and_eq_true]
    exact and_congr_right fun hrun => and_congr_right fun _ => hafter run hrun
  have hmatched : ∀ k, k ∈ sorted.map runKey ↔
      k ∈ (rows.filter selects).map runKey ∧ KeysetWalk.Below key k := by
    intro k
    simp only [List.mem_map, List.mem_filter]
    constructor
    · rintro ⟨run, hrun, rfl⟩
      obtain ⟨hrow, hselects, hbelow⟩ := (hmem run).mp hrun
      exact ⟨⟨run, ⟨hrow, hselects⟩, rfl⟩, hbelow⟩
    · rintro ⟨⟨run, ⟨hrow, hselects⟩, rfl⟩, hbelow⟩
      exact ⟨run, (hmem run).mpr ⟨hrow, hselects, hbelow⟩, rfl⟩
  have hpage := isPage_take (List.pairwise_map.mpr hsorted) hmatched hlimit
  refine ⟨_, List.map_take ▸ hpage, ⟨nextCursor sorted limit, fun run hrun => ?_,
    nextCursor_map runKey sorted, copilotRunPage_cursor sorted⟩, fun run hrun => ?_⟩
  · exact hrows.listable run ((hmem run).mp (mem_of_nextCursor hrun)).1
  · exact ((hmem run).mp (List.mem_of_mem_take hrun)).1

theorem runIsAfterCursor_iff {run : AdvisoryCopilotRunRecord}
    (last : Option AdvisoryCopilotRunRecord) :
    runIsAfterCursor run (last.map fun run => { createdAt := run.createdAt, runId := run.runId }) =
      true ↔ KeysetWalk.Below (last.map runKey) (runKey run) := by
  cases last with
  | none => exact iff_of_true rfl KeysetWalk.below_none
  | some run' =>
    rw [Option.map_some, Option.map_some, KeysetWalk.below_some, runIsAfterCursor,
      decide_eq_true_iff]
    rfl

theorem runKey_lt_iff {run run' : AdvisoryCopilotRunRecord} :
    runKey run < runKey run' ↔ run.createdAt.instant < run'.createdAt.instant ∨
      run.createdAt.instant = run'.createdAt.instant ∧ run.runId < run'.runId :=
  Prod.Lex.toLex_lt_toLex

/-- For times in UTC, the texts of the times compare as the times. -/
theorem createdAtText_lt_iff {run run' : AdvisoryCopilotRunRecord} (h : Listable run)
    (h' : Listable run') : createdAtText run < createdAtText run' ∨
      createdAtText run = createdAtText run' ∧ run.runId < run'.runId ↔
    runKey run < runKey run' := by
  have hinstant : run.createdAt.instant = run'.createdAt.instant ↔
      run.createdAt = run'.createdAt := instant_inj h h'
  rw [runKey_lt_iff, hinstant, createdAtText, createdAtText,
    DateTime.isoformat_lt_iff h.utc h'.utc, DateTime.isoformat_inj h.utc h'.utc, instant_eq h,
    instant_eq h']

theorem rowIsAfterCursor_iff {run : AdvisoryCopilotRunRecord} (h : Listable run)
    {last : Option AdvisoryCopilotRunRecord} (hlast : ∀ run ∈ last, Listable run) :
    rowIsAfterCursor run (last.map fun run => { createdAt := run.createdAt, runId := run.runId }) =
      true ↔ KeysetWalk.Below (last.map runKey) (runKey run) := by
  cases last with
  | none => exact iff_of_true rfl KeysetWalk.below_none
  | some run' =>
    rw [Option.map_some, Option.map_some, KeysetWalk.below_some, rowIsAfterCursor,
      decide_eq_true_iff]
    exact createdAtText_lt_iff h (hlast run' rfl)

end Pages

section Adapters

/-- What a walk needs of an adapter: runs are appended once and replaced under their identifiers,
and its pages are pages of the keys. -/
structure CopilotRunListing.ListsByKey {S : Type} (listing : CopilotRunListing S) : Prop where
  getRun : ∀ s runId run, listing.repository.getRun s runId = some run → run ∈ listing.rows s
  save : ∀ s run idempotency s' saved,
    listing.repository.saveRunWithIdempotency s run idempotency = .ok (s', saved) →
      listing.rows s' = listing.rows s ∨
        lookup AdvisoryCopilotRunRecord.runId (listing.rows s) run.runId = none ∧
          listing.rows s' = listing.rows s ++ [run]
  update : ∀ s run s', listing.repository.updateRun s run = .ok s' →
    listing.rows s' = listing.rows s ∨ listing.rows s' =
      (listing.rows s).map fun stored => if stored.runId = run.runId then run else stored
  list : ∀ s filters limit key text, 0 < limit → ListableRows (listing.rows s) →
    CursorAt key text → ∃ page nextText next,
      listing.list s filters limit text = .ok (page, nextText) ∧
        IsPage (((listing.rows s).filter (listing.selects filters)).map runKey) key
          (page.map runKey) next ∧
        CursorAt next nextText ∧ page ⊆ listing.rows s

variable (cursors : CursorReaders) (lineages : LineageReaders)

section InMemory

variable {repository repository' : InMemoryCopilotRepository} {run saved : AdvisoryCopilotRunRecord}
  {idempotency : Option AdvisoryCopilotRunIdempotencyRecord}

theorem inMemory_runs_of_save
    (h : repository.saveRunWithIdempotency run idempotency = .ok (repository', saved)) :
    repository'.runs = repository.runs ∨
      lookup AdvisoryCopilotRunRecord.runId repository.runs run.runId = none ∧
        repository'.runs = repository.runs ++ [run] := by
  unfold InMemoryCopilotRepository.saveRunWithIdempotency at h
  split at h
  · cases h
  · cases h
    exact .inl rfl
  · next hreplay =>
    cases h
    by_cases hnew : lookup AdvisoryCopilotRunRecord.runId repository.runs run.runId = none
    · exact .inr ⟨hnew, if_pos hnew⟩
    · -- a stored run is replayed or in conflict
      exfalso
      obtain ⟨stored, hstored⟩ := Option.ne_none_iff_exists'.mp hnew
      have hget : repository.getRun run.runId = some stored := hstored
      have hnever : repository.runReplayForRunId run ≠ .ok none := by
        rw [InMemoryCopilotRepository.runReplayForRunId, hget]
        dsimp only
        split <;> simp
      unfold InMemoryCopilotRepository.runReplay at hreplay
      split at hreplay
      · exact hnever hreplay
      · split at hreplay
        · cases hreplay
        · cases hreplay
        · exact hnever hreplay

theorem inMemory_runs_of_update (h : repository.updateRun run = .ok repository') :
    repository'.runs =
      repository.runs.map fun stored => if stored.runId = run.runId then run else stored := by
  unfold InMemoryCopilotRepository.updateRun at h
  split at h
  · cases h
  · next hstored =>
    cases h
    exact if_neg hstored

theorem inMemoryListing_listsByKey : (inMemoryListing cursors lineages).ListsByKey where
  getRun _ _ _ h := (lookup_some h).1
  save _ _ _ _ _ h := inMemory_runs_of_save h
  update _ _ _ h := .inr (inMemory_runs_of_update h)
  list := by
    rintro repository filters limit key text hlimit hrows ⟨last, hlast, rfl, rfl⟩
    have : IsTrans AdvisoryCopilotRunRecord fun a b => runKey b ≤ runKey a :=
      ⟨fun _ _ _ hab hbc => hbc.trans hab⟩
    have : Std.Total fun a b : AdvisoryCopilotRunRecord => runKey b ≤ runKey a :=
      ⟨fun a b => le_total _ _⟩
    let matched := repository.runs.filter fun run => matchesRun lineages filters run &&
      runIsAfterCursor run (last.map fun run => { createdAt := run.createdAt, runId := run.runId })
    have hperm := List.perm_insertionSort (fun a b => runKey b ≤ runKey a) matched
    have hsorted : (matched.insertionSort fun a b => runKey b ≤ runKey a).Pairwise
        fun a b => runKey b < runKey a := by
      have hkeys : (matched.map runKey).Nodup :=
        hrows.nodup_keys.sublist (List.filter_sublist.map runKey)
      have hdistinct := List.pairwise_map.mp ((hperm.map runKey).nodup_iff.mpr hkeys)
      refine ((List.pairwise_insertionSort _ matched).and hdistinct).imp ?_
      rintro a b ⟨hle, hne⟩
      exact lt_of_le_of_ne hle (Ne.symm hne)
    obtain ⟨next, hpage, hnext, hsubset⟩ := isPage_copilotRunPage hrows
      (fun run _ => runIsAfterCursor_iff last) hperm hsorted hlimit
    refine ⟨_, _, next, ?_, hpage, hnext, hsubset⟩
    change (decodeCopilotRunCursor cursors _).map _ = _
    rw [decodeCopilotRunCursor_eq hlast]
    rfl

end InMemory

section Postgres

variable {tables tables' : PostgresCopilotTables} {run saved : AdvisoryCopilotRunRecord}
  {idempotency : Option AdvisoryCopilotRunIdempotencyRecord}

theorem postgres_runs_of_insert (h : tables.insertRun run = .ok tables') :
    tables'.runs = tables.runs ∨
      lookup AdvisoryCopilotRunRecord.runId tables.runs run.runId = none ∧
        tables'.runs = tables.runs ++ [run] := by
  unfold PostgresCopilotTables.insertRun at h
  split at h
  · cases h
    exact .inl rfl
  · next hnew =>
    split at h
    · cases h
      exact .inr ⟨not_not.mp hnew, rfl⟩
    · cases h

theorem postgres_runs_of_insertIdempotency {record : AdvisoryCopilotRunIdempotencyRecord}
    (h : tables.insertRunIdempotency record = .ok tables') : tables'.runs = tables.runs := by
  unfold PostgresCopilotTables.insertRunIdempotency at h
  split at h
  · cases h
    rfl
  · split at h
    · cases h
    · cases h
      rfl

theorem postgres_runs_of_insertBoth (h : tables.insertBoth run idempotency = .ok (tables', saved)) :
    tables'.runs = tables.runs ∨
      lookup AdvisoryCopilotRunRecord.runId tables.runs run.runId = none ∧
        tables'.runs = tables.runs ++ [run] := by
  obtain ⟨inserted, hinsert, hrest⟩ := bind_eq_ok.mp h
  cases idempotency with
  | none =>
    cases hrest
    exact postgres_runs_of_insert hinsert
  | some record =>
    obtain ⟨bound, hbind, hbound⟩ := bind_eq_ok.mp hrest
    cases hbound
    rw [postgres_runs_of_insertIdempotency hbind]
    exact postgres_runs_of_insert hinsert

theorem postgres_runs_of_save
    (h : tables.saveRunWithIdempotency run idempotency = .ok (tables', saved)) :
    tables'.runs = tables.runs ∨
      lookup AdvisoryCopilotRunRecord.runId tables.runs run.runId = none ∧
        tables'.runs = tables.runs ++ [run] := by
  unfold PostgresCopilotTables.saveRunWithIdempotency at h
  split at h
  · exact postgres_runs_of_insertBoth h
  · split at h
    · exact postgres_runs_of_insertBoth h
    · split at h
      · cases h
      · split at h
        · cases h
        · cases h
          exact .inl rfl

theorem postgres_runs_of_update (h : tables.updateRun run = .ok tables') :
    tables'.runs = tables.runs ∨ tables'.runs =
      tables.runs.map fun stored => if stored.runId = run.runId then run else stored := by
  unfold PostgresCopilotTables.updateRun at h
  split at h
  · cases h
    exact .inl rfl
  · split at h
    · cases h
      exact .inr rfl
    · cases h

/-- One run more than the page shows whether there is a next one. -/
theorem copilotRunPage_take (runs : List AdvisoryCopilotRunRecord) (limit : ℕ) :
    copilotRunPage (runs.take (limit + 1)) limit = copilotRunPage runs limit := by
  have hlength : limit < (runs.take (limit + 1)).length ↔ limit < runs.length := by
    rw [List.length_take]
    omega
  rw [copilotRunPage, copilotRunPage, List.take_take, Nat.min_eq_left (Nat.le_succ limit)]
  simp only [hlength]

theorem postgresListing_listsByKey : (postgresListing cursors lineages).ListsByKey where
  getRun _ _ _ h := (lookup_some h).1
  save _ _ _ _ _ h := postgres_runs_of_save h
  update _ _ _ h := postgres_runs_of_update h
  list := by
    rintro tables filters limit key text hlimit hrows ⟨last, hlast, rfl, rfl⟩
    let matched := tables.runs.filter fun run => matchesRow lineages filters run &&
      rowIsAfterCursor run (last.map fun run => { createdAt := run.createdAt, runId := run.runId })
    let rows := orderByDesc bytewise createdAtText AdvisoryCopilotRunRecord.runId matched
    have hperm : rows.Perm matched := orderByDesc_perm
    have hsorted : rows.Pairwise fun a b => runKey b < runKey a := by
      have hids : (matched.map AdvisoryCopilotRunRecord.runId).Nodup :=
        hrows.nodup.sublist (List.filter_sublist.map _)
      have hlistable : ∀ run ∈ rows, Listable run := fun run hrun =>
        hrows.listable run (List.mem_of_mem_filter (hperm.subset hrun))
      refine (pairwise_orderByDesc hids).imp_of_mem fun {a b} ha hb hbefore => ?_
      exact (createdAtText_lt_iff (hlistable b hb) (hlistable a ha)).mp hbefore
    obtain ⟨next, hpage, hnext, hsubset⟩ := isPage_copilotRunPage hrows
      (fun run hrun => rowIsAfterCursor_iff (hrows.listable run hrun) hlast) hperm hsorted hlimit
    refine ⟨_, _, next, ?_, hpage, hnext, hsubset⟩
    change (decodeCopilotRunCursor cursors _).map _ = _
    rw [decodeCopilotRunCursor_eq hlast]
    exact congrArg Except.ok (copilotRunPage_take rows limit)

end Postgres

end Adapters

end LotusAdvise.AdvisoryCopilot

import LotusAdvise.PolicyPacks.EvaluationLog

/-! # Commands on whole snapshots

A command as the durable repository runs it when nobody else commits meanwhile: it loads
the tables, runs on the store that is built from them and saves this store. Of the tables
only what is found under a key matters to a snapshot, and a snapshot writes back what it has
found except under the keys of its own command.
-/

namespace LotusAdvise.PolicyPacks

open Runs Workers PolicyEvaluationTables

namespace PolicyEvaluationTables

/-- `from_snapshot` of `load_snapshot`: the index of identities is not stored. -/
def loadStore (collation : LinearOrder String) (tables : PolicyEvaluationTables) :
    PolicyEvaluationRecordStore :=
  ⟨tables.selectRecords collation, tables.selectEvents collation,
    tables.selectIdempotency collation, []⟩

/-- The columns that the conditions of the statements read are those of the stored record, and the
primary keys are distinct. -/
structure Coherent (tables : PolicyEvaluationTables) : Prop where
  keyed : (tables.records.map PolicyEvaluationRecordRow.evaluationId).Nodup
  distinct : (tables.events.map eventKey).Nodup
  bound : (tables.idempotency.map PolicyEvaluationIdempotencyRow.idempotencyKey).Nodup
  copied : ∀ row ∈ tables.records, row.recordJson.evaluationId = row.evaluationId ∧
    row.recordJson.evaluationHash = row.evaluationHash ∧
    row.recordJson.evaluationStatus = row.evaluationStatus

/-- Under every primary key the tables have the same row. -/
structure SameRows (tables tables' : PolicyEvaluationTables) : Prop where
  records : ∀ evaluationId,
    recordOf tables.records evaluationId = recordOf tables'.records evaluationId
  events : ∀ key, Tables.lookup eventKey tables.events key =
    Tables.lookup eventKey tables'.events key
  keys : ∀ key, tables.keyOf key = tables'.keyOf key

theorem coherent_empty : PolicyEvaluationTables.empty.Coherent where
  keyed := List.nodup_nil
  distinct := List.nodup_nil
  bound := List.nodup_nil
  copied _ h := by cases h

section Coherent

variable {tables tables' : PolicyEvaluationTables} {snapshot : PolicyEvaluationRecordStore}

/-- The rows of the records that the statements may rely on. -/
def Copied (records : List PolicyEvaluationRecordRow) : Prop :=
  (records.map PolicyEvaluationRecordRow.evaluationId).Nodup ∧
    ∀ row ∈ records, row.recordJson.evaluationId = row.evaluationId ∧
      row.recordJson.evaluationHash = row.evaluationHash ∧
      row.recordJson.evaluationStatus = row.evaluationStatus

theorem copied_upsert {records records' : List PolicyEvaluationRecordRow}
    {events : List PolicyEvaluationAuditEvent} {record : PolicyEvaluationRecord} {eventCount : ℕ}
    (hcopied : Copied records)
    (h : upsertPolicyEvaluationRecord records events record eventCount = .ok records') :
    Copied records' := by
  obtain ⟨_, hguard, rfl⟩ := map_eq_ok.mp h
  refine ⟨Tables.nodup_keys_upsertWith (fun _ _ heq => heq) hcopied.1, fun row hrow => ?_⟩
  unfold Tables.upsertWith at hrow
  split at hrow
  · rcases List.mem_append.mp hrow with hrow | hrow
    · exact hcopied.2 row hrow
    · rw [List.mem_singleton.mp hrow]
      exact ⟨rfl, rfl, rfl⟩
  · obtain ⟨stored, hstored, rfl⟩ := List.mem_map.mp hrow
    split
    · next hkey =>
      -- the condition of the update compares the hashes
      have hlookup : recordOf records record.evaluationId = some stored := by
        have := Tables.lookup_of_mem hcopied.1 hstored
        rwa [hkey] at this
      rw [checkRecord, hlookup] at hguard
      exact ⟨hkey.symm, (require_eq_ok.mp hguard).1.symm, rfl⟩
    · exact hcopied.2 stored hstored

/-- Whatever is saved, the tables stay coherent. -/
theorem Coherent.saved (hc : tables.Coherent) (h : saveSnapshot tables snapshot = .ok tables') :
    tables'.Coherent := by
  obtain ⟨records, hrecords, h⟩ := bind_eq_ok.mp h
  obtain ⟨events, hevents, h⟩ := bind_eq_ok.mp h
  obtain ⟨idempotency, hidempotency, h⟩ := bind_eq_ok.mp h
  cases h
  obtain ⟨hkeyed, hcopied⟩ : Copied records :=
    foldlM_keeps (fun _ _ _ _ hcopied hitem => copied_upsert hcopied hitem)
      ⟨hc.keyed, hc.copied⟩ hrecords
  refine ⟨hkeyed, ?_, ?_, hcopied⟩
  · refine foldlM_keeps (I := fun events => (events.map eventKey).Nodup) ?_ hc.distinct hevents
    intro before event after _ hn hevent
    rcases Tables.insertOnce_eq_ok.mp hevent with ⟨-, rfl⟩ | ⟨hnone, -, rfl⟩
    · exact hn
    · exact Tables.nodup_keys_concat hn hnone
  · refine foldlM_keeps (I := fun rows =>
      (rows.map PolicyEvaluationIdempotencyRow.idempotencyKey).Nodup) ?_ hc.bound hidempotency
    intro before item after _ hn hitem
    obtain ⟨_, -, rfl⟩ := map_eq_ok.mp hitem
    exact Tables.nodup_keys_upsertWith (fun _ _ heq => heq) hn

end Coherent

/-- The items of a snapshot are kept under their own keys. -/
structure WellKeyed (snapshot : PolicyEvaluationRecordStore) : Prop where
  own : ∀ item ∈ snapshot.records, item.2.evaluationId = item.1
  records : (snapshot.records.map Prod.fst).Nodup
  keys : (snapshot.idempotency.map Prod.fst).Nodup

/-- The row that takes the place of a stored one. -/
def mergedRecord (records : List PolicyEvaluationRecordRow) (record : PolicyEvaluationRecord) :
    PolicyEvaluationRecordRow :=
  (recordOf records record.evaluationId).elim (.ofRecord record) fun stored =>
    stored.updated (.ofRecord record)

def mergedKey (tables : PolicyEvaluationTables) (row : PolicyEvaluationIdempotencyRow) :
    PolicyEvaluationIdempotencyRow :=
  (tables.keyOf row.idempotencyKey).elim row fun stored => stored.rebound row

section Save

variable {tables tables' : PolicyEvaluationTables} {snapshot : PolicyEvaluationRecordStore}

theorem updated_key (stored row : PolicyEvaluationRecordRow)
    (h : stored.evaluationId = row.evaluationId) :
    (stored.updated row).evaluationId = row.evaluationId := h

theorem rebound_key (stored row : PolicyEvaluationIdempotencyRow)
    (h : stored.idempotencyKey = row.idempotencyKey) :
    (stored.rebound row).idempotencyKey = row.idempotencyKey := h

theorem WellKeyed.records_map (hk : WellKeyed snapshot) : (snapshot.records.map fun item =>
    (PolicyEvaluationRecordRow.ofRecord item.2).evaluationId).Nodup := by
  have hown : (snapshot.records.map fun item =>
      (PolicyEvaluationRecordRow.ofRecord item.2).evaluationId) = snapshot.records.map Prod.fst :=
    List.map_congr_left hk.own
  rw [hown]
  exact hk.records

/-- What is stored under each identifier after the records are saved. -/
theorem recordOf_saveRecords (hk : WellKeyed snapshot) {records : List PolicyEvaluationRecordRow}
    (h : snapshot.records.foldlM (fun records item =>
      upsertPolicyEvaluationRecord records tables.events item.2
        (snapshot.eventsOf item.2.evaluationId).length) tables.records = .ok records)
    (evaluationId : String) : recordOf records evaluationId =
      (Dict.get? snapshot.records evaluationId).elim (recordOf tables.records evaluationId)
        fun record => some (mergedRecord tables.records record) := by
  unfold upsertPolicyEvaluationRecord at h
  obtain ⟨hstored, hother⟩ := Tables.foldlM_upsertWith updated_key h hk.records_map
  rcases hget : Dict.get? snapshot.records evaluationId with _ | record
  · refine hother evaluationId fun item hitem heq => ?_
    refine Dict.get?_eq_none.mp hget (List.mem_map.mpr ⟨item, hitem, ?_⟩)
    rw [← hk.own item hitem]
    exact heq
  · have hitem := Dict.mem_of_get? hget
    have hown : record.evaluationId = evaluationId := hk.own _ hitem
    subst hown
    exact (hstored _ hitem).1

/-- What a transaction leaves under each evaluation identifier and each key. -/
theorem lookups_of_saveSnapshot (hk : WellKeyed snapshot)
    (h : saveSnapshot tables snapshot = .ok tables') :
    (∀ evaluationId, recordOf tables'.records evaluationId =
      (Dict.get? snapshot.records evaluationId).elim (recordOf tables.records evaluationId)
        fun record => some (mergedRecord tables.records record)) ∧
    ∀ key, tables'.keyOf key = (Dict.get? snapshot.idempotency key).elim (tables.keyOf key)
      fun bound => some (tables.mergedKey ⟨key, bound, eventCreatedAt snapshot bound⟩) := by
  obtain ⟨records, hrecords, h⟩ := bind_eq_ok.mp h
  obtain ⟨events, hevents, h⟩ := bind_eq_ok.mp h
  obtain ⟨idempotency, hidempotency, h⟩ := bind_eq_ok.mp h
  cases h
  refine ⟨recordOf_saveRecords hk hrecords, fun key => ?_⟩
  unfold upsertPolicyEvaluationIdempotency at hidempotency
  obtain ⟨hstored, hother⟩ := Tables.foldlM_upsertWith rebound_key hidempotency hk.keys
  rcases hget : Dict.get? snapshot.idempotency key with _ | bound
  · refine hother key fun item hitem heq => ?_
    exact Dict.get?_eq_none.mp hget (List.mem_map.mpr ⟨item, hitem, heq⟩)
  · exact (hstored _ (Dict.mem_of_get? hget)).1

/-- A transaction goes through when no condition of its statements fails: a record of the snapshot is
stored with its hash and no more events than the snapshot has, or is the only new one; all events
but the new one are stored; a key is free, bound as before or repaired. -/
theorem exists_saveSnapshot (newId : String) (hc : tables.Coherent) (hk : WellKeyed snapshot)
    {event : PolicyEvaluationAuditEvent}
    (hrecords : ∀ item ∈ snapshot.records,
      (∃ row ∈ recordOf tables.records item.1, row.evaluationHash = item.2.evaluationHash ∧
        (logOf tables.events item.1).length ≤ (snapshot.eventsOf item.1).length) ∨
      item.1 = newId ∧ recordOf tables.records item.1 = none ∧ ∀ row ∈ tables.records,
        row.identity ≠ (PolicyEvaluationRecordRow.ofRecord item.2).identity)
    (hevents : ∀ other ∈ snapshot.events.flatMap Prod.snd, other ∈ tables.events ∨ other = event)
    (hfree : event ∈ tables.events ∨ Tables.lookup eventKey tables.events (eventKey event) = none)
    (hevent : (Dict.get? snapshot.records event.evaluationId).isSome)
    (hkeys : ∀ item ∈ snapshot.idempotency, ∀ records, (∀ evaluationId,
        recordOf records evaluationId = (Dict.get? snapshot.records evaluationId).elim
          (recordOf tables.records evaluationId)
          fun record => some (mergedRecord tables.records record)) →
      (tables.keyOf item.1).elim (recordOf records item.2.evaluationId).isSome
        fun stored => stored.bound = item.2 ∨ Repairs records stored.bound item.2) :
    ∃ tables', saveSnapshot tables snapshot = .ok tables' := by
  -- no stored row goes, and those under other identifiers than the new one have their identities
  let I : List PolicyEvaluationRecordRow → Prop := fun records =>
    (∀ evaluationId, recordOf records evaluationId = none →
      recordOf tables.records evaluationId = none) ∧
    ∀ row ∈ records, row.evaluationId ≠ newId →
      ∃ stored ∈ tables.records, stored.identity = row.identity
  obtain ⟨records, hsaved⟩ : ∃ records, snapshot.records.foldlM (fun records item =>
      upsertPolicyEvaluationRecord records tables.events item.2
        (snapshot.eventsOf item.2.evaluationId).length) tables.records = .ok records := by
    refine Tables.exists_foldlM_upsertWith (I := I) updated_key hk.records_map
      ⟨fun _ => id, fun row hrow _ => ⟨row, hrow, rfl⟩⟩ ?_ ?_
    · rintro before ⟨hkept, hidentities⟩ item hitem
      refine ⟨fun evaluationId hnone => ?_, fun row hrow hne => ?_⟩
      · rw [recordOf_upsertWith] at hnone
        split at hnone
        · cases hnone
        · exact hkept evaluationId hnone
      · unfold Tables.upsertWith at hrow
        split at hrow
        · next hnone =>
          rcases List.mem_append.mp hrow with hrow | hrow
          · exact hidentities row hrow hne
          · have hown : row.evaluationId = item.1 := by
              rw [List.mem_singleton.mp hrow]
              exact hk.own item hitem
            have habsent := hkept item.2.evaluationId hnone
            rw [hk.own item hitem] at habsent
            rcases hrecords item hitem with ⟨stored, hstored, -⟩ | ⟨hnew, -⟩
            · rw [habsent] at hstored
              cases hstored
            · exact absurd (hown.trans hnew) hne
        · obtain ⟨stored, hstored, rfl⟩ := List.mem_map.mp hrow
          by_cases hkey : stored.evaluationId =
              (PolicyEvaluationRecordRow.ofRecord item.2).evaluationId
          · rw [if_pos hkey] at hne ⊢
            exact hidentities stored hstored hne
          · rw [if_neg hkey] at hne ⊢
            exact hidentities stored hstored hne
    · rintro before ⟨-, hidentities⟩ item hitem hsame
      have hown := hk.own item hitem
      have hlookup : recordOf before item.2.evaluationId = recordOf tables.records item.1 :=
        hown ▸ hsame
      rcases hrecords item hitem with ⟨row, hrow, hhash, hcount⟩ | ⟨hnew, hnone, hidentity⟩
      · rw [checkRecord, hlookup, Option.mem_def.mp hrow, hown]
        exact require_true ⟨hhash, hcount⟩
      · rw [hnone] at hlookup
        rw [checkRecord, hlookup]
        refine require_true fun row hrow => ?_
        have hne : row.evaluationId ≠ newId := by
          rw [← hnew, ← hown]
          exact Tables.lookup_eq_none.mp hlookup row hrow
        obtain ⟨stored, hstored, heq⟩ := hidentities row hrow hne
        rw [← heq]
        exact hidentity stored hstored
  have hlookups := recordOf_saveRecords hk hsaved
  obtain ⟨events, hinserted⟩ : ∃ events, (snapshot.events.flatMap Prod.snd).foldlM
      (upsertPolicyEvaluationEvent records) tables.events = .ok events := by
    refine Tables.exists_foldlM_insertOnce hc.distinct hevents hfree (require_true ?_)
    obtain ⟨record, hrecord⟩ := Option.isSome_iff_exists.mp hevent
    rw [hlookups, hrecord]
    rfl
  obtain ⟨idempotency, hbound⟩ : ∃ idempotency, snapshot.idempotency.foldlM (fun rows item =>
      upsertPolicyEvaluationIdempotency records rows
        ⟨item.1, item.2, eventCreatedAt snapshot item.2⟩) tables.idempotency = .ok idempotency := by
    refine Tables.exists_foldlM_upsertWith (I := fun _ => True) rebound_key hk.keys trivial
      (fun _ _ _ _ => trivial) ?_
    intro before _ item hitem hsame
    have hkey := hkeys item hitem records hlookups
    rw [checkIdempotency, hsame]
    rcases hstored : tables.keyOf item.1 with _ | stored
    · rw [hstored] at hkey
      change Tables.lookup _ tables.idempotency item.1 = none at hstored
      rw [hstored]
      exact require_true hkey
    · rw [hstored] at hkey
      change Tables.lookup _ tables.idempotency item.1 = some stored at hstored
      rw [hstored]
      exact require_true hkey
  refine ⟨⟨records, events, idempotency⟩, ?_⟩
  exact bind_eq_ok.mpr ⟨_, hsaved, bind_eq_ok.mpr ⟨_, hinserted, bind_eq_ok.mpr ⟨_, hbound, rfl⟩⟩⟩

end Save

section Load

variable {collation : LinearOrder String} {tables : PolicyEvaluationTables} {evaluationId : String}

theorem get?_loadStore_records (hc : tables.Coherent) :
    Dict.get? (tables.loadStore collation).records evaluationId =
      (recordOf tables.records evaluationId).map PolicyEvaluationRecordRow.recordJson := by
  rw [loadStore, selectRecords, Dict.get?_map_key, recordOf]
  rw [Tables.lookup_perm hc.keyed (Tables.orderByColumns_perm collation _).symm]

theorem get?_loadStore_idempotency (hc : tables.Coherent) {key : String} :
    Dict.get? (tables.loadStore collation).idempotency key =
      (tables.keyOf key).map PolicyEvaluationIdempotencyRow.bound := by
  rw [loadStore, selectIdempotency, Dict.get?_map_key, keyOf]
  rw [Tables.lookup_perm hc.bound (Tables.orderByColumns_perm collation _).symm]

/-- The events of an evaluation come in the order of the query. -/
theorem eventsOf_loadStore : (tables.loadStore collation).eventsOf evaluationId =
    logOf (Tables.orderByColumns collation [PolicyEvaluationAuditEvent.evaluationId,
      PolicyEvaluationAuditEvent.occurredAt, PolicyEvaluationAuditEvent.eventId] tables.events)
      evaluationId := by
  rw [PolicyEvaluationRecordStore.eventsOf, loadStore, selectEvents, Dict.getD_get?_groupBy, logOf]

theorem eventsOf_loadStore_perm :
    ((tables.loadStore collation).eventsOf evaluationId).Perm (logOf tables.events evaluationId) := by
  rw [eventsOf_loadStore]
  exact (Tables.orderByColumns_perm collation _).filter _

theorem get?_loadStore_events (h : logOf tables.events evaluationId ≠ []) :
    Dict.get? (tables.loadStore collation).events evaluationId =
      some ((tables.loadStore collation).eventsOf evaluationId) := by
  rcases hget : Dict.get? (tables.loadStore collation).events evaluationId with _ | events
  · refine absurd ?_ h
    have hperm : ((tables.loadStore collation).eventsOf evaluationId).Perm _ :=
      eventsOf_loadStore_perm
    rw [PolicyEvaluationRecordStore.eventsOf, hget] at hperm
    exact hperm.nil_eq.symm
  · rw [PolicyEvaluationRecordStore.eventsOf, hget, Option.getD_some]

theorem wellKeyed_loadStore (hc : tables.Coherent) : WellKeyed (tables.loadStore collation) := by
  constructor
  · intro item hitem
    obtain ⟨row, hrow, hid, hjson⟩ := mem_selectRecords hitem
    rw [← hjson, ← hid]
    exact (hc.copied row hrow).1
  · rw [loadStore, selectRecords, List.map_map]
    exact ((Tables.orderByColumns_perm collation _).map _).nodup_iff.mpr hc.keyed
  · rw [loadStore, selectIdempotency, List.map_map]
    exact ((Tables.orderByColumns_perm collation _).map _).nodup_iff.mpr hc.bound

theorem loaded_loadStore (hcoherent : tables.Coherent) (hc : tables.Consistent) :
    Loaded tables (tables.loadStore collation).records (tables.loadStore collation).events := by
  have hrecords : ∀ item ∈ (tables.loadStore collation).records,
      ∃ row ∈ recordOf tables.records item.1, row.recordJson = item.2 := by
    intro item hitem
    have hget := Dict.get?_of_mem (wellKeyed_loadStore hcoherent).records hitem
    rw [get?_loadStore_records hcoherent] at hget
    exact Option.map_eq_some_iff.mp hget
  refine loaded_of_loadsWhole hc (fun item hitem => ?_) fun item hitem row hrow => ?_
  · obtain ⟨row, hrow, -⟩ := hrecords item hitem
    exact ⟨(wellKeyed_loadStore hcoherent).own item hitem, Option.isSome_of_mem hrow⟩
  · obtain ⟨stored, hstored, hjson⟩ := hrecords item hitem
    obtain rfl := Option.mem_unique hrow hstored
    rw [hjson]
    exact ⟨rfl, rfl, rfl⟩

end Load

section Unchanged

variable {tables : PolicyEvaluationTables} {row : PolicyEvaluationRecordRow}
  {stored : PolicyEvaluationIdempotencyRow} {key createdAt : String}

/-- A stored record that is written back leaves its row as it is. -/
theorem mergedRecord_recordJson (hc : tables.Coherent)
    (hrow : recordOf tables.records row.evaluationId = some row) :
    mergedRecord tables.records row.recordJson = row := by
  obtain ⟨hid, -, hstatus⟩ := hc.copied row (Tables.lookup_some hrow).1
  rw [mergedRecord, hid, hrow, Option.elim_some, PolicyEvaluationRecordRow.updated]
  simp only [PolicyEvaluationRecordRow.ofRecord, hstatus]

theorem mergedKey_bound (h : tables.keyOf key = some stored) :
    tables.mergedKey ⟨key, stored.bound, createdAt⟩ = stored := by
  rw [mergedKey, h]
  rfl

end Unchanged

/-- The tables that runs reach. -/
def Sound (tables : PolicyEvaluationTables) : Prop := tables.Coherent ∧ tables.Consistent

end PolicyEvaluationTables

/-- A command from the load of its snapshot to the commit. -/
inductive SnapshotStage where
  | loading (command : PolicyEvaluationCommand)
  | saving (command : PolicyEvaluationCommand) (answer : PolicyEvaluationAnswer)
    (snapshot : PolicyEvaluationRecordStore)
  | returned (command : PolicyEvaluationCommand) (answer : PolicyEvaluationAnswer)
  | raised (command : PolicyEvaluationCommand) (error : PolicyPackError)

section Commands

variable {Catalog : Type} (services : PolicyServices Catalog) (collation : LinearOrder String)

/-- A command that nobody interrupts. -/
def runDurable (tables : PolicyEvaluationTables) (drawn : Drawn Catalog)
    (command : PolicyEvaluationCommand) :
    Except PolicyPackError (PolicyEvaluationAnswer × PolicyEvaluationTables) := do
  let (answer, snapshot) ← (tables.loadStore collation).run services drawn command
  let tables' ← saveSnapshot tables snapshot
  return (answer, tables')

/-- A command runs right after its load, on what it has loaded. -/
def stepSnapshot (tables : PolicyEvaluationTables) :
    SnapshotStage → Drawn Catalog → Option (PolicyEvaluationTables × SnapshotStage)
  | .loading command, drawn =>
    match (tables.loadStore collation).run services drawn command with
    | .error error => some (tables, .raised command error)
    | .ok (answer, snapshot) => some (tables, .saving command answer snapshot)
  | .saving command answer snapshot, _ =>
    match saveSnapshot tables snapshot with
    | .error error => some (tables, .raised command error)
    | .ok tables' => some (tables', .returned command answer)
  | .returned _ _, _ => none
  | .raised _ _, _ => none

def snapshotEvaluations : Program PolicyEvaluationTables SnapshotStage PolicyEvaluationCommand
    (Drawn Catalog) where
  start := .loading
  step := stepSnapshot services collation

end Commands

/-- What a command knows of the tables. -/
def SnapshotStage.Holds (tables : PolicyEvaluationTables) : SnapshotStage → Prop
  | .saving command answer snapshot => ∃ loaded : PolicyEvaluationRecordStore,
    Loaded tables loaded.records loaded.events ∧ loaded.identityIndex = [] ∧
      loaded.Step command.key? answer.event snapshot
  | _ => True

section Outline

variable {Catalog : Type} {services : PolicyServices Catalog} {collation : LinearOrder String}
  {tables tables' : PolicyEvaluationTables} {stage stage' : SnapshotStage} {drawn : Drawn Catalog}

theorem SnapshotStage.Holds.grows (h : stage.Holds tables) (hgrows : Grows tables tables') :
    stage.Holds tables' := by
  cases stage with
  | saving command answer snapshot =>
    obtain ⟨loaded, hl, hindex, hstep⟩ := h
    exact ⟨loaded, hl.grows hgrows, hindex, hstep⟩
  | loading => trivial
  | returned => trivial
  | raised => trivial

theorem sound_of_step (hs : tables.Sound) (hstage : stage.Holds tables)
    (h : stepSnapshot services collation tables stage drawn = some (tables', stage')) :
    tables'.Sound ∧ Grows tables tables' ∧ stage'.Holds tables' := by
  cases stage with
  | loading command =>
    simp only [stepSnapshot] at h
    split at h
    · obtain ⟨rfl, rfl⟩ := Prod.mk.inj (Option.some.inj h)
      exact ⟨hs, .refl _, trivial⟩
    · next answer snapshot hrun =>
      obtain ⟨rfl, rfl⟩ := Prod.mk.inj (Option.some.inj h)
      exact ⟨hs, .refl _, _, loaded_loadStore hs.1 hs.2, rfl,
        PolicyEvaluationRecordStore.step_of_run hrun⟩
  | saving command answer snapshot =>
    simp only [stepSnapshot] at h
    split at h
    · obtain ⟨rfl, rfl⟩ := Prod.mk.inj (Option.some.inj h)
      exact ⟨hs, .refl _, trivial⟩
    · next saved hsave =>
      obtain ⟨rfl, rfl⟩ := Prod.mk.inj (Option.some.inj h)
      obtain ⟨loaded, hl, hindex, hstep⟩ := hstage
      have hsaved := saved_of_saveSnapshot hsave
      obtain ⟨hgrows, -⟩ := hsaved.grows_kept hl hindex hstep
      exact ⟨⟨hs.1.saved hsave, hsaved.consistent hs.2 hl hindex hstep⟩, hgrows, trivial⟩
  | returned => cases h
  | raised => cases h

/-- A load and a save are one step each, so that every snapshot is read whole. -/
theorem snapshots_outline : (snapshotEvaluations services collation).Outline
    PolicyEvaluationTables.Sound (fun _ tables stage => stage.Holds tables)
    (fun _ _ _ => True) where
  start _ _ _ _ := trivial
  step _ _ _ _ _ _ hs hstage _ h :=
    ⟨(sound_of_step hs hstage h).1, (sound_of_step hs hstage h).2.2⟩
  stable _ _ _ _ _ _ _ _ hs hstage _ h hother := hother.grows (sound_of_step hs hstage h).2.1

/-- The tables are sound after every interleaving of commands. -/
theorem sound_of_run {labels : List (Label PolicyEvaluationCommand (Drawn Catalog))}
    {pool : Pool PolicyEvaluationTables SnapshotStage}
    (h : run (snapshotEvaluations services collation).next (.initial .empty) labels = some pool) :
    pool.store.Sound := by
  have houtline : (snapshotEvaluations services collation).Outline _ _ _ := snapshots_outline
  have hinitial : PolicyEvaluationTables.empty.Sound := ⟨coherent_empty, consistent_empty⟩
  exact (houtline.holds_run (Program.holds_initial hinitial) Program.everyStep_guard_true h).store

/-- A command that nobody interrupts is its two steps in a row. -/
theorem runDurable_eq_ok {command : PolicyEvaluationCommand} {answer : PolicyEvaluationAnswer} :
    runDurable services collation tables drawn command = .ok (answer, tables') ↔
      ∃ snapshot, (tables.loadStore collation).run services drawn command =
        .ok (answer, snapshot) ∧ saveSnapshot tables snapshot = .ok tables' := by
  constructor
  · intro h
    obtain ⟨⟨answer', snapshot⟩, hrun, h⟩ := bind_eq_ok.mp h
    obtain ⟨saved, hsave, h⟩ := bind_eq_ok.mp h
    obtain ⟨rfl, rfl⟩ := Prod.mk.inj (Except.ok.inj h)
    exact ⟨snapshot, hrun, hsave⟩
  · rintro ⟨snapshot, hrun, hsave⟩
    exact bind_eq_ok.mpr ⟨_, hrun, bind_eq_ok.mpr ⟨_, hsave, rfl⟩⟩

theorem PolicyEvaluationTables.Sound.runDurable (hs : tables.Sound) {command : PolicyEvaluationCommand}
    {answer : PolicyEvaluationAnswer}
    (h : runDurable services collation tables drawn command = .ok (answer, tables')) :
    tables'.Sound := by
  obtain ⟨snapshot, hrun, hsave⟩ := runDurable_eq_ok.mp h
  have hstage : SnapshotStage.Holds tables (.saving command answer snapshot) :=
    ⟨_, loaded_loadStore hs.1 hs.2, rfl, PolicyEvaluationRecordStore.step_of_run hrun⟩
  have hstep : stepSnapshot services collation tables (.saving command answer snapshot) drawn =
      some (tables', .returned command answer) := by
    rw [stepSnapshot, hsave]
  exact (sound_of_step hs hstage hstep).1

end Outline

end LotusAdvise.PolicyPacks

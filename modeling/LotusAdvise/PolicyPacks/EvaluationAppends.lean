import LotusAdvise.PolicyPacks.EvaluationCommands

/-! # Appends to different evaluations

An append reads the record and the events of its evaluation and what its key is bound to, and
writes these; but its transaction writes every other evaluation back too, on the condition
that no events were added to them since they were read. Appends to different evaluations
commute when they run one after the other; when both have loaded before either saves, the
second one to save is refused.
-/

namespace LotusAdvise.PolicyPacks

open Runs Workers PolicyEvaluationTables

section Appends

variable {Catalog : Type} {services : PolicyServices Catalog} {collation : LinearOrder String}

section Spec

variable {tables tables' : PolicyEvaluationTables} {request other : AppendEventRequest}
  {drawn : Drawn Catalog} {event : PolicyEvaluationAuditEvent} {evaluationId eventId : String}

/-- An event is found by its identifier among those of an evaluation exactly when it is stored. -/
theorem find?_eventsOf_loadStore (collation : LinearOrder String) (evaluationId eventId : String)
    (hc : tables.Coherent) :
    ((tables.loadStore collation).eventsOf evaluationId).find?
        (fun event => decide (event.eventId = eventId)) =
      Tables.lookup eventKey tables.events (evaluationId, eventId) := by
  rw [eventsOf_loadStore, logOf, List.find?_filter]
  rw [← Tables.lookup_perm hc.distinct (Tables.orderByColumns_perm collation _).symm]
  rw [Tables.lookup]
  refine congrArg (fun p => List.find? p _) (funext fun event => ?_)
  simp [eventKey, Prod.ext_iff]

theorem loadReplayedEvent_loadStore (hc : tables.Coherent) {record : PolicyEvaluationRecord} :
    (tables.loadStore collation).loadReplayedEvent evaluationId eventId = .ok (record, event) ↔
      (∃ row ∈ recordOf tables.records evaluationId, row.recordJson = record) ∧
        Tables.lookup eventKey tables.events (evaluationId, eventId) = some event := by
  rw [← find?_eventsOf_loadStore collation evaluationId eventId hc]
  constructor
  · intro h
    obtain ⟨stored, hrecord, h⟩ := bind_eq_ok.mp h
    obtain ⟨events, hevents, h⟩ := bind_eq_ok.mp h
    have hlisted := PolicyEvaluationRecordStore.loadEvents_eq_ok.mp hevents
    split at h
    · cases h
    · next hfind =>
      cases h
      rw [PolicyEvaluationRecordStore.loadRecord_eq_ok, get?_loadStore_records hc] at hrecord
      rw [PolicyEvaluationRecordStore.eventsOf, hlisted, Option.getD_some]
      exact ⟨Option.map_eq_some_iff.mp hrecord, hfind⟩
  · rintro ⟨⟨row, hrow, rfl⟩, hfind⟩
    have hlisted : Dict.get? (tables.loadStore collation).events evaluationId =
        some ((tables.loadStore collation).eventsOf evaluationId) := by
      refine get?_loadStore_events fun hnil => ?_
      have hperm : ((tables.loadStore collation).eventsOf evaluationId).Perm _ :=
        eventsOf_loadStore_perm
      rw [hnil] at hperm
      rw [hperm.eq_nil] at hfind
      cases hfind
    have hrecord : Dict.get? (tables.loadStore collation).records evaluationId =
        some row.recordJson := by
      rw [get?_loadStore_records hc, hrow, Option.map_some]
    refine bind_eq_ok.mpr ⟨_, PolicyEvaluationRecordStore.loadRecord_eq_ok.mpr hrecord,
      bind_eq_ok.mpr ⟨_, PolicyEvaluationRecordStore.loadEvents_eq_ok.mpr hlisted, ?_⟩⟩
    rw [hfind]

/-- A key of a snapshot is free, or bound to a stored event: by the same request, or by one that may
be repaired. -/
theorem findReplayedEvent_loadStore (hc : tables.Coherent) {key requestHash : String}
    {query : ReplayQuery} {replayed : Option (PolicyEvaluationAuditEvent × PolicyEvaluationRecord)} :
    (tables.loadStore collation).findReplayedEvent services key requestHash query = .ok replayed ↔
      tables.keyOf key = none ∧ replayed = none ∨
        ∃ stored bound event, tables.keyOf key = some stored ∧
          recordOf tables.records stored.bound.evaluationId = some bound ∧
          Tables.lookup eventKey tables.events (stored.bound.evaluationId, stored.bound.eventId) =
            some event ∧
          if stored.bound.requestHash = requestHash ∨
              matchesLegacyReplay services bound.recordJson event stored.bound.requestHash query then
            replayed = some (event, bound.recordJson)
          else canSkipConflictForLegalEntityRepair services bound.recordJson query = true ∧
            replayed = none := by
  unfold PolicyEvaluationRecordStore.findReplayedEvent
  rw [get?_loadStore_idempotency hc]
  rcases tables.keyOf key with _ | stored
  · constructor
    · intro h
      exact .inl ⟨rfl, (Except.ok.inj h).symm⟩
    · rintro (⟨-, rfl⟩ | ⟨_, _, _, hsome, -⟩)
      · rfl
      · cases hsome
  · constructor
    · intro h
      obtain ⟨⟨record, event⟩, hload, h⟩ := bind_eq_ok.mp h
      obtain ⟨⟨bound, hbound, rfl⟩, hfound⟩ := (loadReplayedEvent_loadStore hc).mp hload
      refine .inr ⟨stored, bound, event, rfl, hbound, hfound, ?_⟩
      dsimp only at h
      split at h
      · next hsame =>
        rw [if_pos hsame]
        exact (Except.ok.inj h).symm
      · next hsame =>
        rw [if_neg hsame]
        split at h
        · next hskip => exact ⟨hskip, (Except.ok.inj h).symm⟩
        · cases h
    · rintro (⟨hnone, -⟩ | ⟨_, bound, event, hsome, hbound, hfound, h⟩)
      · cases hnone
      · obtain rfl := Option.some.inj hsome
        refine bind_eq_ok.mpr ⟨(bound.recordJson, event),
          (loadReplayedEvent_loadStore hc).mpr ⟨⟨bound, hbound, rfl⟩, hfound⟩, ?_⟩
        dsimp only
        split
        · next hsame =>
          rw [if_pos hsame] at h
          rw [h]
          rfl
        · next hsame =>
          rw [if_neg hsame] at h
          rw [if_pos h.1, h.2]
          rfl

/-- The key of an append is free, or bound to a stored event by the same request. -/
theorem findAppended_loadStore (hc : tables.Coherent) {evaluationHash : String}
    {replayed : Option (PolicyEvaluationAuditEvent × PolicyEvaluationRecord)} :
    (request.key?.elim (.ok none) fun key => (tables.loadStore collation).findReplayedEvent services
        key (request.requestHash services evaluationHash) (.event request evaluationHash)) =
        .ok replayed ↔
      (∀ key ∈ request.key?, tables.keyOf key = none) ∧ replayed = none ∨
        ∃ key bound event, replayed = some (event, bound.recordJson) ∧
          request.key? = some key.idempotencyKey ∧ tables.keyOf key.idempotencyKey = some key ∧
          recordOf tables.records key.bound.evaluationId = some bound ∧
          Tables.lookup eventKey tables.events (key.bound.evaluationId, key.bound.eventId) =
            some event ∧
          (key.bound.requestHash = request.requestHash services evaluationHash ∨
            matchesLegacyReplay services bound.recordJson event key.bound.requestHash
              (.event request evaluationHash)) := by
  rcases hkey : request.key? with _ | key
  · constructor
    · intro h
      exact .inl ⟨fun _ hnone => (by cases hnone), (Except.ok.inj h).symm⟩
    · rintro (⟨-, rfl⟩ | ⟨_, _, _, -, hsome, -⟩)
      · rfl
      · cases hsome
  · rw [Option.elim_some, findReplayedEvent_loadStore hc]
    refine or_congr (and_congr_left' ?_) ?_
    · simp
    · constructor
      · rintro ⟨stored, bound, event, hstored, hbound, hfound, h⟩
        obtain rfl := (Tables.lookup_some hstored).2
        split at h
        · next hsame => exact ⟨stored, bound, event, h, rfl, hstored, hbound, hfound, hsame⟩
        · exact absurd h.1 Bool.false_ne_true
      · rintro ⟨stored, bound, event, rfl, hsome, hstored, hbound, hfound, hsame⟩
        obtain rfl := Option.some.inj hsome
        exact ⟨stored, bound, event, hstored, hbound, hfound, by rw [if_pos hsame]⟩

/-- An append finds its key bound to an event by the same request. -/
structure AppendReplays (services : PolicyServices Catalog) (tables : PolicyEvaluationTables)
    (request : AppendEventRequest) (event : PolicyEvaluationAuditEvent)
    (row bound : PolicyEvaluationRecordRow) (key : PolicyEvaluationIdempotencyRow) : Prop where
  record : recordOf tables.records request.evaluationId = some row
  authorized : validatePolicyEvaluationEventAuthority request.eventType request.reason
    row.recordJson.evaluationHash request.authority = .ok ()
  key_eq : request.key? = some key.idempotencyKey
  stored : tables.keyOf key.idempotencyKey = some key
  evaluation : recordOf tables.records key.bound.evaluationId = some bound
  found : Tables.lookup eventKey tables.events (key.bound.evaluationId, key.bound.eventId) = some event
  same : key.bound.requestHash = request.requestHash services row.recordJson.evaluationHash ∨
    matchesLegacyReplay services bound.recordJson event key.bound.requestHash
      (.event request row.recordJson.evaluationHash)

/-- An append finds its key free, and records an event. -/
structure AppendRecords (services : PolicyServices Catalog) (collation : LinearOrder String)
    (tables : PolicyEvaluationTables) (request : AppendEventRequest) (drawn : Drawn Catalog)
    (event : PolicyEvaluationAuditEvent) (row : PolicyEvaluationRecordRow) : Prop where
  record : recordOf tables.records request.evaluationId = some row
  authorized : validatePolicyEvaluationEventAuthority request.eventType request.reason
    row.recordJson.evaluationHash request.authority = .ok ()
  free : ∀ key ∈ request.key?, tables.keyOf key = none
  event_eq : event =
    (tables.loadStore collation).appendedEvent services row.recordJson request drawn

theorem logOf_ne_nil (hc : tables.Consistent) {row : PolicyEvaluationRecordRow}
    (hrow : recordOf tables.records evaluationId = some row) :
    logOf tables.events evaluationId ≠ [] := by
  obtain ⟨-, -, first, hfirst, -⟩ := hc.recorded evaluationId row hrow
  intro hnil
  rw [hnil] at hfirst
  cases hfirst

/-- The snapshot that an append with a new event saves. -/
def appendedStore (services : PolicyServices Catalog) (collation : LinearOrder String)
    (tables : PolicyEvaluationTables) (request : AppendEventRequest)
    (event : PolicyEvaluationAuditEvent) (row : PolicyEvaluationRecordRow) :
    PolicyEvaluationRecordStore :=
  (tables.loadStore collation).putAppended services row.recordJson
    ((tables.loadStore collation).eventsOf request.evaluationId) request event

/-- The snapshot that an append saves. -/
inductive SavedBy (services : PolicyServices Catalog) (collation : LinearOrder String)
    (tables : PolicyEvaluationTables) (request : AppendEventRequest) (drawn : Drawn Catalog)
    (event : PolicyEvaluationAuditEvent) : PolicyEvaluationRecordStore → Prop
  | replayed (row bound : PolicyEvaluationRecordRow) (key : PolicyEvaluationIdempotencyRow)
    (h : AppendReplays services tables request event row bound key) :
    SavedBy services collation tables request drawn event (tables.loadStore collation)
  | recorded (row : PolicyEvaluationRecordRow)
    (h : AppendRecords services collation tables request drawn event row) :
    SavedBy services collation tables request drawn event
      (appendedStore services collation tables request event row)

theorem appendedEvent_congr {store store' : PolicyEvaluationRecordStore}
    {record : PolicyEvaluationRecord}
    (h : (store.eventsOf record.evaluationId).length = (store'.eventsOf record.evaluationId).length) :
    store.appendedEvent services record request drawn =
      store'.appendedEvent services record request drawn := by
  unfold PolicyEvaluationRecordStore.appendedEvent PolicyEvaluationRecordStore.event
  rw [h]

/-- Everything an append can do with a snapshot. -/
theorem append_loadStore (hs : tables.Sound) {snapshot : PolicyEvaluationRecordStore} :
    (tables.loadStore collation).appendPolicyEvaluationEvent services request drawn =
        .ok (event, snapshot) ↔
      SavedBy services collation tables request drawn event snapshot := by
  have hrecord : ∀ record, (tables.loadStore collation).loadRecord request.evaluationId =
      .ok record ↔ ∃ row ∈ recordOf tables.records request.evaluationId,
        row.recordJson = record := by
    intro record
    rw [PolicyEvaluationRecordStore.loadRecord_eq_ok, get?_loadStore_records hs.1]
    exact Option.map_eq_some_iff
  constructor
  · intro h
    obtain ⟨record, hload, h⟩ := bind_eq_ok.mp h
    obtain ⟨row, hrow, rfl⟩ := (hrecord record).mp hload
    obtain ⟨⟨⟩, hauthorized, h⟩ := bind_eq_ok.mp h
    obtain ⟨replayed, hreplayed, h⟩ := bind_eq_ok.mp h
    rcases (findAppended_loadStore hs.1).mp hreplayed with ⟨hfree, rfl⟩ |
      ⟨key, bound, found, rfl, hkey, hstored, hbound, hfound, hsame⟩
    · obtain ⟨events, hevents, h⟩ := bind_eq_ok.mp h
      obtain ⟨rfl, rfl⟩ := Prod.mk.inj (Except.ok.inj h)
      have hlisted := PolicyEvaluationRecordStore.loadEvents_eq_ok.mp hevents
      rw [get?_loadStore_events (logOf_ne_nil hs.2 hrow)] at hlisted
      obtain rfl := Option.some.inj hlisted
      exact .recorded row ⟨hrow, hauthorized, hfree, rfl⟩
    · obtain ⟨rfl, rfl⟩ := Prod.mk.inj (Except.ok.inj h)
      exact .replayed row bound key ⟨hrow, hauthorized, hkey, hstored, hbound, hfound, hsame⟩
  · rintro (⟨row, bound, key, h⟩ | ⟨row, h⟩)
    · exact bind_eq_ok.mpr ⟨_, (hrecord _).mpr ⟨row, h.record, rfl⟩, bind_eq_ok.mpr ⟨(),
        h.authorized, bind_eq_ok.mpr ⟨some (event, bound.recordJson),
          (findAppended_loadStore hs.1).mpr (.inr ⟨key, bound, event, rfl, h.key_eq, h.stored,
            h.evaluation, h.found, h.same⟩), rfl⟩⟩⟩
    · have hevents : (tables.loadStore collation).loadEvents request.evaluationId = .ok _ :=
        PolicyEvaluationRecordStore.loadEvents_eq_ok.mpr
          (get?_loadStore_events (logOf_ne_nil hs.2 h.record))
      rw [h.event_eq]
      exact bind_eq_ok.mpr ⟨_, (hrecord _).mpr ⟨row, h.record, rfl⟩, bind_eq_ok.mpr ⟨(),
        h.authorized, bind_eq_ok.mpr ⟨none, (findAppended_loadStore hs.1).mpr (.inl ⟨h.free, rfl⟩),
          bind_eq_ok.mpr ⟨_, hevents, rfl⟩⟩⟩⟩

/-- The tables have the same rows under each key, and the same log. -/
structure Unchanged (tables tables' : PolicyEvaluationTables) : Prop where
  records : ∀ evaluationId,
    recordOf tables'.records evaluationId = recordOf tables.records evaluationId
  events : tables'.events = tables.events
  keys : ∀ key, tables'.keyOf key = tables.keyOf key

/-- What an append that records an event changes. -/
structure Recorded (services : PolicyServices Catalog) (tables : PolicyEvaluationTables)
    (request : AppendEventRequest) (event : PolicyEvaluationAuditEvent)
    (row : PolicyEvaluationRecordRow) (tables' : PolicyEvaluationTables) : Prop where
  record : recordOf tables'.records request.evaluationId =
    some (row.updated (.ofRecord (attachPolicyEvaluationEvent row.recordJson event)))
  records : ∀ evaluationId, evaluationId ≠ request.evaluationId →
    recordOf tables'.records evaluationId = recordOf tables.records evaluationId
  events : tables'.events = tables.events ++ [event]
  key : ∀ key ∈ request.key?, tables'.keyOf key = some ⟨key,
    ⟨request.requestHash services row.recordJson.evaluationHash, request.evaluationId, event.eventId⟩,
    event.occurredAt⟩
  keys : ∀ key, key ∉ request.key? → tables'.keyOf key = tables.keyOf key

theorem Unchanged.refl (tables : PolicyEvaluationTables) : Unchanged tables tables :=
  ⟨fun _ => rfl, rfl, fun _ => rfl⟩

theorem mem_records_loadStore (hc : tables.Coherent) {record : PolicyEvaluationRecord}
    (h : (evaluationId, record) ∈ (tables.loadStore collation).records) :
    ∃ row, recordOf tables.records evaluationId = some row ∧ row.recordJson = record ∧
      row.evaluationHash = record.evaluationHash := by
  have hget := Dict.get?_of_mem (wellKeyed_loadStore hc).records h
  rw [get?_loadStore_records hc] at hget
  obtain ⟨row, hrow, hjson⟩ := Option.map_eq_some_iff.mp hget
  refine ⟨row, hrow, hjson, ?_⟩
  rw [← hjson, (hc.copied row (Tables.lookup_some hrow).1).2.1]

theorem mem_events_loadStore (hs : tables.Sound)
    (h : event ∈ (tables.loadStore collation).events.flatMap Prod.snd) : event ∈ tables.events := by
  obtain ⟨⟨evaluationId, group⟩, hgroup, hmem⟩ := List.mem_flatMap.mp h
  exact ((loaded_loadStore hs.1 hs.2).grouped evaluationId group hgroup event hmem).1

theorem length_eventsOf_loadStore : ((tables.loadStore collation).eventsOf evaluationId).length =
    (logOf tables.events evaluationId).length :=
  eventsOf_loadStore_perm.length_eq

theorem mem_idempotency_loadStore (hc : tables.Coherent) {key : String} {bound : BoundRequest}
    (h : (key, bound) ∈ (tables.loadStore collation).idempotency) :
    ∃ stored, tables.keyOf key = some stored ∧ stored.bound = bound := by
  have hget := Dict.get?_of_mem (wellKeyed_loadStore hc).keys h
  rw [get?_loadStore_idempotency hc] at hget
  exact Option.map_eq_some_iff.mp hget

/-- What is written back of a snapshot leaves the rows that are still as they were read. -/
theorem lookups_of_save (collation : LinearOrder String) (hs : tables.Sound) (hs' : tables'.Sound) (hsame : Unchanged tables tables')
    {snapshot : PolicyEvaluationRecordStore} {saved : PolicyEvaluationTables}
    (hk : WellKeyed snapshot) (h : saveSnapshot tables' snapshot = .ok saved) :
    (∀ evaluationId, Dict.get? snapshot.records evaluationId =
        Dict.get? (tables.loadStore collation).records evaluationId →
      recordOf saved.records evaluationId = recordOf tables'.records evaluationId) ∧
    ∀ key, Dict.get? snapshot.idempotency key =
        Dict.get? (tables.loadStore collation).idempotency key →
      saved.keyOf key = tables'.keyOf key := by
  obtain ⟨hrecords, hkeys⟩ := lookups_of_saveSnapshot hk h
  constructor
  · intro evaluationId hget
    rw [hrecords, hget, get?_loadStore_records hs.1, ← hsame.records]
    rcases hrow : recordOf tables'.records evaluationId with _ | row
    · rfl
    · obtain rfl := (Tables.lookup_some hrow).2
      rw [Option.map_some, Option.elim_some, mergedRecord_recordJson hs'.1 hrow]
  · intro key hget
    rw [hkeys, hget, get?_loadStore_idempotency hs.1, ← hsame.keys]
    rcases hstored : tables'.keyOf key with _ | stored
    · rfl
    · rw [Option.map_some, Option.elim_some, mergedKey_bound hstored]

/-- A snapshot can be written back to tables that still have its rows, and changes nothing. -/
theorem exists_save_unchanged (hs : tables.Sound) (hs' : tables'.Sound)
    (hsame : Unchanged tables tables') (hevent : event ∈ tables.events) :
    ∃ saved, saveSnapshot tables' (tables.loadStore collation) = .ok saved ∧
      Unchanged tables' saved := by
  have hk : WellKeyed (tables.loadStore collation) := wellKeyed_loadStore hs.1
  have hstored : ∀ other ∈ (tables.loadStore collation).events.flatMap Prod.snd,
      other ∈ tables'.events ∨ other = event := by
    intro other hother
    rw [hsame.events]
    exact .inl (mem_events_loadStore hs hother)
  obtain ⟨saved, hsaved⟩ : ∃ saved, saveSnapshot tables' (tables.loadStore collation) = .ok saved := by
    refine exists_saveSnapshot "" hs'.1 hk ?_ hstored (.inl (hsame.events ▸ hevent)) ?_ ?_
    · rintro ⟨evaluationId, record⟩ hitem
      obtain ⟨row, hrow, -, hhash⟩ := mem_records_loadStore hs.1 hitem
      refine .inl ⟨row, by rw [hsame.records, hrow]; rfl, hhash, ?_⟩
      rw [length_eventsOf_loadStore, hsame.events]
    · obtain ⟨row, hrow⟩ := Option.isSome_iff_exists.mp (hs.2.known event hevent)
      rw [get?_loadStore_records hs.1, hrow]
      rfl
    · rintro ⟨key, bound⟩ hitem records -
      obtain ⟨stored, hkey, hbound⟩ := mem_idempotency_loadStore hs.1 hitem
      rw [hsame.keys, hkey]
      exact .inl hbound
  refine ⟨saved, hsaved, ?_⟩
  obtain ⟨hrecords, hkeys⟩ := lookups_of_save collation hs hs' hsame hk hsaved
  refine ⟨fun evaluationId => hrecords evaluationId rfl, ?_, fun key => hkeys key rfl⟩
  obtain ⟨hevents, -⟩ := (saved_of_saveSnapshot hsaved).events event hstored
  rcases hevents with heq | ⟨hfree, -⟩
  · exact heq
  · exact absurd rfl (Tables.lookup_eq_none.mp hfree event (hsame.events ▸ hevent))

/-- The event of an append is new to its evaluation. -/
theorem AppendRecords.lookup_eq_none (hs : tables.Sound) {row : PolicyEvaluationRecordRow}
    (h : AppendRecords services collation tables request drawn event row) :
    Tables.lookup eventKey tables.events (eventKey event) = none := by
  have hid := (hs.2.recorded _ row h.record).1
  refine Tables.lookup_eq_none.mpr fun other hother heq => ?_
  obtain ⟨heval, hnumber⟩ := Prod.mk.inj heq
  rw [h.event_eq] at heval hnumber
  change other.evaluationId = row.recordJson.evaluationId at heval
  rw [hid] at heval
  have hmem : other ∈ logOf tables.events request.evaluationId := mem_logOf.mpr ⟨hother, heval⟩
  refine (hs.2.numbered request.evaluationId).id_ne_next eventIdOf_injective hmem ?_
  rw [hnumber]
  change eventIdOf (((tables.loadStore collation).eventsOf row.recordJson.evaluationId).length + 1) = _
  rw [hid, length_eventsOf_loadStore]

section Appended

variable {row : PolicyEvaluationRecordRow}

theorem AppendRecords.evaluationId_eq (hs : tables.Sound)
    (h : AppendRecords services collation tables request drawn event row) :
    event.evaluationId = request.evaluationId := by
  rw [h.event_eq]
  exact (hs.2.recorded _ row h.record).1

theorem AppendRecords.step (hs : tables.Sound)
    (h : AppendRecords services collation tables request drawn event row) :
    (tables.loadStore collation).Step request.key? event
      (appendedStore services collation tables request event row) :=
  PolicyEvaluationRecordStore.step_of_append ((append_loadStore hs).mpr (.recorded row h))

theorem wellKeyed_appendedStore (hs : tables.Sound)
    (hrow : recordOf tables.records request.evaluationId = some row) :
    WellKeyed (appendedStore services collation tables request event row) := by
  have hk : WellKeyed (tables.loadStore collation) := wellKeyed_loadStore hs.1
  refine ⟨fun item hitem => ?_, Dict.nodup_keys_set hk.records, ?_⟩
  · obtain ⟨evaluationId, record⟩ := item
    rcases Dict.mem_set hitem with ⟨rfl, rfl⟩ | ⟨-, hold⟩
    · rw [attach_evaluationId]
      exact (hs.2.recorded _ row hrow).1
    · exact hk.own _ hold
  · rw [appendedStore, PolicyEvaluationRecordStore.putAppended]
    cases request.key? with
    | none => exact hk.keys
    | some key => exact Dict.nodup_keys_set hk.keys

/-- The events of its evaluation are those that were read, and the new one. -/
theorem eventsOf_appendedStore (evaluationId : String) :
    (appendedStore services collation tables request event row).eventsOf evaluationId =
      (tables.loadStore collation).eventsOf evaluationId ++
        if request.evaluationId = evaluationId then [event] else [] := by
  rw [PolicyEvaluationRecordStore.eventsOf, appendedStore, PolicyEvaluationRecordStore.putAppended,
    Dict.get?_set]
  split
  · next heq => rw [Option.getD_some, heq]
  · rw [List.append_nil, PolicyEvaluationRecordStore.eventsOf]

theorem AppendRecords.eventCreatedAt_eq (hs : tables.Sound) {requestHash : String}
    (h : AppendRecords services collation tables request drawn event row) :
    eventCreatedAt (appendedStore services collation tables request event row)
      ⟨requestHash, request.evaluationId, event.eventId⟩ = event.occurredAt := by
  have hold := find?_eventsOf_loadStore collation request.evaluationId event.eventId hs.1
  rw [← h.evaluationId_eq hs] at hold
  rw [eventCreatedAt, eventsOf_appendedStore, if_pos rfl, List.find?_append,
    ← h.evaluationId_eq hs, hold]
  rw [show (event.evaluationId, event.eventId) = eventKey event from rfl, h.lookup_eq_none hs]
  simp

/-- Its key is bound to the new event. -/
theorem get?_appendedStore_key {key : String} (hkey : key ∈ request.key?) :
    Dict.get? (appendedStore services collation tables request event row).idempotency key =
      some ⟨request.requestHash services row.recordJson.evaluationHash, request.evaluationId,
        event.eventId⟩ := by
  rw [appendedStore, PolicyEvaluationRecordStore.putAppended, Option.mem_def.mp hkey]
  exact Dict.get?_set_self

theorem get?_appendedStore_other {key : String} (hkey : key ∉ request.key?) :
    Dict.get? (appendedStore services collation tables request event row).idempotency key =
      Dict.get? (tables.loadStore collation).idempotency key := by
  rw [appendedStore, PolicyEvaluationRecordStore.putAppended]
  rcases hown : request.key? with _ | own
  · rfl
  · refine Dict.get?_set_of_ne fun heq => hkey ?_
    rw [hown, heq]
    rfl

end Appended

/-- A new event is saved to tables that still have the rows of its snapshot. -/
theorem exists_save_recorded (hs : tables.Sound) (hs' : tables'.Sound)
    (hsame : Unchanged tables tables') {row : PolicyEvaluationRecordRow}
    (h : AppendRecords services collation tables request drawn event row) :
    ∃ saved, saveSnapshot tables' (appendedStore services collation tables request event row) =
        .ok saved ∧ Recorded services tables' request event row saved := by
  have hk : WellKeyed (appendedStore services collation tables request event row) :=
    wellKeyed_appendedStore hs h.record
  have hnew : ∀ other ∈ (appendedStore services collation tables request event row).events.flatMap
      Prod.snd, other ∈ tables'.events ∨ other = event := by
    intro other hother
    rw [hsame.events]
    exact ((h.step hs).mem_events hother).imp_left (mem_events_loadStore hs)
  have hfree : Tables.lookup eventKey tables'.events (eventKey event) = none :=
    hsame.events ▸ h.lookup_eq_none hs
  have hrecord : Dict.get? (appendedStore services collation tables request event row).records
      request.evaluationId = some (attachPolicyEvaluationEvent row.recordJson event) :=
    Dict.get?_set_self
  obtain ⟨saved, hsaved⟩ : ∃ saved, saveSnapshot tables'
      (appendedStore services collation tables request event row) = .ok saved := by
    refine exists_saveSnapshot "" hs'.1 hk ?_ hnew (.inr hfree) ?_ ?_
    · rintro ⟨evaluationId, record⟩ hitem
      rw [eventsOf_appendedStore, List.length_append, length_eventsOf_loadStore, hsame.events,
        hsame.records]
      rcases Dict.mem_set hitem with ⟨rfl, rfl⟩ | ⟨-, hold⟩
      · refine .inl ⟨row, h.record, ?_, Nat.le_add_right _ _⟩
        rw [attach_evaluationHash]
        exact (hs.1.copied row (Tables.lookup_some h.record).1).2.1.symm
      · obtain ⟨stored, hstored, -, hhash⟩ := mem_records_loadStore hs.1 hold
        exact .inl ⟨stored, hstored, hhash, Nat.le_add_right _ _⟩
    · rw [h.evaluationId_eq hs, hrecord]
      rfl
    · rintro ⟨key, bound⟩ hitem records hrecords
      rw [hsame.keys]
      have hget := Dict.get?_of_mem hk.keys hitem
      by_cases hkey : key ∈ request.key?
      · rw [get?_appendedStore_key hkey] at hget
        obtain rfl := Option.some.inj hget
        rw [h.free key hkey, Option.elim_none, hrecords, hrecord]
        rfl
      · rw [get?_appendedStore_other hkey] at hget
        obtain ⟨stored, hstored, hbound⟩ :=
          mem_idempotency_loadStore hs.1 (Dict.mem_of_get? hget)
        rw [hstored]
        exact .inl hbound
  refine ⟨saved, hsaved, ?_⟩
  obtain ⟨hrecords, hkeys⟩ := lookups_of_save collation hs hs' hsame hk hsaved
  obtain ⟨hallRecords, hallKeys⟩ := lookups_of_saveSnapshot hk hsaved
  constructor
  · rw [hallRecords, hrecord, Option.elim_some, mergedRecord, attach_evaluationId,
      (hs.2.recorded _ row h.record).1, hsame.records, h.record]
    rfl
  · intro evaluationId hne
    exact hrecords evaluationId (Dict.get?_set_of_ne hne.symm)
  · obtain ⟨hevents, hstored⟩ := (saved_of_saveSnapshot hsaved).events event hnew
    rcases hevents with heq | ⟨-, heq⟩
    · have hmem := hstored event (h.step hs).event_mem
      rw [heq] at hmem
      exact absurd rfl (Tables.lookup_eq_none.mp hfree event hmem)
    · exact heq
  · intro key hkey
    rw [hallKeys, get?_appendedStore_key hkey, Option.elim_some, mergedKey, hsame.keys, h.free key hkey,
      h.eventCreatedAt_eq hs]
    rfl
  · intro key hkey
    exact hkeys key (get?_appendedStore_other hkey)

/-- A snapshot cannot be saved to tables that have got another event for one of its evaluations. -/
theorem save_conflict {snapshot : PolicyEvaluationRecordStore} (hk : WellKeyed snapshot)
    (hrows : ∀ item ∈ snapshot.records, ∃ row ∈ recordOf tables.records item.1,
      row.evaluationHash = item.2.evaluationHash)
    (hstale : ∃ item ∈ snapshot.records,
      (snapshot.eventsOf item.1).length < (logOf tables.events item.1).length) :
    saveSnapshot tables snapshot =
      .error (.idempotencyConflict "POLICY_EVALUATION_RECORD_CONFLICT") := by
  -- every stored row stays with its hash, so that only the count can fail
  let I : List PolicyEvaluationRecordRow → Prop := fun records => ∀ item ∈ snapshot.records,
    ∃ row ∈ recordOf records item.1, row.evaluationHash = item.2.evaluationHash
  have hcheck : ∀ before, I before → ∀ item ∈ snapshot.records,
      checkRecord before tables.events item.2 (snapshot.eventsOf item.2.evaluationId).length =
        require ((logOf tables.events item.1).length ≤ (snapshot.eventsOf item.1).length)
          (.idempotencyConflict "POLICY_EVALUATION_RECORD_CONFLICT") := by
    intro before hbefore item hitem
    obtain ⟨row, hrow, hhash⟩ := hbefore item hitem
    rw [checkRecord, hk.own item hitem, Option.mem_def.mp hrow]
    simp only [hhash, true_and]
  have hfold : snapshot.records.foldlM (fun records item =>
      upsertPolicyEvaluationRecord records tables.events item.2
        (snapshot.eventsOf item.2.evaluationId).length) tables.records =
      .error (.idempotencyConflict "POLICY_EVALUATION_RECORD_CONFLICT") := by
    refine foldlM_eq_error (I := I) ?_ hrows ?_ ?_
    · intro before item after hitem hbefore hupsert other hother
      obtain ⟨_, -, rfl⟩ := map_eq_ok.mp hupsert
      obtain ⟨row, hrow, hhash⟩ := hbefore other hother
      rw [recordOf_upsertWith, Option.mem_def.mp hrow]
      split
      · exact ⟨_, rfl, hhash⟩
      · exact ⟨row, rfl, hhash⟩
    · intro before item error hitem hbefore herror
      rw [upsertPolicyEvaluationRecord, hcheck before hbefore item hitem] at herror
      unfold require at herror
      split at herror
      · cases herror
      · exact (Except.error.inj herror).symm
    · obtain ⟨item, hitem, hcount⟩ := hstale
      refine ⟨item, hitem, fun before hbefore => ?_⟩
      rw [upsertPolicyEvaluationRecord, hcheck before hbefore item hitem,
        require_false (Nat.not_le.mpr hcount)]
      rfl
  rw [saveSnapshot, hfold]
  rfl

/-- What an append leaves: the tables as they were when it replays a stored event, and otherwise a
new event, its record and its key. -/
inductive Effect (services : PolicyServices Catalog) (tables : PolicyEvaluationTables)
    (request : AppendEventRequest) (event : PolicyEvaluationAuditEvent)
    (tables' : PolicyEvaluationTables) : Prop
  | unchanged (stored : event ∈ tables.events) (same : Unchanged tables tables') :
    Effect services tables request event tables'
  | recorded (row : PolicyEvaluationRecordRow)
    (record : recordOf tables.records request.evaluationId = some row)
    (own : event.evaluationId = request.evaluationId) (new : event ∉ tables.events)
    (recorded : Recorded services tables request event row tables') :
    Effect services tables request event tables'

section Effects

variable {snapshot : PolicyEvaluationRecordStore} {row : PolicyEvaluationRecordRow}

theorem SavedBy.wellKeyed (hs : tables.Sound)
    (h : SavedBy services collation tables request drawn event snapshot) : WellKeyed snapshot := by
  cases h with
  | replayed => exact wellKeyed_loadStore hs.1
  | recorded row h => exact wellKeyed_appendedStore hs h.record

/-- The snapshot of an append can be saved as long as the rows are those that it has read. -/
theorem SavedBy.exists_save (hs : tables.Sound) (hs' : tables'.Sound)
    (hsame : Unchanged tables tables')
    (h : SavedBy services collation tables request drawn event snapshot) :
    ∃ saved, saveSnapshot tables' snapshot = .ok saved ∧
      Effect services tables' request event saved := by
  cases h with
  | replayed row bound key h =>
    have hmem : event ∈ tables.events := (Tables.lookup_some h.found).1
    obtain ⟨saved, hsaved, hunchanged⟩ := exists_save_unchanged hs hs' hsame hmem
    exact ⟨saved, hsaved, .unchanged (hsame.events ▸ hmem) hunchanged⟩
  | recorded row h =>
    obtain ⟨saved, hsaved, hrecorded⟩ := exists_save_recorded hs hs' hsame h
    refine ⟨saved, hsaved, .recorded row ?_ (h.evaluationId_eq hs) ?_ hrecorded⟩
    · rw [hsame.records]
      exact h.record
    · rw [hsame.events]
      exact fun hmem => Tables.lookup_eq_none.mp (h.lookup_eq_none hs) event hmem rfl

/-- An append that nobody interrupts. -/
theorem runDurable_append (hs : tables.Sound)
    (h : runDurable services collation tables drawn (.appendEvent request) =
      .ok (.appended event, tables')) :
    ∃ snapshot, (tables.loadStore collation).run services drawn (.appendEvent request) =
        .ok (.appended event, snapshot) ∧ saveSnapshot tables snapshot = .ok tables' ∧
      SavedBy services collation tables request drawn event snapshot ∧
      Effect services tables request event tables' := by
  obtain ⟨snapshot, hrun, hsave⟩ := runDurable_eq_ok.mp h
  obtain ⟨⟨_, after⟩, happend, heq⟩ := map_eq_ok.mp hrun
  obtain ⟨hanswer, rfl⟩ := Prod.mk.inj heq
  obtain rfl := PolicyEvaluationAnswer.appended.inj hanswer
  have hby := (append_loadStore hs).mp happend
  obtain ⟨saved, hsaved, heffect⟩ := hby.exists_save hs hs (.refl tables)
  obtain rfl := Except.ok.inj (hsave.symm.trans hsaved)
  exact ⟨after, hrun, hsave, hby, heffect⟩

theorem SavedBy.runDurable (hs : tables.Sound)
    (h : SavedBy services collation tables request drawn event snapshot) :
    ∃ saved, runDurable services collation tables drawn (.appendEvent request) =
        .ok (.appended event, saved) ∧ Effect services tables request event saved := by
  obtain ⟨saved, hsaved, heffect⟩ := h.exists_save hs hs (.refl tables)
  refine ⟨saved, runDurable_eq_ok.mpr ⟨snapshot, ?_, hsaved⟩, heffect⟩
  exact map_eq_ok.mpr ⟨(event, snapshot), (append_loadStore hs).mpr h, rfl⟩

theorem Effect.recordOf_eq (h : Effect services tables request event tables')
    (hne : evaluationId ≠ request.evaluationId) :
    recordOf tables'.records evaluationId = recordOf tables.records evaluationId := by
  cases h with
  | unchanged _ same => exact same.records evaluationId
  | recorded row _ _ _ h => exact h.records evaluationId hne

theorem Effect.keyOf_eq (h : Effect services tables request event tables') {key : String}
    (hkey : key ∉ request.key?) : tables'.keyOf key = tables.keyOf key := by
  cases h with
  | unchanged _ same => exact same.keys key
  | recorded row _ _ _ h => exact h.keys key hkey

theorem Effect.events_eq (h : Effect services tables request event tables') :
    tables'.events = tables.events ++ if event ∈ tables.events then [] else [event] := by
  cases h with
  | unchanged stored same => rw [if_pos stored, List.append_nil, same.events]
  | recorded row _ _ new h => rw [if_neg new, h.events]

theorem Effect.logOf_eq (h : Effect services tables request event tables')
    (hne : evaluationId ≠ request.evaluationId) :
    logOf tables'.events evaluationId = logOf tables.events evaluationId := by
  cases h with
  | unchanged _ same => rw [same.events]
  | recorded row _ own _ h => rw [h.events, logOf_concat, if_neg (own ▸ hne.symm)]

theorem Effect.logOf_concat (h : Effect services tables request event tables')
    (hnew : event ∉ tables.events) : logOf tables'.events request.evaluationId =
      logOf tables.events request.evaluationId ++ [event] := by
  cases h with
  | unchanged stored _ => exact absurd stored hnew
  | recorded row _ own _ h =>
    rw [h.events, PolicyEvaluationTables.logOf_concat, if_pos own]

/-- The records stay with their identifiers and their hashes. -/
theorem Effect.kept (h : Effect services tables request event tables')
    (hrow : recordOf tables.records evaluationId = some row) :
    ∃ row', recordOf tables'.records evaluationId = some row' ∧
      row'.recordJson.evaluationId = row.recordJson.evaluationId ∧
      row'.evaluationHash = row.evaluationHash := by
  by_cases hid : evaluationId = request.evaluationId
  · subst hid
    cases h with
    | unchanged _ same => exact ⟨row, (same.records _).trans hrow, rfl, rfl⟩
    | recorded own hown _ _ h =>
      obtain rfl := Option.some.inj (hown.symm.trans hrow)
      exact ⟨_, h.record, attach_evaluationId, rfl⟩
  · exact ⟨row, (h.recordOf_eq hid).trans hrow, rfl, rfl⟩

/-- What an append does not depend on an append to another evaluation before it. -/
theorem SavedBy.after (hs : tables.Sound) (hs' : tables'.Sound) {otherEvent : PolicyEvaluationAuditEvent}
    (heffect : Effect services tables other otherEvent tables')
    (hids : request.evaluationId ≠ other.evaluationId) (hkeys : ∀ key ∈ request.key?, key ∉ other.key?)
    (h : SavedBy services collation tables request drawn event snapshot) :
    ∃ snapshot', SavedBy services collation tables' request drawn event snapshot' := by
  cases h with
  | replayed row bound key h =>
    obtain ⟨bound', hbound', hid, -⟩ := heffect.kept h.evaluation
    refine ⟨_, .replayed row bound' key ⟨(heffect.recordOf_eq hids).trans h.record, h.authorized,
      h.key_eq, (heffect.keyOf_eq (hkeys _ h.key_eq)).trans h.stored, hbound', ?_, ?_⟩⟩
    · obtain ⟨hmem, hkey⟩ := Tables.lookup_some h.found
      rw [← hkey]
      refine Tables.lookup_of_mem hs'.1.distinct ?_
      rw [heffect.events_eq]
      exact List.mem_append_left _ hmem
    · -- of the evaluation of the bound event only its identifier is compared
      simpa only [matchesLegacyReplay, matchesLegacyEventStableReplay, hid] using h.same
  | recorded row h =>
    refine ⟨_, .recorded row ⟨(heffect.recordOf_eq hids).trans h.record, h.authorized, ?_, ?_⟩⟩
    · intro key hkey
      rw [heffect.keyOf_eq (hkeys key hkey)]
      exact h.free key hkey
    · have hid := (hs.2.recorded _ row h.record).1
      rw [h.event_eq]
      refine appendedEvent_congr ?_
      rw [hid, length_eventsOf_loadStore, length_eventsOf_loadStore, heffect.logOf_eq hids]

/-- A new event of another evaluation makes a snapshot stale. -/
theorem SavedBy.conflict (hs : tables.Sound) {otherEvent : PolicyEvaluationAuditEvent}
    (heffect : Effect services tables other otherEvent tables') (hnew : otherEvent ∉ tables.events)
    (hids : request.evaluationId ≠ other.evaluationId)
    (h : SavedBy services collation tables request drawn event snapshot) :
    saveSnapshot tables' snapshot =
      .error (.idempotencyConflict "POLICY_EVALUATION_RECORD_CONFLICT") := by
  have hother : ∃ row, recordOf tables.records other.evaluationId = some row := by
    cases heffect with
    | unchanged stored _ => exact absurd stored hnew
    | recorded row record => exact ⟨row, record⟩
  obtain ⟨otherRow, hother⟩ := hother
  have hread : Dict.get? (tables.loadStore collation).records other.evaluationId =
      some otherRow.recordJson := by
    rw [get?_loadStore_records hs.1, hother, Option.map_some]
  have hstale : ((tables.loadStore collation).eventsOf other.evaluationId).length <
      (logOf tables'.events other.evaluationId).length := by
    rw [length_eventsOf_loadStore, heffect.logOf_concat hnew, List.length_append]
    exact Nat.lt_succ_self _
  have hrows : ∀ item ∈ (tables.loadStore collation).records,
      ∃ row ∈ recordOf tables'.records item.1, row.evaluationHash = item.2.evaluationHash := by
    rintro ⟨evaluationId, record⟩ hitem
    obtain ⟨row, hrow, -, hhash⟩ := mem_records_loadStore hs.1 hitem
    obtain ⟨row', hrow', -, hhash'⟩ := heffect.kept hrow
    exact ⟨row', hrow', hhash'.trans hhash⟩
  refine save_conflict (h.wellKeyed hs) ?_ ?_
  · cases h with
    | replayed => exact hrows
    | recorded row h =>
      rintro ⟨evaluationId, record⟩ hitem
      rcases Dict.mem_set hitem with ⟨rfl, rfl⟩ | ⟨-, hold⟩
      · rw [heffect.recordOf_eq hids, h.record, attach_evaluationHash]
        exact ⟨row, rfl, (hs.1.copied row (Tables.lookup_some h.record).1).2.1.symm⟩
      · exact hrows _ hold
  · cases h with
    | replayed => exact ⟨_, Dict.mem_of_get? hread, hstale⟩
    | recorded row h =>
      refine ⟨(other.evaluationId, otherRow.recordJson), ?_, ?_⟩
      · refine Dict.mem_of_get? ?_
        rw [appendedStore, PolicyEvaluationRecordStore.putAppended, Dict.get?_set_of_ne hids, hread]
      · rw [eventsOf_appendedStore, if_neg hids, List.append_nil]
        exact hstale

/-- Two effects of one append, on tables that agree on what it touches, leave the same there. -/
theorem Effect.same_footprint {tables₁ tables₂ saved₁ saved₂ : PolicyEvaluationTables}
    (h₁ : Effect services tables₁ request event saved₁)
    (h₂ : Effect services tables₂ request event saved₂)
    (hmem : event ∈ tables₁.events ↔ event ∈ tables₂.events)
    (hrecord : recordOf tables₁.records request.evaluationId =
      recordOf tables₂.records request.evaluationId)
    (hkeys : ∀ key ∈ request.key?, tables₁.keyOf key = tables₂.keyOf key) :
    recordOf saved₁.records request.evaluationId = recordOf saved₂.records request.evaluationId ∧
      ∀ key ∈ request.key?, saved₁.keyOf key = saved₂.keyOf key := by
  cases h₁ with
  | unchanged stored₁ same₁ =>
    cases h₂ with
    | unchanged _ same₂ =>
      refine ⟨by rw [same₁.records, same₂.records, hrecord], fun key hkey => ?_⟩
      rw [same₁.keys, same₂.keys, hkeys key hkey]
    | recorded _ _ _ new₂ => exact absurd (hmem.mp stored₁) new₂
  | recorded row₁ record₁ _ new₁ recorded₁ =>
    cases h₂ with
    | unchanged stored₂ _ => exact absurd (hmem.mpr stored₂) new₁
    | recorded row₂ record₂ _ _ recorded₂ =>
      obtain rfl := Option.some.inj (record₁.symm.trans (hrecord.trans record₂))
      refine ⟨recorded₁.record.trans recorded₂.record.symm, fun key hkey => ?_⟩
      exact (recorded₁.key key hkey).trans (recorded₂.key key hkey).symm

theorem PolicyEvaluationTables.SameRows.refl (tables : PolicyEvaluationTables) : SameRows tables tables :=
  ⟨fun _ => rfl, fun _ => rfl, fun _ => rfl⟩

theorem PolicyEvaluationTables.SameRows.symm (h : SameRows tables tables') : SameRows tables' tables :=
  ⟨fun _ => (h.records _).symm, fun _ => (h.events _).symm, fun _ => (h.keys _).symm⟩

theorem PolicyEvaluationTables.SameRows.trans {tables'' : PolicyEvaluationTables} (h : SameRows tables tables')
    (h' : SameRows tables' tables'') : SameRows tables tables'' :=
  ⟨fun _ => (h.records _).trans (h'.records _), fun _ => (h.events _).trans (h'.events _),
    fun _ => (h.keys _).trans (h'.keys _)⟩

theorem Effect.sameRows {saved₁ saved₂ : PolicyEvaluationTables}
    (h₁ : Effect services tables request event saved₁)
    (h₂ : Effect services tables request event saved₂) : SameRows saved₁ saved₂ := by
  obtain ⟨hrecord, hkey⟩ := h₁.same_footprint h₂ Iff.rfl rfl fun _ _ => rfl
  refine ⟨fun evaluationId => ?_, fun key => ?_, fun key => ?_⟩
  · by_cases hid : evaluationId = request.evaluationId
    · rw [hid, hrecord]
    · rw [h₁.recordOf_eq hid, h₂.recordOf_eq hid]
  · rw [h₁.events_eq, h₂.events_eq]
  · by_cases hown : key ∈ request.key?
    · exact hkey key hown
    · rw [h₁.keyOf_eq hown, h₂.keyOf_eq hown]

/-- A new event of one evaluation is no event of another one. -/
theorem Effect.mem_events_iff {otherEvent : PolicyEvaluationAuditEvent}
    {first second : PolicyEvaluationTables} (hids : request.evaluationId ≠ other.evaluationId)
    (hfirst : Effect services tables request event first)
    (hsecond : Effect services tables other otherEvent second) :
    event ∈ tables.events ↔ event ∈ second.events := by
  rw [hsecond.events_eq, List.mem_append]
  refine ⟨.inl, fun h => h.elim id fun hmem => ?_⟩
  cases hfirst with
  | unchanged stored _ => exact stored
  | recorded _ _ own =>
    cases hsecond with
    | unchanged stored _ =>
      rw [if_pos stored] at hmem
      cases hmem
    | recorded _ _ own' new =>
      rw [if_neg new] at hmem
      obtain rfl := List.mem_singleton.mp hmem
      exact absurd (own.symm.trans own') hids

/-- Appends to different evaluations under different keys commute. -/
theorem Effect.commute {first second first₂ second₁ : PolicyEvaluationTables}
    {otherEvent : PolicyEvaluationAuditEvent} (hids : request.evaluationId ≠ other.evaluationId)
    (hkeys : ∀ key ∈ request.key?, key ∉ other.key?)
    (hfirst : Effect services tables request event first)
    (hboth : Effect services first other otherEvent second₁)
    (hsecond : Effect services tables other otherEvent second)
    (hback : Effect services second request event first₂) (hs : second₁.Sound) :
    SameRows second₁ first₂ := by
  have hmem := hfirst.mem_events_iff hids hsecond
  have hother := hsecond.mem_events_iff hids.symm hfirst
  have hkeys' : ∀ key ∈ other.key?, key ∉ request.key? := fun key hkey hown => hkeys key hown hkey
  -- each of the two sees its own part as it was at the beginning
  have hown := hfirst.same_footprint hback hmem (hsecond.recordOf_eq hids).symm fun key hkey =>
    (hsecond.keyOf_eq (hkeys key hkey)).symm
  have htheirs := hboth.same_footprint hsecond hother.symm (hfirst.recordOf_eq hids.symm)
    fun key hkey => hfirst.keyOf_eq (hkeys' key hkey)
  refine ⟨fun evaluationId => ?_, fun key => ?_, fun key => ?_⟩
  · by_cases hrequest : evaluationId = request.evaluationId
    · rw [hrequest, hboth.recordOf_eq hids, hown.1]
    · by_cases htheir : evaluationId = other.evaluationId
      · rw [htheir, hback.recordOf_eq hids.symm, htheirs.1]
      · rw [hboth.recordOf_eq htheir, hfirst.recordOf_eq hrequest, hback.recordOf_eq hrequest,
          hsecond.recordOf_eq htheir]
  · refine (Tables.lookup_perm hs.1.distinct ?_ key).symm
    have hthen : second₁.events =
        (tables.events ++ if event ∈ tables.events then [] else [event]) ++
          if otherEvent ∈ tables.events then [] else [otherEvent] := by
      rw [hboth.events_eq, ← hfirst.events_eq]
      simp only [hother]
    have hthen' : first₂.events =
        (tables.events ++ if otherEvent ∈ tables.events then [] else [otherEvent]) ++
          if event ∈ tables.events then [] else [event] := by
      rw [hback.events_eq, ← hsecond.events_eq]
      simp only [hmem]
    rw [hthen, hthen', List.append_assoc, List.append_assoc]
    exact List.perm_append_comm.append_left _
  · by_cases hrequest : key ∈ request.key?
    · rw [hboth.keyOf_eq (hkeys key hrequest), hown.2 key hrequest]
    · by_cases htheir : key ∈ other.key?
      · rw [hback.keyOf_eq hrequest, htheirs.2 key htheir]
      · rw [hboth.keyOf_eq htheir, hfirst.keyOf_eq hrequest, hback.keyOf_eq hrequest,
          hsecond.keyOf_eq htheir]

end Effects

end Spec

section Interleavings

variable {tables : PolicyEvaluationTables} (requests : Fin 2 → AppendEventRequest)
  (drawn : Fin 2 → Drawn Catalog) (events : Fin 2 → PolicyEvaluationAuditEvent)

/-- Two appends that are about to load. -/
def bothLoading (tables : PolicyEvaluationTables) : Pool PolicyEvaluationTables SnapshotStage :=
  ⟨tables, fun i => if h : i < 2 then some (.loading (.appendEvent (requests ⟨i, h⟩))) else none⟩

/-- The steps of an interleaving: each of the two takes its first step to load and its second one to
save. -/
def stepsOf (schedule : List (Fin 2)) : List (Label PolicyEvaluationCommand (Drawn Catalog)) :=
  schedule.map fun i : Fin 2 => .advance i.val (drawn i)

/-- Both have loaded before either saves. -/
def Overlaps (schedule : List (Fin 2)) : Prop := schedule[0]? ≠ schedule[1]?

instance (schedule : List (Fin 2)) : Decidable (Overlaps schedule) :=
  inferInstanceAs (Decidable (_ ≠ _))

/-- Both appends have returned their events, and the rows are those of the serial orders. -/
structure BothSucceed (serial : Fin 2 → PolicyEvaluationTables)
    (final : Pool PolicyEvaluationTables SnapshotStage) : Prop where
  returned : ∀ i : Fin 2,
    final.worker i.val = some (.returned (.appendEvent (requests i)) (.appended (events i)))
  store : ∀ i, SameRows final.store (serial i)

/-- The append that saved first has returned its event, and the other one is refused. -/
structure LastRefused (alone : Fin 2 → PolicyEvaluationTables) (first : Fin 2)
    (final : Pool PolicyEvaluationTables SnapshotStage) : Prop where
  returned : final.worker first.val =
    some (.returned (.appendEvent (requests first)) (.appended (events first)))
  raised : final.worker (first + 1).val = some (.raised (.appendEvent (requests (first + 1)))
    (.idempotencyConflict "POLICY_EVALUATION_RECORD_CONFLICT"))
  store : final.store = alone first

section Steps

variable {pool : Pool PolicyEvaluationTables SnapshotStage} {i : ℕ} {reading : Drawn Catalog}
  {command : PolicyEvaluationCommand} {answer : PolicyEvaluationAnswer} {error : PolicyPackError}
  {snapshot : PolicyEvaluationRecordStore} {saved : PolicyEvaluationTables}

theorem next_loading (hi : pool.worker i = some (.loading command))
    (h : (pool.store.loadStore collation).run services reading command = .ok (answer, snapshot)) :
    (snapshotEvaluations services collation).next pool (.advance i reading) =
      some (pool.moved i pool.store (.saving command answer snapshot)) := by
  refine Program.next_advance _ hi ?_
  simp only [snapshotEvaluations, stepSnapshot, h]

theorem next_saving (hi : pool.worker i = some (.saving command answer snapshot))
    (h : saveSnapshot pool.store snapshot = .ok saved) :
    (snapshotEvaluations services collation).next pool (.advance i reading) =
      some (pool.moved i saved (.returned command answer)) := by
  refine Program.next_advance _ hi ?_
  simp only [snapshotEvaluations, stepSnapshot, h]

theorem next_refused (hi : pool.worker i = some (.saving command answer snapshot))
    (h : saveSnapshot pool.store snapshot = .error error) :
    (snapshotEvaluations services collation).next pool (.advance i reading) =
      some (pool.moved i pool.store (.raised command error)) := by
  refine Program.next_advance _ hi ?_
  simp only [snapshotEvaluations, stepSnapshot, h]

end Steps

/-- The interleavings of two loads and two saves. -/
theorem schedule_cases {schedule : List (Fin 2)} (h : schedule.Perm [0, 0, 1, 1]) :
    (∃ i, schedule = [i, i, i + 1, i + 1]) ∨ ∃ i j, schedule = [i, i + 1, j, j + 1] := by
  have hall : ∀ a b c d : Fin 2, [a, b, c, d].Perm [0, 0, 1, 1] →
      (∃ i, [a, b, c, d] = [i, i, i + 1, i + 1]) ∨ ∃ i j, [a, b, c, d] = [i, i + 1, j, j + 1] := by
    decide
  rcases schedule with _ | ⟨a, _ | ⟨b, _ | ⟨c, _ | ⟨d, _ | ⟨e, rest⟩⟩⟩⟩⟩
  · simpa using h.length_eq
  · simpa using h.length_eq
  · simpa using h.length_eq
  · simpa using h.length_eq
  · exact hall a b c d h
  · simpa using h.length_eq

section Schedules

variable {requests drawn events}

theorem worker_bothLoading (i : Fin 2) : (bothLoading requests tables).worker i.val =
    some (.loading (.appendEvent (requests i))) :=
  dif_pos i.isLt

theorem val_ne_val_add_one (i : Fin 2) : (i + 1).val ≠ i.val := by
  revert i
  decide

theorem add_one_add_one (i : Fin 2) : i + 1 + 1 = i := by
  revert i
  decide

theorem eq_or_eq_add_one (i j : Fin 2) : j = i ∨ j = i + 1 := by
  revert i j
  decide

/-- One append after the other. -/
theorem run_serial {first second : PolicyEvaluationTables}
    {snapshot snapshot' : PolicyEvaluationRecordStore} (i : Fin 2)
    (hload : (tables.loadStore collation).run services (drawn i) (.appendEvent (requests i)) =
      .ok (.appended (events i), snapshot))
    (hsave : saveSnapshot tables snapshot = .ok first)
    (hload' : (first.loadStore collation).run services (drawn (i + 1))
      (.appendEvent (requests (i + 1))) = .ok (.appended (events (i + 1)), snapshot'))
    (hsave' : saveSnapshot first snapshot' = .ok second) :
    ∃ final, run (snapshotEvaluations services collation).next (bothLoading requests tables)
        (stepsOf drawn [i, i, i + 1, i + 1]) = some final ∧ final.store = second ∧
      ∀ j, final.worker j.val = some (.returned (.appendEvent (requests j)) (.appended (events j))) := by
  have hne := val_ne_val_add_one i
  simp only [stepsOf, List.map_cons, List.map_nil]
  refine ⟨_, run_cons_eq_some.mpr ⟨_, next_loading (worker_bothLoading i) hload,
    run_cons_eq_some.mpr ⟨_, next_saving Pool.moved_worker_self hsave,
      run_cons_eq_some.mpr ⟨_, next_loading ?_ hload',
        run_cons_eq_some.mpr ⟨_, next_saving Pool.moved_worker_self hsave', rfl⟩⟩⟩⟩, rfl,
    fun j => ?_⟩
  · rw [Pool.moved_worker_of_ne hne, Pool.moved_worker_of_ne hne]
    exact worker_bothLoading (i + 1)
  · rcases eq_or_eq_add_one i j with rfl | rfl
    · rw [Pool.moved_worker_of_ne hne.symm, Pool.moved_worker_of_ne hne.symm,
        Pool.moved_worker_self]
    · exact Pool.moved_worker_self

/-- Both appends have loaded what the other one is going to change. -/
theorem run_overlapping {snapshots : Fin 2 → PolicyEvaluationRecordStore}
    (hload : ∀ i, (tables.loadStore collation).run services (drawn i) (.appendEvent (requests i)) =
      .ok (.appended (events i), snapshots i)) (i j : Fin 2) {first : PolicyEvaluationTables}
    (hsave : saveSnapshot tables (snapshots j) = .ok first) :
    ∃ both, run (snapshotEvaluations services collation).next (bothLoading requests tables)
        (stepsOf drawn [i, i + 1, j]) = some both ∧ both.store = first ∧
      both.worker j.val =
        some (.returned (.appendEvent (requests j)) (.appended (events j))) ∧
      both.worker (j + 1).val =
        some (.saving (.appendEvent (requests (j + 1))) (.appended (events (j + 1)))
          (snapshots (j + 1))) := by
  have hne := val_ne_val_add_one i
  have hsaving : ∀ k, (((bothLoading requests tables).moved i tables
      (.saving (.appendEvent (requests i)) (.appended (events i)) (snapshots i))).moved (i + 1).val
      tables (.saving (.appendEvent (requests (i + 1))) (.appended (events (i + 1)))
        (snapshots (i + 1)))).worker k.val =
      some (.saving (.appendEvent (requests k)) (.appended (events k)) (snapshots k)) := by
    intro k
    rcases eq_or_eq_add_one i k with rfl | rfl
    · rw [Pool.moved_worker_of_ne hne.symm, Pool.moved_worker_self]
    · exact Pool.moved_worker_self
  simp only [stepsOf, List.map_cons, List.map_nil]
  refine ⟨_, run_cons_eq_some.mpr ⟨_, next_loading (worker_bothLoading i) (hload i),
    run_cons_eq_some.mpr ⟨_, next_loading ?_ (hload (i + 1)),
      run_cons_eq_some.mpr ⟨_, next_saving (hsaving j) hsave, rfl⟩⟩⟩, rfl,
    Pool.moved_worker_self, ?_⟩
  · rw [Pool.moved_worker_of_ne hne]
    exact worker_bothLoading (i + 1)
  · rw [Pool.moved_worker_of_ne (val_ne_val_add_one j)]
    exact hsaving (j + 1)

end Schedules

/-- In every interleaving of the load and the save of two appends to different evaluations, each of
which would succeed alone, both succeed and leave the rows of the serial orders, which are the same;
unless both have loaded before either saves and the first one to save records a new event: then the
other one is refused, and leaves what the first one has saved. -/
theorem appends_interleave {labels : List (Label PolicyEvaluationCommand (Drawn Catalog))}
    {pool : Pool PolicyEvaluationTables SnapshotStage}
    (hreached : run (snapshotEvaluations services collation).next (.initial .empty) labels =
      some pool)
    (alone : Fin 2 → PolicyEvaluationTables)
    (hids : (requests 0).evaluationId ≠ (requests 1).evaluationId)
    (hkeys : ∀ key ∈ (requests 0).key?, key ∉ (requests 1).key?)
    (halone : ∀ i, runDurable services collation pool.store (drawn i) (.appendEvent (requests i)) =
      .ok (.appended (events i), alone i)) :
    ∃ serial : Fin 2 → PolicyEvaluationTables,
      (∀ i, runDurable services collation (alone i) (drawn (i + 1))
        (.appendEvent (requests (i + 1))) = .ok (.appended (events (i + 1)), serial i)) ∧
      SameRows (serial 0) (serial 1) ∧
      ∀ schedule : List (Fin 2), schedule.Perm [0, 0, 1, 1] → ∃ final,
        run (snapshotEvaluations services collation).next (bothLoading requests pool.store)
          (stepsOf drawn schedule) = some final ∧
        ∀ last ∈ schedule.getLast?,
          if Overlaps schedule ∧ events (last + 1) ∉ pool.store.events then
            LastRefused requests events alone (last + 1) final
          else BothSucceed requests events serial final := by
  have hs : pool.store.Sound := sound_of_run hreached
  have hids' : ∀ i : Fin 2, (requests (i + 1)).evaluationId ≠ (requests i).evaluationId :=
    Fin.forall_fin_two.mpr ⟨hids.symm, hids⟩
  have hkeys' : ∀ i : Fin 2, ∀ key ∈ (requests (i + 1)).key?, key ∉ (requests i).key? :=
    Fin.forall_fin_two.mpr ⟨fun key h₁ h₀ => hkeys key h₀ h₁, hkeys⟩
  choose snapshots hload hsave hby heffect using fun i => runDurable_append hs (halone i)
  have halones : ∀ i, (alone i).Sound := fun i => hs.runDurable (halone i)
  have hnext : ∀ i, ∃ saved, runDurable services collation (alone i) (drawn (i + 1))
        (.appendEvent (requests (i + 1))) = .ok (.appended (events (i + 1)), saved) ∧
      Effect services (alone i) (requests (i + 1)) (events (i + 1)) saved := by
    intro i
    obtain ⟨snapshot, hafter⟩ := (hby (i + 1)).after hs (halones i) (heffect i) (hids' i) (hkeys' i)
    exact hafter.runDurable (halones i)
  choose serial hserial hserialEffect using hnext
  have hback : ∀ i, Effect services (alone (i + 1)) (requests i) (events i) (serial (i + 1)) := by
    intro i
    have := hserialEffect (i + 1)
    rwa [add_one_add_one] at this
  have hcommute : ∀ i, SameRows (serial i) (serial (i + 1)) := fun i =>
    Effect.commute (hids' i).symm (fun key hkey hother => hkeys' i key hother hkey) (heffect i)
      (hserialEffect i) (heffect (i + 1)) (hback i) ((halones i).runDurable (hserial i))
  refine ⟨serial, hserial, hcommute 0, fun schedule hschedule => ?_⟩
  rcases schedule_cases hschedule with ⟨i, rfl⟩ | ⟨i, j, rfl⟩
  · obtain ⟨snapshot', hload', hsave', -⟩ := runDurable_append (halones i) (hserial i)
    obtain ⟨final, hfinal, hstore, hreturned⟩ := run_serial i (hload i) (hsave i) hload' hsave'
    refine ⟨final, hfinal, fun last _ => ?_⟩
    rw [if_neg (fun h => h.1 rfl)]
    refine ⟨hreturned, fun k => ?_⟩
    rw [hstore]
    rcases eq_or_eq_add_one i k with rfl | rfl
    · exact .refl _
    · exact hcommute i
  · obtain ⟨both, hboth, hstore, hreturned, hsaving⟩ := run_overlapping hload i j (hsave j)
    have hlastStep : ∀ final, (snapshotEvaluations services collation).next both
        (.advance (j + 1).val (drawn (j + 1))) = some final →
        run (snapshotEvaluations services collation).next (bothLoading requests pool.store)
          (stepsOf drawn ([i, i + 1, j] ++ [j + 1])) = some final := by
      intro final hfinal
      rw [stepsOf, List.map_append]
      exact run_concat_eq_some.mpr ⟨both, hboth, hfinal⟩
    have hne := (val_ne_val_add_one j).symm
    by_cases hnew : events j ∈ pool.store.events
    · -- the first one has changed nothing
      have hsame : Unchanged pool.store (alone j) := by
        cases heffect j with
        | unchanged _ same => exact same
        | recorded _ _ _ new => exact absurd hnew new
      obtain ⟨saved, hsaved, hsavedEffect⟩ := (hby (j + 1)).exists_save hs (halones j) hsame
      rw [← hstore] at hsaved
      refine ⟨_, hlastStep _ (next_saving hsaving hsaved), fun last hlast => ?_⟩
      have hlastIs : j + 1 = last := Option.some.inj hlast
      subst hlastIs
      rw [add_one_add_one, if_neg fun h => h.2 hnew]
      have hserials := hsavedEffect.sameRows (hserialEffect j)
      refine ⟨fun k => ?_, fun k => ?_⟩
      · rcases eq_or_eq_add_one j k with rfl | rfl
        · rw [Pool.moved_worker_of_ne hne, hreturned]
        · exact Pool.moved_worker_self
      · rcases eq_or_eq_add_one j k with rfl | rfl
        · exact hserials
        · exact hserials.trans (hcommute j)
    · have hrefused := (hby (j + 1)).conflict hs (heffect j) hnew (hids' j)
      rw [← hstore] at hrefused
      refine ⟨_, hlastStep _ (next_refused hsaving hrefused), fun last hlast => ?_⟩
      have hlastIs : j + 1 = last := Option.some.inj hlast
      subst hlastIs
      have hoverlaps : Overlaps [i, i + 1, j, j + 1] := by
        intro heq
        exact val_ne_val_add_one i (congrArg Fin.val (Option.some.inj heq)).symm
      rw [add_one_add_one, if_pos ⟨hoverlaps, hnew⟩]
      exact ⟨by rw [Pool.moved_worker_of_ne hne, hreturned], Pool.moved_worker_self, hstore⟩

end Interleavings

end Appends

namespace AppendSample

def textOf : Json → String
  | .str s => s
  | _ => ""

/-- A digest of the texts of an object, which begins with the proposal, so that the evaluations of
two proposals have different identifiers. -/
def digest : Json → String
  | .obj items => textOf (JsonObject.get items "proposal_id") ++
    items.foldl (fun digest kv => digest ++ textOf kv.2) ""
  | _ => ""

def services : PolicyServices Unit := { Sample.services with sha256 := digest }

def proposalOf (i : Fin 2) : String := if i = 0 then "pp_001" else "pp_002"

def evaluationIdFor (i : Fin 2) : String :=
  evaluationIdOf services (proposalOf i) "ppv_001" "SG_REFERENCE" "2026.05"
    (services.hashCanonicalPayload Sample.evidenceBundle)

/-- A finalization for a proposal, under the proposal's own key. -/
def finalize (i : Fin 2) : PolicyEvaluationCommand := .finalize
  { evidenceBundle := Sample.evidenceBundle
    policyPackId := "SG_REFERENCE"
    policyVersion := "2026.05"
    proposalId := proposalOf i
    proposalVersionId := "ppv_001"
    createdBy := "advisor_1"
    idempotencyKey := "finalize " ++ proposalOf i
    reason := [("trusted_principal", Sample.principal "advisor_1")] }

/-- A review of the evaluation of a proposal. -/
def review (i : Fin 2) : AppendEventRequest where
  evaluationId := evaluationIdFor i
  eventType := .reviewRecorded
  actorId := "compliance_1"
  reason := [("review_action", .str "REQUEST_MORE_EVIDENCE")]
  idempotencyKey := some ("review " ++ proposalOf i)

/-- Both proposals are evaluated, one after the other. -/
def setup : List (Label PolicyEvaluationCommand (Drawn Unit)) :=
  [.start 0 (finalize 0), .advance 0 (Sample.drawnAt 0), .advance 0 (Sample.drawnAt 0),
    .start 1 (finalize 1), .advance 1 (Sample.drawnAt 1), .advance 1 (Sample.drawnAt 1)]

def drawn (i : Fin 2) : Drawn Unit := Sample.drawnAt (2 + i.val)

def reached : Option (Pool PolicyEvaluationTables SnapshotStage) :=
  run (snapshotEvaluations services inferInstance).next (.initial .empty) setup

def raisedBy (pool : Pool PolicyEvaluationTables SnapshotStage) (i : ℕ) : Option PolicyPackError :=
  match pool.worker i with
  | some (.raised _ error) => some error
  | _ => none

/-- The review of a proposal's evaluation succeeds when it runs alone. -/
def SucceedsAlone (tables : PolicyEvaluationTables) (i : Fin 2) : Prop :=
  ((runDurable services inferInstance tables (drawn i) (.appendEvent (review i))).toOption.bind
    fun (answer, _) => match answer with
      | .appended event => some event
      | .finalized _ => none).isSome

instance (tables : PolicyEvaluationTables) (i : Fin 2) : Decidable (SucceedsAlone tables i) :=
  inferInstanceAs (Decidable (_ = _))

theorem SucceedsAlone.exists_saved {tables : PolicyEvaluationTables} {i : Fin 2}
    (h : SucceedsAlone tables i) : ∃ event saved,
      runDurable services inferInstance tables (drawn i) (.appendEvent (review i)) =
        .ok (.appended event, saved) := by
  obtain ⟨event, hevent⟩ := Option.isSome_iff_exists.mp h
  obtain ⟨⟨answer, saved⟩, hrun, hanswer⟩ := Option.bind_eq_some_iff.mp hevent
  cases answer with
  | appended found => exact ⟨found, saved, toOption_eq_some.mp hrun⟩
  | finalized => cases hanswer

/-- What happens when both reviews load before either saves. -/
def overlapping (tables : PolicyEvaluationTables) : Option (Pool PolicyEvaluationTables SnapshotStage) :=
  run (snapshotEvaluations services inferInstance).next (bothLoading review tables)
    (stepsOf drawn [0, 1, 0, 1])

/-- Two reviews of different evaluations succeed alone; when both load before either saves, the second
one to save is refused. -/
theorem overlapping_refused : ∃ pool, reached = some pool ∧
    (review 0).evaluationId ≠ (review 1).evaluationId ∧
    (∀ key ∈ (review 0).key?, key ∉ (review 1).key?) ∧
    (∀ i, ∃ event saved, runDurable services inferInstance pool.store (drawn i)
      (.appendEvent (review i)) = .ok (.appended event, saved)) ∧
    ∃ final, overlapping pool.store = some final ∧ raisedBy final 1 =
      some (.idempotencyConflict "POLICY_EVALUATION_RECORD_CONFLICT") := by
  have hview : reached.map (fun pool => (decide (∀ i, SucceedsAlone pool.store i),
      (overlapping pool.store).map fun final => raisedBy final 1)) =
      some (true, some (some (.idempotencyConflict "POLICY_EVALUATION_RECORD_CONFLICT"))) := by
    decide +kernel
  obtain ⟨pool, hpool, hview⟩ := Option.map_eq_some_iff.mp hview
  rw [Prod.mk.injEq, decide_eq_true_eq] at hview
  exact ⟨pool, hpool, by decide +kernel, by decide +kernel, fun i => (hview.1 i).exists_saved,
    Option.map_eq_some_iff.mp hview.2⟩

/-- The reviews one after the other. -/
theorem appends_interleave_reviews : ∃ pool, reached = some pool ∧
    ∃ events serial final, run (snapshotEvaluations services inferInstance).next
        (bothLoading review pool.store) (stepsOf drawn [0, 0, 1, 1]) = some final ∧
      BothSucceed review events serial final := by
  have hview : reached.map (fun pool => decide (∀ i, SucceedsAlone pool.store i)) = some true := by
    decide +kernel
  obtain ⟨pool, hpool, hview⟩ := Option.map_eq_some_iff.mp hview
  rw [decide_eq_true_eq] at hview
  choose events alone halone using fun i => (hview i).exists_saved
  obtain ⟨serial, -, -, hinterleave⟩ := appends_interleave review drawn events hpool alone (by decide +kernel)
    (by decide +kernel) halone
  obtain ⟨final, hfinal, hsucceed⟩ := hinterleave [0, 0, 1, 1] (List.Perm.refl _)
  exact ⟨pool, hpool, events, serial, final, hfinal, hsucceed 1 rfl⟩

end AppendSample

end LotusAdvise.PolicyPacks

import LotusAdvise.PolicyPacks.EvaluationAppends

/-! # Finalizations on whole snapshots

A finalization on a loaded snapshot finds its key free, replays the event that the key is
bound to, or may bind the key again; the index of identities is empty, so that it never
finds an evaluation of its identity. What it records carries the identity, the portfolio and
the reason of its request.
-/

namespace LotusAdvise.PolicyPacks

open PolicyEvaluationTables

section Requested

variable {Catalog : Type} (services : PolicyServices Catalog)

/-- An evaluation is made with the policy-pack version that it was asked for. -/
structure EvaluatesRequested : Prop where
  policyPackId : ∀ catalog evidenceBundle policyPackId policyVersion evaluation,
    services.evaluatePolicyPackVersion catalog evidenceBundle policyPackId policyVersion =
      .ok evaluation → evaluation.policyPack.policyPackId = policyPackId
  policyVersion : ∀ catalog evidenceBundle policyPackId policyVersion evaluation,
    services.evaluatePolicyPackVersion catalog evidenceBundle policyPackId policyVersion =
      .ok evaluation → evaluation.policyPack.policyVersion = policyVersion

/-- The identifier of the evaluation that a request asks for. -/
def FinalizeRequest.evaluationId (request : FinalizeRequest) : String :=
  evaluationIdOf services request.proposalId request.proposalVersionId request.policyPackId
    request.policyVersion (request.sourceEvidenceHash services)

/-- The columns of the unique constraint, of a record. -/
def PolicyEvaluationRecord.identity (record : PolicyEvaluationRecord) : PolicyEvaluationIdentity :=
  (PolicyEvaluationRecordRow.ofRecord record).identity

/-- What a record has of the request that it was built for. -/
structure PolicyEvaluationRecord.Requested (record : PolicyEvaluationRecord)
    (request : FinalizeRequest) : Prop where
  evaluationId : record.evaluationId = request.evaluationId services
  identity : record.identity = request.identity services
  portfolioId : portfolioIdFromEvidence request.evidenceBundle = .ok (some record.portfolioId)
  creationReason : record.replayMetadataJson.lookup "creation_reason" =
    some (.obj (replaySafeReason request.reason))

variable {services} {request : FinalizeRequest} {drawn : Drawn Catalog}
  {record : PolicyEvaluationRecord} {event : PolicyEvaluationAuditEvent}

theorem requested_of_build (hservices : EvaluatesRequested services)
    (h : request.buildRecord services drawn = .ok record) : record.Requested services request := by
  obtain ⟨evaluation, hevaluation, h⟩ := bind_eq_ok.mp h
  obtain ⟨policyContentHash, -, h⟩ := bind_eq_ok.mp h
  obtain ⟨portfolio, hportfolio, h⟩ := bind_eq_ok.mp h
  obtain ⟨portfolioId, hsome, h⟩ := bind_eq_ok.mp h
  obtain ⟨identity, -, h⟩ := bind_eq_ok.mp h
  have hpack := hservices.policyPackId _ _ _ _ _ hevaluation
  have hversion := hservices.policyVersion _ _ _ _ _ hevaluation
  cases portfolio with
  | none => cases hsome
  | some found =>
    obtain rfl := Except.ok.inj hsome
    cases h
    constructor
    · rw [FinalizeRequest.evaluationId, ← hpack, ← hversion]
    · rw [FinalizeRequest.identity, ← hpack, ← hversion]
      rfl
    · exact hportfolio
    · rfl

@[simp] theorem attach_identity : (attachPolicyEvaluationEvent record event).identity =
    record.identity := by
  unfold attachPolicyEvaluationEvent
  split <;> rfl

@[simp] theorem attach_portfolioId : (attachPolicyEvaluationEvent record event).portfolioId =
    record.portfolioId := by
  unfold attachPolicyEvaluationEvent
  split <;> rfl

end Requested

section Spec

variable {Catalog : Type} {services : PolicyServices Catalog} {collation : LinearOrder String}
  {tables : PolicyEvaluationTables} {request : FinalizeRequest} {drawn : Drawn Catalog}
  {result : PolicyEvaluationPersistenceResult} {snapshot : PolicyEvaluationRecordStore}

/-- What a finalization looks up under its key. -/
def FinalizeRequest.lookUp (services : PolicyServices Catalog) (collation : LinearOrder String)
    (tables : PolicyEvaluationTables) (request : FinalizeRequest) :
    Except PolicyPackError (Option (PolicyEvaluationAuditEvent × PolicyEvaluationRecord)) := do
  let portfolioId ← portfolioIdFromEvidence request.evidenceBundle
  (tables.loadStore collation).findReplayedEvent services request.idempotencyKey
    (request.requestHash services)
    (.finalization request portfolioId (request.sourceEvidenceHash services))

/-- The snapshot that a finalization with a new record saves. -/
def finalizedStore (services : PolicyServices Catalog) (collation : LinearOrder String)
    (tables : PolicyEvaluationTables) (request : FinalizeRequest) (drawn : Drawn Catalog)
    (record : PolicyEvaluationRecord) : PolicyEvaluationRecordStore :=
  (tables.loadStore collation).putFinalized services record request
    ((tables.loadStore collation).finalizedEvent services record request drawn)

/-- Everything a finalization can do with a snapshot. -/
inductive FinalizedBy (services : PolicyServices Catalog) (collation : LinearOrder String)
    (tables : PolicyEvaluationTables) (request : FinalizeRequest) (drawn : Drawn Catalog) :
    PolicyEvaluationPersistenceResult → PolicyEvaluationRecordStore → Prop
  | replayed (event : PolicyEvaluationAuditEvent) (record : PolicyEvaluationRecord)
    (found : request.lookUp services collation tables = .ok (some (event, record))) :
    FinalizedBy services collation tables request drawn
      { record, created := false, replayed := true, auditEvent := event }
      (tables.loadStore collation)
  | recorded (record : PolicyEvaluationRecord)
    (free : request.lookUp services collation tables = .ok none)
    (built : request.buildRecord services drawn = .ok record) :
    FinalizedBy services collation tables request drawn
      { record, created := true, replayed := false, auditEvent :=
          (tables.loadStore collation).finalizedEvent services record request drawn }
      (finalizedStore services collation tables request drawn record)

theorem finalize_loadStore :
    (tables.loadStore collation).finalizePolicyEvaluationRecord services request drawn =
        .ok (result, snapshot) ↔
      FinalizedBy services collation tables request drawn result snapshot := by
  constructor
  · intro h
    obtain ⟨portfolioId, hportfolio, h⟩ := bind_eq_ok.mp h
    obtain ⟨replayed, hreplayed, h⟩ := bind_eq_ok.mp h
    have hlookUp : request.lookUp services collation tables = .ok replayed :=
      bind_eq_ok.mpr ⟨portfolioId, hportfolio, hreplayed⟩
    split at h
    · next event record =>
      obtain ⟨rfl, rfl⟩ := Prod.mk.inj (Except.ok.inj h)
      exact .replayed event record hlookUp
    · next hindexed =>
      -- the index of a loaded snapshot is empty
      cases hindexed
    · obtain ⟨record, hbuilt, h⟩ := bind_eq_ok.mp h
      obtain ⟨rfl, rfl⟩ := Prod.mk.inj (Except.ok.inj h)
      exact .recorded record hlookUp hbuilt
  · rintro (⟨event, record, hfound⟩ | ⟨record, hfree, hbuilt⟩)
    · obtain ⟨portfolioId, hportfolio, hreplayed⟩ := bind_eq_ok.mp hfound
      exact bind_eq_ok.mpr ⟨_, hportfolio, bind_eq_ok.mpr ⟨_, hreplayed, rfl⟩⟩
    · obtain ⟨portfolioId, hportfolio, hreplayed⟩ := bind_eq_ok.mp hfree
      exact bind_eq_ok.mpr ⟨_, hportfolio, bind_eq_ok.mpr ⟨_, hreplayed,
        bind_eq_ok.mpr ⟨record, hbuilt, rfl⟩⟩⟩

end Spec

/-- The identity and the portfolio of a row are those of its record. -/
def PolicyEvaluationTables.Scoped (tables : PolicyEvaluationTables) : Prop :=
  ∀ row ∈ tables.records,
    row.recordJson.identity = row.identity ∧ row.recordJson.portfolioId = row.portfolioId

/-- No other evaluation is stored under the identifier of the requested one. -/
def FinalizeRequest.Identifies {Catalog : Type} (services : PolicyServices Catalog)
    (tables : PolicyEvaluationTables) (request : FinalizeRequest) : Prop :=
  ∀ row ∈ recordOf tables.records (request.evaluationId services),
    row.identity = request.identity services ∧
      portfolioIdFromEvidence request.evidenceBundle = .ok (some row.portfolioId)

instance {Catalog : Type} (services : PolicyServices Catalog) (tables : PolicyEvaluationTables)
    (request : FinalizeRequest) : Decidable (request.Identifies services tables) :=
  have (row : PolicyEvaluationRecordRow) : Decidable
      (portfolioIdFromEvidence request.evidenceBundle = .ok (some row.portfolioId)) :=
    decidable_of_iff _ toOption_eq_some
  inferInstanceAs (Decidable (∀ row ∈ recordOf tables.records (request.evaluationId services), _ ∧ _))

section Scoped

variable {Catalog : Type} {services : PolicyServices Catalog} {collation : LinearOrder String}
  {tables tables' : PolicyEvaluationTables} {snapshot : PolicyEvaluationRecordStore}
  {request : FinalizeRequest} {drawn : Drawn Catalog} {record : PolicyEvaluationRecord}
  {evaluationId : String}

theorem scoped_empty : PolicyEvaluationTables.empty.Scoped := fun _ h => by cases h

/-- A snapshot keeps the columns in agreement when its records are those that are stored, up to what
their columns do not have. -/
theorem PolicyEvaluationTables.Scoped.saved (hs : tables.Scoped) (hc : tables'.Coherent)
    (hk : WellKeyed snapshot)
    (hrecords : ∀ item ∈ snapshot.records, ∀ row ∈ recordOf tables.records item.1,
      item.2.identity = row.identity ∧ item.2.portfolioId = row.portfolioId)
    (h : saveSnapshot tables snapshot = .ok tables') : tables'.Scoped := by
  intro row hrow
  have hlookup := Tables.lookup_of_mem hc.keyed hrow
  have hsaved := (lookups_of_saveSnapshot hk h).1 row.evaluationId
  rw [recordOf, hlookup] at hsaved
  generalize row.evaluationId = evaluationId at hsaved
  rcases hget : Dict.get? snapshot.records evaluationId with _ | record
  · rw [hget] at hsaved
    exact hs row (Tables.lookup_some hsaved.symm).1
  · have hitem := Dict.mem_of_get? hget
    have hown : record.evaluationId = evaluationId := hk.own _ hitem
    rw [hget, Option.elim_some, mergedRecord, hown] at hsaved
    rcases hstored : recordOf tables.records evaluationId with _ | stored
    · rw [hstored] at hsaved
      rw [Option.some.inj hsaved]
      exact ⟨rfl, rfl⟩
    · rw [hstored] at hsaved
      rw [Option.some.inj hsaved]
      exact hrecords _ hitem stored hstored

theorem PolicyEvaluationTables.Scoped.read (hs : tables.Scoped) (hc : tables.Coherent)
    (h : (evaluationId, record) ∈ (tables.loadStore collation).records) :
    ∀ row ∈ recordOf tables.records evaluationId,
      record.identity = row.identity ∧ record.portfolioId = row.portfolioId := by
  intro row hrow
  obtain ⟨stored, hstored, rfl, -⟩ := mem_records_loadStore hc h
  obtain rfl := Option.mem_unique hrow hstored
  exact hs row (Tables.lookup_some hrow).1

theorem wellKeyed_finalizedStore (hc : tables.Coherent) :
    WellKeyed (finalizedStore services collation tables request drawn record) := by
  have hk : WellKeyed (tables.loadStore collation) := wellKeyed_loadStore hc
  refine ⟨fun item hitem => ?_, Dict.nodup_keys_set hk.records, Dict.nodup_keys_set hk.keys⟩
  obtain ⟨evaluationId, stored⟩ := item
  rcases Dict.mem_set hitem with ⟨rfl, rfl⟩ | ⟨-, hold⟩
  · rfl
  · exact hk.own _ hold

theorem FinalizedBy.wellKeyed {result : PolicyEvaluationPersistenceResult} (hc : tables.Coherent)
    (h : FinalizedBy services collation tables request drawn result snapshot) :
    WellKeyed snapshot := by
  cases h with
  | replayed => exact wellKeyed_loadStore hc
  | recorded => exact wellKeyed_finalizedStore hc

/-- Commands keep the columns in agreement as long as identifiers are not shared. -/
theorem PolicyEvaluationTables.Scoped.runDurable (hservices : EvaluatesRequested services)
    (hs : tables.Scoped) (hsound : tables.Sound) {command : PolicyEvaluationCommand}
    {answer : PolicyEvaluationAnswer}
    (hidentifies : ∀ request, command = .finalize request → request.Identifies services tables)
    (h : runDurable services collation tables drawn command = .ok (answer, tables')) :
    tables'.Scoped := by
  have hsound' := hsound.runDurable h
  obtain ⟨snapshot, hrun, hsave⟩ := runDurable_eq_ok.mp h
  cases command with
  | appendEvent request =>
    obtain ⟨⟨event, after⟩, happend, heq⟩ := map_eq_ok.mp hrun
    obtain ⟨-, rfl⟩ := Prod.mk.inj heq
    have hby := (append_loadStore hsound).mp happend
    refine hs.saved hsound'.1 (hby.wellKeyed hsound) ?_ hsave
    rintro ⟨evaluationId, record⟩ hitem
    cases hby with
    | replayed => exact hs.read hsound.1 hitem
    | recorded row h =>
      rcases Dict.mem_set hitem with ⟨rfl, rfl⟩ | ⟨-, hold⟩
      · intro stored hstored
        obtain rfl := Option.mem_unique h.record hstored
        rw [attach_identity, attach_portfolioId]
        exact hs row (Tables.lookup_some hstored).1
      · exact hs.read hsound.1 hold
  | finalize request =>
    obtain ⟨⟨result, after⟩, hfinalize, heq⟩ := map_eq_ok.mp hrun
    obtain ⟨-, rfl⟩ := Prod.mk.inj heq
    have hby := finalize_loadStore.mp hfinalize
    refine hs.saved hsound'.1 (hby.wellKeyed hsound.1) ?_ hsave
    rintro ⟨evaluationId, record⟩ hitem
    cases hby with
    | replayed => exact hs.read hsound.1 hitem
    | recorded new _ hbuilt =>
      have hrequested := requested_of_build hservices hbuilt
      rcases Dict.mem_set hitem with ⟨rfl, rfl⟩ | ⟨-, hold⟩
      · intro stored hstored
        rw [hrequested.evaluationId] at hstored
        obtain ⟨hidentity, hportfolio⟩ := hidentifies request rfl stored hstored
        refine ⟨hrequested.identity.trans hidentity.symm, ?_⟩
        exact Option.some.inj (Except.ok.inj (hrequested.portfolioId.symm.trans hportfolio))
      · exact hs.read hsound.1 hold

end Scoped

section Effects

variable {Catalog : Type} {services : PolicyServices Catalog} {collation : LinearOrder String}
  {tables tables' : PolicyEvaluationTables} {request : FinalizeRequest} {drawn : Drawn Catalog}
  {record : PolicyEvaluationRecord} {event : PolicyEvaluationAuditEvent}
  {result : PolicyEvaluationPersistenceResult}

/-- What a finalization that records an evaluation changes. -/
structure RecordedIn (services : PolicyServices Catalog) (tables : PolicyEvaluationTables)
    (request : FinalizeRequest) (record : PolicyEvaluationRecord)
    (event : PolicyEvaluationAuditEvent) (tables' : PolicyEvaluationTables) : Prop where
  stored : recordOf tables'.records record.evaluationId =
    some (mergedRecord tables.records record)
  records : ∀ evaluationId, evaluationId ≠ record.evaluationId →
    recordOf tables'.records evaluationId = recordOf tables.records evaluationId
  events : tables'.events = tables.events ++ [event]
  /-- Nothing but finalizations is stored for the evaluation. -/
  earlier : ∀ other ∈ logOf tables.events record.evaluationId, other.eventType = .finalized
  key : ∃ stored, tables'.keyOf request.idempotencyKey = some stored ∧ stored.bound =
    ⟨request.requestHash services, record.evaluationId, event.eventId⟩
  keys : ∀ key, key ≠ request.idempotencyKey → tables'.keyOf key = tables.keyOf key

theorem lookUp_mem (hc : tables.Coherent)
    (h : request.lookUp services collation tables = .ok (some (event, record))) :
    event ∈ tables.events := by
  obtain ⟨portfolioId, -, hreplayed⟩ := bind_eq_ok.mp h
  rcases (findReplayedEvent_loadStore hc).mp hreplayed with ⟨-, hnone⟩ |
    ⟨stored, bound, found, -, -, hfound, hrule⟩
  · cases hnone
  · split at hrule
    · obtain rfl := (Prod.mk.inj (Option.some.inj hrule)).1
      exact (Tables.lookup_some hfound).1
    · cases hrule.2

theorem finalizedEvent_lookup_eq_none (hs : tables.Sound) :
    Tables.lookup eventKey tables.events
      (eventKey ((tables.loadStore collation).finalizedEvent services record request drawn)) =
      none := by
  refine Tables.lookup_eq_none.mpr fun other hother heq => ?_
  obtain ⟨heval, hnumber⟩ := Prod.mk.inj heq
  change other.evaluationId = record.evaluationId at heval
  refine (hs.2.numbered record.evaluationId).id_ne_next eventIdOf_injective
    (mem_logOf.mpr ⟨hother, heval⟩) ?_
  rw [hnumber]
  change eventIdOf (((tables.loadStore collation).eventsOf record.evaluationId).length + 1) = _
  rw [length_eventsOf_loadStore]

/-- What a transaction does with the snapshot of a new record. -/
theorem recordedIn_of_save (hs : tables.Sound)
    (hbuilt : request.buildRecord services drawn = .ok record)
    (hfree : request.lookUp services collation tables = .ok none)
    (h : saveSnapshot tables (finalizedStore services collation tables request drawn record) =
      .ok tables') :
    RecordedIn services tables request record
      ((tables.loadStore collation).finalizedEvent services record request drawn) tables' := by
  have hk : WellKeyed (finalizedStore services collation tables request drawn record) :=
    wellKeyed_finalizedStore hs.1
  have hsaved := saved_of_saveSnapshot h
  obtain ⟨hrecords, hkeys⟩ := lookups_of_save collation hs hs (.refl tables) hk h
  obtain ⟨hallRecords, hallKeys⟩ := lookups_of_saveSnapshot hk h
  have hstep := PolicyEvaluationRecordStore.step_of_finalize
    (finalize_loadStore.mpr (.recorded record hfree hbuilt))
  have hown : Dict.get? (finalizedStore services collation tables request drawn record).records
      record.evaluationId = some record := Dict.get?_set_self
  constructor
  · rw [hallRecords, hown, Option.elim_some]
  · intro evaluationId hne
    exact hrecords evaluationId (Dict.get?_set_of_ne hne.symm)
  · obtain ⟨hevents, hstored⟩ := hsaved.events
      ((tables.loadStore collation).finalizedEvent services record request drawn)
      fun other hother => (hstep.mem_events hother).imp_left (mem_events_loadStore hs)
    rcases hevents with heq | ⟨-, heq⟩
    · have hmem := hstored _ hstep.event_mem
      rw [heq] at hmem
      exact absurd rfl
        (Tables.lookup_eq_none.mp (finalizedEvent_lookup_eq_none hs) _ hmem)
    · exact heq
  · obtain ⟨row, hrow⟩ := Option.isSome_iff_exists.mp
      (hsaved.stored (record.evaluationId, record) (Dict.mem_of_get? hown))
    intro other hother
    rcases hsaved.row _ row hrow with ⟨item, -, -, -, hguard⟩ | ⟨-, hother'⟩
    · refine hs.2.finalized_of_count ?_ hother
      rwa [PolicyEvaluationRecordStore.eventsOf, finalizedStore,
        PolicyEvaluationRecordStore.putFinalized, Dict.get?_set_self] at hguard
    · exact absurd rfl (hother' _ (Dict.mem_of_get? hown))
  · have hkey := hallKeys request.idempotencyKey
    rw [finalizedStore, PolicyEvaluationRecordStore.putFinalized, Dict.get?_set_self,
      Option.elim_some] at hkey
    refine ⟨_, hkey, ?_⟩
    unfold mergedKey
    cases tables.keyOf request.idempotencyKey <;> rfl
  · intro key hne
    exact hkeys key (Dict.get?_set_of_ne hne.symm)

/-- A finalization that nobody interrupts. -/
theorem runDurable_finalize (hs : tables.Sound)
    (h : runDurable services collation tables drawn (.finalize request) =
      .ok (.finalized result, tables')) :
    (∃ snapshot, FinalizedBy services collation tables request drawn result snapshot) ∧
      (result.created = false ∧ Unchanged tables tables' ∨ result.created = true ∧
        RecordedIn services tables request result.record result.auditEvent tables') := by
  obtain ⟨snapshot, hrun, hsave⟩ := runDurable_eq_ok.mp h
  obtain ⟨⟨_, after⟩, hfinalize, heq⟩ := map_eq_ok.mp hrun
  obtain ⟨hanswer, rfl⟩ := Prod.mk.inj heq
  obtain rfl := PolicyEvaluationAnswer.finalized.inj hanswer
  have hby := finalize_loadStore.mp hfinalize
  refine ⟨⟨after, hby⟩, ?_⟩
  cases hby with
  | replayed event record hfound =>
    obtain ⟨saved, hsaved, hunchanged⟩ :=
      exists_save_unchanged hs hs (.refl tables) (lookUp_mem hs.1 hfound)
    obtain rfl := Except.ok.inj (hsave.symm.trans hsaved)
    exact .inl ⟨rfl, hunchanged⟩
  | recorded record hfree hbuilt => exact .inr ⟨rfl, recordedIn_of_save hs hbuilt hfree hsave⟩

end Effects

end LotusAdvise.PolicyPacks

import LotusAdvise.Foundations.Dict
import LotusAdvise.Foundations.Text
import LotusAdvise.PolicyPacks.EventAuthority
import LotusAdvise.PolicyPacks.RecordBuilder

/-! # The store of policy evaluation records

Records, their audit events, the idempotency keys and an index of identities, with the two
commands on them. A command that finds its key bound to its own request answers with the
stored event; a key that is bound to another request is a conflict, unless the request
repairs a missing legal entity.
-/

namespace LotusAdvise.PolicyPacks

/-- What an idempotency key is bound to. -/
structure BoundRequest where
  requestHash : String
  evaluationId : String
  eventId : String
deriving DecidableEq

structure PolicyEvaluationIdentity where
  proposalId : String
  proposalVersionId : String
  policyPackId : String
  policyVersion : String
  sourceEvidenceHash : String
deriving DecidableEq

structure PolicyEvaluationRecordStore where
  records : Dict String PolicyEvaluationRecord
  events : Dict String (List PolicyEvaluationAuditEvent)
  idempotency : Dict String BoundRequest
  identityIndex : Dict PolicyEvaluationIdentity String

structure FinalizeRequest where
  evidenceBundle : JsonObject
  policyPackId : String
  policyVersion : String
  proposalId : String
  proposalVersionId : String
  createdBy : String
  idempotencyKey : String
  reason : JsonObject
  observedTraceId : Option String := none

structure AppendEventRequest where
  evaluationId : String
  eventType : PolicyEvaluationEventType
  actorId : String
  reason : JsonObject
  idempotencyKey : Option String
  authority : Option PolicyEvaluationEventAuthority := none

/-- What a command draws while it runs: two readings of the clock, and the states in which it reads
the policy-pack catalog. -/
structure Drawn (Catalog : Type) where
  generatedAt : UtcDateTime
  occurredAt : UtcDateTime
  evaluatedIn : Catalog
  describedIn : Catalog

variable {Catalog : Type} (services : PolicyServices Catalog)

section LegalEntityRepair

def normalizedNonEmpty : Json → Option String
  | .str s => some (Text.upper (Text.strip s)) |>.filter fun normalized => normalized ≠ ""
  | _ => none

def hasTrustedLegalEntityBindingRepairIntent (reason : JsonObject) : Bool :=
  match JsonObject.get reason "system_repair_intent" with
  | .obj intent =>
    JsonObject.get intent "repair_code" =
        .str "POLICY_EVALUATION_TRUSTED_LEGAL_ENTITY_BINDING_REPAIR" ∧
      JsonObject.get intent "source_gap" = .str "legal_entity_code" ∧
      JsonObject.get intent "authority_source" = .str "trusted_policy_control_principal"
  | _ => false

def applicabilityReasonCodes (record : PolicyEvaluationRecord) : List Json :=
  match nestedValue (.obj record.evaluationJson) ["applicability", "reason_codes"] with
  | .arr reasonCodes => reasonCodes
  | _ => []

def isLegalEntityGapBlockedRecord (record : PolicyEvaluationRecord) : Bool :=
  record.evaluationStatus = .blocked ∧ "legal_entity_code" ∈ record.sourceGaps ∧
    .str "POLICY_APPLICABILITY_LEGAL_ENTITY_SOURCE_MISSING" ∈ applicabilityReasonCodes record

def repairBaseReplaySafeReason (reason : JsonObject) : JsonObject :=
  (replaySafeReason reason).filter fun kv => kv.1 ≠ "system_repair_intent"

/-- The moment a record was generated at; a naive one is in UTC. -/
def generatedAtOf (record : PolicyEvaluationRecord) : Option DateTime :=
  (services.datetimeFromIsoformat (zuluOffset (Text.strip record.generatedAt))).map DateTime.orUtc

/-- The receipt of the request agrees with the stored one; where either fails, it does not. -/
def receiptIdentityMatchesRecord (record : PolicyEvaluationRecord)
    (evidenceBundle reason : JsonObject) (generatedAt : DateTime) : Bool :=
  match buildPolicyEvaluationReceiptIdentity services evidenceBundle record.proposalId
      record.proposalVersionId record.portfolioId reason none generatedAt,
    receiptIdentityFromRecord services record with
  | .ok incoming, .ok existing =>
    incoming.asOfDate = existing.asOfDate ∧ incoming.scopeIdentity = existing.scopeIdentity
  | _, _ => false

def repairTrustedPrincipalMatchesRecord (record : PolicyEvaluationRecord)
    (evidenceBundle reason : JsonObject) : Bool :=
  match JsonObject.get reason "trusted_principal" with
  | .obj principal =>
    match normalizedNonEmpty (JsonObject.get principal "subject"), generatedAtOf services record with
    | some subject, some generatedAt =>
      some subject = normalizedNonEmpty (.str record.createdBy) ∧
        receiptIdentityMatchesRecord services record evidenceBundle reason generatedAt
    | _, _ => false
  | _ => false

/-- The evidence without the legal entity of its policy context, where it has such a context. -/
def withoutLegalEntity (evidenceBundle : JsonObject) : Option JsonObject :=
  match evidenceBundle.lookup "context_resolution" with
  | some (.obj context) =>
    match context.lookup "advisory_policy_context" with
    | none => some evidenceBundle
    | some (.obj policyContext) =>
      some <| JsonObject.set evidenceBundle "context_resolution" <| .obj <|
        JsonObject.set context "advisory_policy_context" <| .obj <|
          policyContext.filter fun kv => kv.1 ≠ "legal_entity_code"
    | some _ => none
  | _ => some evidenceBundle

def repairChangesOnlyMissingLegalEntity (record : PolicyEvaluationRecord)
    (evidenceBundle : JsonObject) (sourceEvidenceHash : String) : Bool :=
  sourceEvidenceHash ≠ record.sourceEvidenceHash ∧
    ∃ comparable ∈ withoutLegalEntity evidenceBundle,
      services.hashCanonicalPayload comparable = record.sourceEvidenceHash

def evidenceLegalEntityMatchesTrustedPrincipal (evidenceBundle reason : JsonObject) : Bool :=
  match JsonObject.get reason "trusted_principal" with
  | .obj principal =>
    match normalizedNonEmpty (JsonObject.get principal "legal_entity_code") with
    | some expected => normalizedNonEmpty (nestedValue (.obj evidenceBundle)
        ["context_resolution", "advisory_policy_context", "legal_entity_code"]) = some expected
    | none => false
  | _ => false

end LegalEntityRepair

/-- What a bound key is compared with: a finalization, or an event of an evaluation. -/
inductive ReplayQuery where
  | finalization (request : FinalizeRequest) (portfolioId : Option String)
    (sourceEvidenceHash : String)
  | event (request : AppendEventRequest) (evaluationHash : String)

section Replays

def matchesRecordScope (record : PolicyEvaluationRecord) (request : FinalizeRequest)
    (portfolioId : Option String) : Bool :=
  record.proposalId = request.proposalId ∧ record.proposalVersionId = request.proposalVersionId ∧
    record.policyPackId = request.policyPackId ∧ record.policyVersion = request.policyVersion ∧
    some record.portfolioId = portfolioId

def canRepairTrustedLegalEntityGap (record : PolicyEvaluationRecord) (request : FinalizeRequest)
    (portfolioId : Option String) (sourceEvidenceHash : String) : Bool :=
  hasTrustedLegalEntityBindingRepairIntent request.reason ∧
    isLegalEntityGapBlockedRecord record ∧
    matchesRecordScope record request portfolioId ∧
    (JsonObject.get record.replayMetadataJson "creation_reason").canonical =
      (Json.obj (repairBaseReplaySafeReason request.reason)).canonical ∧
    repairTrustedPrincipalMatchesRecord services record request.evidenceBundle request.reason ∧
    repairChangesOnlyMissingLegalEntity services record request.evidenceBundle sourceEvidenceHash ∧
    evidenceLegalEntityMatchesTrustedPrincipal request.evidenceBundle request.reason

/-- Two reasons are equal up to their volatile fields. -/
def sameStableReason (a b : JsonObject) : Bool :=
  (Json.obj (idempotencyStableReason a)).canonical = (Json.obj (idempotencyStableReason b)).canonical

def legacyCorrelationSensitiveReason (reason : JsonObject) : JsonObject :=
  match JsonObject.get reason "trusted_principal" with
  | .obj principal =>
    JsonObject.set reason "trusted_principal" (.obj (principal.filter fun kv => kv.1 ≠ "trace_id"))
  | _ => reason

def finalizationPayload (proposalId proposalVersionId policyPackId policyVersion
    sourceEvidenceHash : String) (reason : JsonObject) : JsonObject :=
  [("operation", .str PolicyEvaluationEventType.finalized.text), ("proposal_id", .str proposalId),
    ("proposal_version_id", .str proposalVersionId), ("policy_pack_id", .str policyPackId),
    ("policy_version", .str policyVersion), ("source_evidence_hash", .str sourceEvidenceHash),
    ("reason", .obj reason)]

def legacyCorrelationSensitiveRequestHash (record : PolicyEvaluationRecord) (reason : JsonObject) :
    String :=
  services.hashCanonicalPayload <| finalizationPayload record.proposalId record.proposalVersionId
    record.policyPackId record.policyVersion record.sourceEvidenceHash
    (legacyCorrelationSensitiveReason reason)

def matchesLegacyCorrelationSensitiveReplay (record : PolicyEvaluationRecord)
    (event : PolicyEvaluationAuditEvent) (storedHash sourceEvidenceHash : String)
    (reason : JsonObject) : Bool :=
  match JsonObject.get event.reasonJson "finalization_reason" with
  | .obj finalizationReason =>
    record.sourceEvidenceHash = sourceEvidenceHash ∧ sameStableReason finalizationReason reason ∧
      storedHash = legacyCorrelationSensitiveRequestHash services record finalizationReason
  | _ => false

def eventBusinessReason (event : PolicyEvaluationAuditEvent) : JsonObject :=
  event.reasonJson.filter fun kv =>
    kv.1 ≠ "idempotency_request_hash" ∧ kv.1 ≠ "persistence_contract_version"

def matchesLegacyEventStableReplay (record : PolicyEvaluationRecord)
    (event : PolicyEvaluationAuditEvent) (storedHash : String) (request : AppendEventRequest)
    (evaluationHash : String) : Bool :=
  record.evaluationId = request.evaluationId ∧ event.evaluationId = request.evaluationId ∧
    event.eventType = request.eventType ∧ event.actorId = request.actorId ∧
    event.contentHash = evaluationHash ∧
    JsonObject.get event.reasonJson "idempotency_request_hash" = .str storedHash ∧
    sameStableReason (eventBusinessReason event) request.reason

def matchesLegacyReplay (record : PolicyEvaluationRecord) (event : PolicyEvaluationAuditEvent)
    (storedHash : String) : ReplayQuery → Bool
  | .finalization request portfolioId sourceEvidenceHash =>
    matchesRecordScope record request portfolioId ∧ matchesLegacyCorrelationSensitiveReplay services
      record event storedHash sourceEvidenceHash request.reason
  | .event request evaluationHash =>
    matchesLegacyEventStableReplay record event storedHash request evaluationHash

def canSkipConflictForLegalEntityRepair (record : PolicyEvaluationRecord) : ReplayQuery → Bool
  | .finalization request portfolioId sourceEvidenceHash =>
    canRepairTrustedLegalEntityGap services record request portfolioId sourceEvidenceHash
  | .event _ _ => false

end Replays

namespace PolicyEvaluationRecordStore

variable (store : PolicyEvaluationRecordStore)

def empty : PolicyEvaluationRecordStore := ⟨[], [], [], []⟩

def eventsOf (evaluationId : String) : List PolicyEvaluationAuditEvent :=
  (Dict.get? store.events evaluationId).getD []

def loadRecord (evaluationId : String) : Except PolicyPackError PolicyEvaluationRecord :=
  match Dict.get? store.records evaluationId with
  | none => .error (.notFound "POLICY_EVALUATION_RECORD_NOT_FOUND")
  | some record => .ok record

/-- `self._events[evaluation_id]`. -/
def loadEvents (evaluationId : String) :
    Except PolicyPackError (List PolicyEvaluationAuditEvent) :=
  match Dict.get? store.events evaluationId with
  | none => .error (.keyError evaluationId)
  | some events => .ok events

def loadReplayedEvent (evaluationId eventId : String) :
    Except PolicyPackError (PolicyEvaluationRecord × PolicyEvaluationAuditEvent) := do
  let record ← store.loadRecord evaluationId
  let events ← store.loadEvents evaluationId
  match events.find? fun event => event.eventId = eventId with
  | none => .error .stopIteration
  | some event => .ok (record, event)

/-- The event that a key was bound to by the same request, or nothing if the key is free or may be
bound again. -/
def findReplayedEvent (idempotencyKey requestHash : String) (query : ReplayQuery) :
    Except PolicyPackError (Option (PolicyEvaluationAuditEvent × PolicyEvaluationRecord)) :=
  match Dict.get? store.idempotency idempotencyKey with
  | none => .ok none
  | some stored => do
    let (record, event) ← store.loadReplayedEvent stored.evaluationId stored.eventId
    if stored.requestHash = requestHash ∨
        matchesLegacyReplay services record event stored.requestHash query then
      return some (event, record)
    else if canSkipConflictForLegalEntityRepair services record query then return none
    else .error (.idempotencyConflict "POLICY_EVALUATION_IDEMPOTENCY_KEY_CONFLICT")

end PolicyEvaluationRecordStore

/-- The identifier of the event with a number. -/
def eventIdOf (number : ℕ) : String := "peev_" ++ String.ofList (Text.zeroFill 6 number)

theorem eventIdOf_injective : Function.Injective eventIdOf := by
  intro m n h
  have hlist : (Text.zeroFill 6 m) = Text.zeroFill 6 n := by
    simpa [eventIdOf] using congrArg String.toList h
  exact Text.zeroFill_injective 6 hlist

namespace PolicyEvaluationRecordStore

variable (store : PolicyEvaluationRecordStore)

/-- The next event of a record. -/
def event (record : PolicyEvaluationRecord) (eventType : PolicyEvaluationEventType)
    (actorId : String) (idempotencyKey : Option String) (requestHash : String)
    (reason : JsonObject) (occurredAt : UtcDateTime) : PolicyEvaluationAuditEvent where
  eventId := eventIdOf ((store.eventsOf record.evaluationId).length + 1)
  evaluationId := record.evaluationId
  proposalId := record.proposalId
  proposalVersionId := record.proposalVersionId
  eventType := eventType
  actorId := actorId
  occurredAt := occurredAt.isoformat
  contentHash := record.evaluationHash
  idempotencyKey := idempotencyKey
  reasonJson :=
    JsonObject.set (JsonObject.set reason "idempotency_request_hash" (.str requestHash))
      "persistence_contract_version" (.str policyEvaluationPersistenceContractVersion)

def trustedPrincipalFromReason (reason : JsonObject) : JsonObject :=
  match JsonObject.get reason "trusted_principal" with
  | .obj principal => [("trusted_principal", .obj principal)]
  | _ => []

end PolicyEvaluationRecordStore

section Commands

def FinalizeRequest.sourceEvidenceHash (request : FinalizeRequest) : String :=
  services.hashCanonicalPayload request.evidenceBundle

def FinalizeRequest.requestHash (request : FinalizeRequest) : String :=
  services.hashCanonicalPayload <| finalizationPayload request.proposalId request.proposalVersionId
    request.policyPackId request.policyVersion (request.sourceEvidenceHash services)
    (idempotencyStableReason request.reason)

def FinalizeRequest.identity (request : FinalizeRequest) : PolicyEvaluationIdentity where
  proposalId := request.proposalId
  proposalVersionId := request.proposalVersionId
  policyPackId := request.policyPackId
  policyVersion := request.policyVersion
  sourceEvidenceHash := request.sourceEvidenceHash services

def FinalizeRequest.buildRecord (request : FinalizeRequest) (drawn : Drawn Catalog) :
    Except PolicyPackError PolicyEvaluationRecord := do
  let evaluation ← services.evaluatePolicyPackVersion drawn.evaluatedIn request.evidenceBundle
    request.policyPackId request.policyVersion
  let policyContentHash ← services.policyContentHash drawn.describedIn request.policyPackId
    request.policyVersion
  buildPolicyEvaluationRecord services evaluation request.evidenceBundle request.proposalId
    request.proposalVersionId request.createdBy (request.sourceEvidenceHash services)
    policyContentHash request.idempotencyKey request.reason request.observedTraceId drawn.generatedAt

namespace PolicyEvaluationRecordStore

/-- The event that records a finalization. -/
def finalizedEvent (store : PolicyEvaluationRecordStore) (record : PolicyEvaluationRecord)
    (request : FinalizeRequest) (drawn : Drawn Catalog) : PolicyEvaluationAuditEvent :=
  store.event record .finalized request.createdBy (some request.idempotencyKey)
    (request.requestHash services)
    ([("evaluation_status", .str record.evaluationStatus.text),
      ("policy_content_hash", .str record.policyContentHash),
      ("source_evidence_hash", .str record.sourceEvidenceHash),
      ("evaluation_hash", .str record.evaluationHash),
      ("finalization_reason", .obj request.reason)] ++ trustedPrincipalFromReason request.reason)
    drawn.occurredAt

/-- A record and its finalization take the place of what is stored for the evaluation, the list of
its earlier events included. -/
def putFinalized (store : PolicyEvaluationRecordStore) (record : PolicyEvaluationRecord)
    (request : FinalizeRequest) (event : PolicyEvaluationAuditEvent) :
    PolicyEvaluationRecordStore where
  records := Dict.set store.records record.evaluationId record
  events := Dict.set store.events record.evaluationId [event]
  idempotency := Dict.set store.idempotency request.idempotencyKey
    ⟨request.requestHash services, record.evaluationId, event.eventId⟩
  identityIndex := Dict.set store.identityIndex (request.identity services) record.evaluationId

def finalizePolicyEvaluationRecord (store : PolicyEvaluationRecordStore)
    (request : FinalizeRequest) (drawn : Drawn Catalog) :
    Except PolicyPackError (PolicyEvaluationPersistenceResult × PolicyEvaluationRecordStore) := do
  let portfolioId ← portfolioIdFromEvidence request.evidenceBundle
  let replayed ← store.findReplayedEvent services request.idempotencyKey
    (request.requestHash services)
    (.finalization request portfolioId (request.sourceEvidenceHash services))
  match replayed, Dict.get? store.identityIndex (request.identity services) with
  | some (event, record), _ =>
    return ({ record, created := false, replayed := true, auditEvent := event }, store)
  | none, some existingId =>
    let record ← store.loadRecord existingId
    let events ← store.loadEvents existingId
    match events.head? with
    | none => .error (.keyError "0")
    | some event =>
      return ({ record, created := false, replayed := false, auditEvent := event },
        { store with
          idempotency := Dict.set store.idempotency request.idempotencyKey
            ⟨request.requestHash services, existingId, event.eventId⟩ })
  | none, none =>
    let record ← request.buildRecord services drawn
    let event := store.finalizedEvent services record request drawn
    return ({ record, created := true, replayed := false, auditEvent := event },
      store.putFinalized services record request event)

end PolicyEvaluationRecordStore

def AppendEventRequest.requestHash (request : AppendEventRequest) (evaluationHash : String) :
    String :=
  services.hashCanonicalPayload
    [("operation", .str request.eventType.text), ("evaluation_id", .str request.evaluationId),
      ("actor_id", .str request.actorId), ("reason", .obj (idempotencyStableReason request.reason)),
      ("evaluation_hash", .str evaluationHash)]

/-- The key that an event is remembered under: an empty one is none. -/
def AppendEventRequest.key? (request : AppendEventRequest) : Option String :=
  request.idempotencyKey.filter fun key => key ≠ ""

namespace PolicyEvaluationRecordStore

/-- The event that an append records. -/
def appendedEvent (store : PolicyEvaluationRecordStore) (record : PolicyEvaluationRecord)
    (request : AppendEventRequest) (drawn : Drawn Catalog) : PolicyEvaluationAuditEvent :=
  store.event record request.eventType request.actorId request.idempotencyKey
    (request.requestHash services record.evaluationHash) request.reason drawn.occurredAt

def putAppended (store : PolicyEvaluationRecordStore) (record : PolicyEvaluationRecord)
    (events : List PolicyEvaluationAuditEvent) (request : AppendEventRequest)
    (event : PolicyEvaluationAuditEvent) : PolicyEvaluationRecordStore :=
  { store with
    records :=
      Dict.set store.records request.evaluationId (attachPolicyEvaluationEvent record event)
    events := Dict.set store.events request.evaluationId (events ++ [event])
    idempotency := request.key?.elim store.idempotency fun key =>
      Dict.set store.idempotency key
        ⟨request.requestHash services record.evaluationHash, request.evaluationId, event.eventId⟩ }

def appendPolicyEvaluationEvent (store : PolicyEvaluationRecordStore)
    (request : AppendEventRequest) (drawn : Drawn Catalog) :
    Except PolicyPackError (PolicyEvaluationAuditEvent × PolicyEvaluationRecordStore) := do
  let record ← store.loadRecord request.evaluationId
  validatePolicyEvaluationEventAuthority request.eventType request.reason record.evaluationHash
    request.authority
  let replayed ← request.key?.elim (.ok none) fun key =>
    store.findReplayedEvent services key (request.requestHash services record.evaluationHash)
      (.event request record.evaluationHash)
  match replayed with
  | some (event, _) => return (event, store)
  | none =>
    let events ← store.loadEvents request.evaluationId
    let event := store.appendedEvent services record request drawn
    return (event, store.putAppended services record events request event)

end PolicyEvaluationRecordStore

inductive PolicyEvaluationCommand where
  | finalize (request : FinalizeRequest)
  | appendEvent (request : AppendEventRequest)

inductive PolicyEvaluationAnswer where
  | finalized (result : PolicyEvaluationPersistenceResult)
  | appended (event : PolicyEvaluationAuditEvent)
deriving DecidableEq

/-- The key that a command is remembered under. -/
def PolicyEvaluationCommand.key? : PolicyEvaluationCommand → Option String
  | .finalize request => some request.idempotencyKey
  | .appendEvent request => request.key?

/-- The event that a command recorded or found. -/
def PolicyEvaluationAnswer.event : PolicyEvaluationAnswer → PolicyEvaluationAuditEvent
  | .finalized result => result.auditEvent
  | .appended event => event

def PolicyEvaluationRecordStore.run (store : PolicyEvaluationRecordStore) (drawn : Drawn Catalog) :
    PolicyEvaluationCommand →
      Except PolicyPackError (PolicyEvaluationAnswer × PolicyEvaluationRecordStore)
  | .finalize request => (store.finalizePolicyEvaluationRecord services request drawn).map
    fun (result, store') => (.finalized result, store')
  | .appendEvent request => (store.appendPolicyEvaluationEvent services request drawn).map
    fun (event, store') => (.appended event, store')

end Commands

namespace PolicyEvaluationRecordStore

/-- Everything a command with a key can do to the store, with the event that it answers with. -/
inductive Step (store : PolicyEvaluationRecordStore) (key? : Option String)
    (event : PolicyEvaluationAuditEvent) : PolicyEvaluationRecordStore → Prop where
  | replayed (key : String) (bound : BoundRequest) (events : List PolicyEvaluationAuditEvent)
    (key_eq : key? = some key) (stored : Dict.get? store.idempotency key = some bound)
    (listed : Dict.get? store.events bound.evaluationId = some events) (mem : event ∈ events)
    (eventId_eq : event.eventId = bound.eventId) : Step store key? event store
  | identified (key requestHash evaluationId : String) (identity : PolicyEvaluationIdentity)
    (events : List PolicyEvaluationAuditEvent) (key_eq : key? = some key)
    (indexed : Dict.get? store.identityIndex identity = some evaluationId)
    (listed : Dict.get? store.events evaluationId = some events) (first : events.head? = some event) :
    Step store key? event
      { store with
        idempotency :=
          Dict.set store.idempotency key ⟨requestHash, evaluationId, event.eventId⟩ }
  | finalized (key requestHash : String) (record : PolicyEvaluationRecord)
    (index : Dict PolicyEvaluationIdentity String) (key_eq : key? = some key)
    (unattached : record.reviewEventsJson = [] ∧ record.signOffEventsJson = [] ∧
      record.reportArchiveRefsJson = [])
    (type : event.eventType = .finalized) (evaluationId_eq : event.evaluationId = record.evaluationId)
    (eventId_eq : event.eventId = eventIdOf ((store.eventsOf record.evaluationId).length + 1)) :
    Step store key? event
      { records := Dict.set store.records record.evaluationId record
        events := Dict.set store.events record.evaluationId [event]
        idempotency :=
          Dict.set store.idempotency key ⟨requestHash, record.evaluationId, event.eventId⟩
        identityIndex := index }
  | appended (evaluationId requestHash : String) (record : PolicyEvaluationRecord)
    (events : List PolicyEvaluationAuditEvent)
    (stored : Dict.get? store.records evaluationId = some record)
    (listed : Dict.get? store.events evaluationId = some events)
    (type : event.eventType ≠ .finalized) (evaluationId_eq : event.evaluationId = record.evaluationId)
    (eventId_eq : event.eventId = eventIdOf ((store.eventsOf record.evaluationId).length + 1)) :
    Step store key? event
      { store with
        records := Dict.set store.records evaluationId (attachPolicyEvaluationEvent record event)
        events := Dict.set store.events evaluationId (events ++ [event])
        idempotency := key?.elim store.idempotency fun key =>
          Dict.set store.idempotency key ⟨requestHash, evaluationId, event.eventId⟩ }

section Inversion

variable {services} {store store' : PolicyEvaluationRecordStore} {drawn : Drawn Catalog}
  {event : PolicyEvaluationAuditEvent} {record : PolicyEvaluationRecord} {key requestHash : String}
  {query : ReplayQuery}

theorem loadRecord_eq_ok {evaluationId : String} :
    store.loadRecord evaluationId = .ok record ↔
      Dict.get? store.records evaluationId = some record := by
  unfold loadRecord
  split <;> simp [*]

theorem loadEvents_eq_ok {evaluationId : String} {events : List PolicyEvaluationAuditEvent} :
    store.loadEvents evaluationId = .ok events ↔
      Dict.get? store.events evaluationId = some events := by
  unfold loadEvents
  split <;> simp [*]

/-- A replayed event is the one that the key is bound to. -/
theorem step_of_replayed
    (h : store.findReplayedEvent services key requestHash query = .ok (some (event, record))) :
    Step store (some key) event store := by
  unfold findReplayedEvent at h
  split at h
  · cases h
  · next bound hbound =>
    obtain ⟨⟨found, stored⟩, hload, h⟩ := bind_eq_ok.mp h
    have hsame : stored = event := by
      dsimp only at h
      split at h
      · cases h
        rfl
      · split at h <;> cases h
    obtain rfl := hsame
    obtain ⟨_, -, hload⟩ := bind_eq_ok.mp hload
    obtain ⟨events, hevents, hload⟩ := bind_eq_ok.mp hload
    split at hload
    · cases hload
    · next hfind =>
      cases hload
      exact .replayed key bound events rfl hbound (loadEvents_eq_ok.mp hevents)
        (List.mem_of_find?_eq_some hfind) (by simpa using List.find?_some hfind)

theorem step_of_finalize {request : FinalizeRequest} {result : PolicyEvaluationPersistenceResult}
    (h : store.finalizePolicyEvaluationRecord services request drawn = .ok (result, store')) :
    Step store (some request.idempotencyKey) result.auditEvent store' := by
  obtain ⟨portfolioId, -, h⟩ := bind_eq_ok.mp h
  obtain ⟨replayed, hreplayed, h⟩ := bind_eq_ok.mp h
  split at h
  · cases h
    exact step_of_replayed hreplayed
  · next existingId hindex =>
    obtain ⟨record, -, h⟩ := bind_eq_ok.mp h
    obtain ⟨events, hevents, h⟩ := bind_eq_ok.mp h
    split at h
    · cases h
    · next event hfirst =>
      cases h
      exact .identified _ _ _ _ events rfl hindex (loadEvents_eq_ok.mp hevents) hfirst
  · obtain ⟨record, hrecord, h⟩ := bind_eq_ok.mp h
    obtain ⟨evaluation, -, hrecord⟩ := bind_eq_ok.mp hrecord
    obtain ⟨policyContentHash, -, hrecord⟩ := bind_eq_ok.mp hrecord
    cases h
    exact .finalized _ _ record _ rfl (build_spec hrecord) rfl rfl rfl

theorem step_of_append {request : AppendEventRequest}
    (h : store.appendPolicyEvaluationEvent services request drawn = .ok (event, store')) :
    Step store request.key? event store' := by
  obtain ⟨record, hrecord, h⟩ := bind_eq_ok.mp h
  obtain ⟨_, hauthority, h⟩ := bind_eq_ok.mp h
  obtain ⟨replayed, hreplayed, h⟩ := bind_eq_ok.mp h
  split at h
  · cases h
    rcases hkey : request.key? with _ | key
    · rw [hkey] at hreplayed
      cases hreplayed
    · rw [hkey] at hreplayed
      exact step_of_replayed hreplayed
  · obtain ⟨events, hevents, h⟩ := bind_eq_ok.mp h
    cases h
    exact .appended _ _ record events (loadRecord_eq_ok.mp hrecord) (loadEvents_eq_ok.mp hevents)
      (eventType_ne_finalized hauthority) rfl rfl

theorem step_of_run {command : PolicyEvaluationCommand} {answer : PolicyEvaluationAnswer}
    (h : store.run services drawn command = .ok (answer, store')) :
    Step store command.key? answer.event store' := by
  cases command with
  | finalize request =>
    obtain ⟨⟨result, after⟩, hresult, heq⟩ := map_eq_ok.mp h
    cases heq
    exact step_of_finalize hresult
  | appendEvent request =>
    obtain ⟨⟨event, after⟩, hevent, heq⟩ := map_eq_ok.mp h
    cases heq
    exact step_of_append hevent

end Inversion

section StepLemmas

variable {store store' : PolicyEvaluationRecordStore} {key? : Option String}
  {event other : PolicyEvaluationAuditEvent}

theorem mem_flatMap_of_get? {evaluationId : String} {group : List PolicyEvaluationAuditEvent}
    (hgroup : Dict.get? store.events evaluationId = some group) (hmem : event ∈ group) :
    event ∈ store.events.flatMap Prod.snd :=
  List.mem_flatMap.mpr ⟨(evaluationId, group), Dict.mem_of_get? hgroup, hmem⟩

/-- The event of a command is among the events that it leaves. -/
theorem Step.event_mem (h : Step store key? event store') :
    event ∈ store'.events.flatMap Prod.snd := by
  cases h with
  | replayed _ _ _ _ _ listed mem => exact mem_flatMap_of_get? listed mem
  | identified _ _ _ _ _ _ _ listed first =>
    exact List.mem_flatMap.mpr ⟨_, Dict.mem_of_get? listed, List.mem_of_head? first⟩
  | finalized =>
    exact List.mem_flatMap.mpr ⟨_, Dict.mem_of_get? Dict.get?_set_self, List.mem_singleton_self _⟩
  | appended _ _ _ events =>
    exact List.mem_flatMap.mpr ⟨_, Dict.mem_of_get? Dict.get?_set_self, by simp⟩

/-- A command leaves no other new event. -/
theorem Step.mem_events (h : Step store key? event store')
    (hother : other ∈ store'.events.flatMap Prod.snd) :
    other ∈ store.events.flatMap Prod.snd ∨ other = event := by
  cases h with
  | replayed => exact .inl hother
  | identified => exact .inl hother
  | finalized =>
    obtain ⟨⟨evaluationId, group⟩, hgroup, hmem⟩ := List.mem_flatMap.mp hother
    rcases Dict.mem_set hgroup with ⟨-, rfl⟩ | ⟨-, hold⟩
    · exact .inr (List.mem_singleton.mp hmem)
    · exact .inl (List.mem_flatMap.mpr ⟨_, hold, hmem⟩)
  | appended _ _ _ events _ listed =>
    obtain ⟨⟨evaluationId, group⟩, hgroup, hmem⟩ := List.mem_flatMap.mp hother
    rcases Dict.mem_set hgroup with ⟨-, rfl⟩ | ⟨-, hold⟩
    · rcases List.mem_append.mp hmem with hmem | hmem
      · exact .inl (mem_flatMap_of_get? listed hmem)
      · exact .inr (List.mem_singleton.mp hmem)
    · exact .inl (List.mem_flatMap.mpr ⟨_, hold, hmem⟩)

end StepLemmas

end PolicyEvaluationRecordStore

end LotusAdvise.PolicyPacks

import LotusAdvise.PolicyPacks.Finalizations
import LotusAdvise.PolicyPacks.Workflow
import LotusAdvise.Proposals.Idempotency

/-! # The commands of the policy evaluation service

Besides finalizations and review events there are three commands that append an event of
their own: a sign-off decision, a report package and AI evidence. Each of them reads the
record and its events first and checks what it has read. They run on any repository: the
store in memory, or the tables.
-/

namespace LotusAdvise.PolicyPacks

/-- `PolicyEvaluationRepository`: the reads and the two commands on a state. -/
structure PolicyEvaluationRepository (Catalog S : Type) where
  getRecord : S → (evaluationId : String) → Except PolicyPackError PolicyEvaluationRecord
  listEvents : S → (evaluationId : String) →
    Except PolicyPackError (List PolicyEvaluationAuditEvent)
  run : S → Drawn Catalog → PolicyEvaluationCommand →
    Except PolicyPackError (PolicyEvaluationAnswer × S)

namespace PolicyEvaluationRecordStore

def listEvents (store : PolicyEvaluationRecordStore) (evaluationId : String) :
    Except PolicyPackError (List PolicyEvaluationAuditEvent) := do
  let _ ← store.loadRecord evaluationId
  store.loadEvents evaluationId

end PolicyEvaluationRecordStore

section Repositories

variable {Catalog : Type} (services : PolicyServices Catalog)

/-- One store, kept in memory. -/
def inMemoryRepository : PolicyEvaluationRepository Catalog PolicyEvaluationRecordStore where
  getRecord := PolicyEvaluationRecordStore.loadRecord
  listEvents := PolicyEvaluationRecordStore.listEvents
  run := PolicyEvaluationRecordStore.run services

/-- `DurablePolicyEvaluationRepository`: every call loads the store, and a command saves it. -/
def durableRepository (collation : LinearOrder String) :
    PolicyEvaluationRepository Catalog PolicyEvaluationTables where
  getRecord tables := (tables.loadStore collation).loadRecord
  listEvents tables := (tables.loadStore collation).listEvents
  run := runDurable services collation

end Repositories

structure PolicyEvaluationReportPackageRequest where
  requestedBy : String
  portfolioId : String
  sourceEvaluationHash : String
  requestedOutputFormats : List String := ["pdf"]
  clientReadyDocumentRequested : Bool := false
  reason : JsonObject := []

/-- What the report service answers. -/
structure ProposalReportResponse where
  reportRequestId : String
  reportService : String
  status : String
  reportReferenceId : String
  artifactUrl : Option String
  explanation : JsonObject

structure PolicyEvaluationAiEvidenceRequest where
  requestedBy : String
  sourceEvaluationHash : String
  requestedActions : List String := ["SUMMARIZE_POLICY_POSTURE"]
  reason : JsonObject := []

structure PolicyAiEvidenceDraft where
  sections : List JsonObject
  lineage : JsonObject
  reviewGuidance : List String

/-- What a command draws: what the repository draws, the time of its reads, and the answers of the
report and AI services; an AI service that is unavailable says why. -/
structure WorkflowDrawn (Catalog : Type) extends Drawn Catalog where
  now : UtcDateTime
  report : Except PolicyPackError ProposalReportResponse
  draft : Except PolicyPackError (String ⊕ PolicyAiEvidenceDraft)

section Reads

variable {Catalog S : Type} (services : WorkflowServices Catalog)
  (repository : PolicyEvaluationRepository Catalog S)

def getPolicyEvaluationWorkflow (s : S) (evaluationId : String) (now : UtcDateTime) :
    Except PolicyPackError PolicyEvaluationWorkflowResponse := do
  let record ← repository.getRecord s evaluationId
  let events ← repository.listEvents s evaluationId
  buildPolicyEvaluationWorkflowProjection services record events now

end Reads

section SignOffDecisions

variable {Catalog S : Type} (services : WorkflowServices Catalog)
  (repository : PolicyEvaluationRepository Catalog S)

def PolicyEvaluationSignOffDecisionRequest.eventType
    (payload : PolicyEvaluationSignOffDecisionRequest) : PolicyEvaluationEventType :=
  if payload.decision = .approveForPolicySignOff then .signOffRecorded else .reviewRecorded

def PolicyEvaluationSignOffDecisionRequest.reasonJson
    (payload : PolicyEvaluationSignOffDecisionRequest) : JsonObject :=
  [("workflow_contract_version", .str policyWorkflowContractVersion),
    ("decision", .str payload.decision.text),
    ("source_evaluation_hash", .str payload.sourceEvaluationHash),
    ("resolved_approval_dependencies", .ofTexts payload.resolvedApprovalDependencies),
    ("satisfied_disclosure_requirements", .ofTexts payload.satisfiedDisclosureRequirements),
    ("satisfied_consent_requirements", .ofTexts payload.satisfiedConsentRequirements),
    ("conflict_review_outcome", .ofText? payload.conflictReviewOutcome),
    ("client_ready_publication", .str clientReadyPublicationPosture),
    ("reason", .obj payload.reason)]

/-- The event that a sign-off decision appends, after its checks. -/
def signOffDecisionEvent (s : S) (evaluationId : String)
    (payload : PolicyEvaluationSignOffDecisionRequest) (idempotencyKey : Option String)
    (now : UtcDateTime) : Except PolicyPackError AppendEventRequest := do
  let record ← repository.getRecord s evaluationId
  require (payload.sourceEvaluationHash = record.evaluationHash)
    (.validation "POLICY_EVALUATION_SIGN_OFF_HASH_MISMATCH")
  let existingEvents ← repository.listEvents s evaluationId
  let before ← buildPolicyEvaluationWorkflowProjection services record existingEvents now
  validatePolicySignOffDecision record before payload
  return {
    evaluationId
    eventType := payload.eventType
    actorId := payload.actorId
    reason := payload.reasonJson
    idempotencyKey := Proposals.normalizeOptionalIdempotencyKey idempotencyKey
    authority :=
      if payload.eventType = .signOffRecorded then some policySignOffEventAuthority else none }

end SignOffDecisions

section ReportPackages

variable {Catalog S : Type} (services : WorkflowServices Catalog)
  (repository : PolicyEvaluationRepository Catalog S)

def reportingContractVersion : String := "rfc0025.policy-report-package-realization.v1"

def requestedSupportedOutputFormats (payload : PolicyEvaluationReportPackageRequest) :
    List String :=
  (payload.requestedOutputFormats.map fun item => (Text.strip item).toLower).filter
    fun normalized => normalized ∈ ["pdf", "json"]

def validateReportWorkflowReady (workflow : PolicyEvaluationWorkflowResponse) :
    Except PolicyPackError Unit := do
  require (workflow.signOffStatus = .signedOff) (.validation "POLICY_REPORT_PACKAGE_REQUIRES_SIGN_OFF")
  require (workflow.signOffBlockers = []) (.validation "POLICY_REPORT_PACKAGE_REQUIREMENTS_OPEN")

def reportRequestHash (record : PolicyEvaluationRecord)
    (payload : PolicyEvaluationReportPackageRequest) : String :=
  services.hashCanonicalPayload
    [("operation", .str "POLICY_REPORT_PACKAGE_REQUESTED"),
      ("evaluation_id", .str record.evaluationId),
      ("source_evaluation_hash", .str payload.sourceEvaluationHash),
      ("requested_by", .str payload.requestedBy), ("portfolio_id", .str payload.portfolioId),
      ("requested_output_formats", .ofTexts payload.requestedOutputFormats),
      ("client_ready_document_requested", .bool payload.clientReadyDocumentRequested),
      ("reason", .obj payload.reason)]

/-- The first event under a key, which must have been requested with the same hash. -/
def findEventUnderKey (events : List PolicyEvaluationAuditEvent) (idempotencyKey hashField : String)
    (requestHash : String) : Except PolicyPackError (Option PolicyEvaluationAuditEvent) :=
  match events.find? fun event => event.idempotencyKey = some idempotencyKey with
  | none => .ok none
  | some event =>
    if JsonObject.get event.reasonJson hashField = .str requestHash then .ok (some event)
    else .error (.idempotencyConflict "POLICY_EVALUATION_IDEMPOTENCY_KEY_CONFLICT")

def policyReportStatus (reportStatus : String) : String :=
  if reportStatus = "ARCHIVED" then "ARCHIVED"
  else if reportStatus ∈ ["READY", "ACCEPTED"] then "RECORDED"
  else reportStatus

def reportReason (record : PolicyEvaluationRecord) (payload : PolicyEvaluationReportPackageRequest)
    (requestHash : String) (report : ProposalReportResponse) : JsonObject :=
  [("policy_report_package_contract_version", .str reportingContractVersion),
    ("policy_report_package_request_hash", .str requestHash),
    ("report_package_id", .str report.reportReferenceId),
    ("report_package_status", .str (policyReportStatus report.status)),
    ("source_evaluation_hash", .str payload.sourceEvaluationHash),
    ("portfolio_id", .str payload.portfolioId),
    ("client_ready_publication", .str clientReadyPublicationPosture),
    ("requested_output_formats", .ofTexts payload.requestedOutputFormats),
    ("report_request_id", .str report.reportRequestId),
    ("report_service", .str report.reportService), ("report_status", .str report.status),
    ("report_status_url", .ofText? report.artifactUrl),
    ("render", (report.explanation.lookup "render").getD (.obj [])),
    ("archive", (report.explanation.lookup "archive").getD (.obj [])),
    ("policy_sign_off_package", .obj
      [("package_status", .str "SIGNED_OFF_SOURCE_PACKAGE"),
        ("evaluation_id", .str record.evaluationId),
        ("evaluation_hash", .str record.evaluationHash),
        ("policy_pack_id", .str record.policyPackId),
        ("policy_version", .str record.policyVersion)]),
    ("reason", .obj payload.reason)]

/-- The event that a report package appends, or the one that it replays. -/
def reportPackageEvent (s : S) (evaluationId : String)
    (payload : PolicyEvaluationReportPackageRequest) (idempotencyKey : Option String)
    (drawn : WorkflowDrawn Catalog) :
    Except PolicyPackError (PolicyEvaluationAuditEvent ⊕ AppendEventRequest) := do
  let idempotencyKey := Proposals.normalizeOptionalIdempotencyKey idempotencyKey
  let record ← repository.getRecord s evaluationId
  require (payload.sourceEvaluationHash = record.evaluationHash)
    (.validation "POLICY_REPORT_PACKAGE_HASH_MISMATCH")
  require (payload.clientReadyDocumentRequested = false)
    (.validation "POLICY_CLIENT_READY_DOCUMENT_NOT_SUPPORTED")
  require (requestedSupportedOutputFormats payload ≠ [])
    (.validation "POLICY_REPORT_PACKAGE_OUTPUT_FORMAT_REQUIRED")
  let workflow ← getPolicyEvaluationWorkflow services repository s record.evaluationId drawn.now
  validateReportWorkflowReady workflow
  let requestHash := reportRequestHash services record payload
  let events ← repository.listEvents s evaluationId
  let replayed ← idempotencyKey.elim (.ok none) fun key =>
    findEventUnderKey events key "policy_report_package_request_hash" requestHash
  match replayed with
  | some event => return .inl event
  | none =>
    let report ← drawn.report
    return .inr {
      evaluationId
      eventType := .reportArchiveRecorded
      actorId := payload.requestedBy
      reason := reportReason record payload requestHash report
      idempotencyKey
      authority := some policyReportPackageEventAuthority }

end ReportPackages

section AiEvidence

variable {Catalog S : Type} (services : WorkflowServices Catalog)
  (repository : PolicyEvaluationRepository Catalog S)

def aiContractVersion : String := "rfc0025.policy-ai-evidence-boundary.v1"

def supportedActions : List String :=
  ["SUMMARIZE_POLICY_POSTURE", "EXPLAIN_OPEN_REQUIREMENTS", "EXPLAIN_SIGN_OFF_EVIDENCE",
    "EXPLAIN_DISCLOSURE_AND_CONSENT_POSTURE", "EXPLAIN_SOURCE_GAPS"]

def forbiddenActionFragments : List String :=
  ["APPROVE", "WAIVE", "MUTATE", "UPDATE", "RELEASE", "CLIENT_READY", "CLIENT-READY", "PUBLISH",
    "CERTIFY"]

def isForbiddenAiEvidenceAction (action : String) : Bool :=
  action ∉ supportedActions ∨ forbiddenActionFragments.any fun fragment => occursIn fragment action

def normalizeRequestedActions (actions : List String) : Except PolicyPackError (List String) := do
  let normalized := (actions.map fun action => Text.upper (Text.strip action)).filter
    fun action => action ≠ ""
  require (normalized ≠ []) (.validation "POLICY_AI_EVIDENCE_ACTION_REQUIRED")
  require (normalized.any isForbiddenAiEvidenceAction = false)
    (.validation "POLICY_AI_EVIDENCE_FORBIDDEN_ACTION")
  return normalized

def aiRequestHash (record : PolicyEvaluationRecord) (requestedActions : List String)
    (payload : PolicyEvaluationAiEvidenceRequest) : String :=
  services.hashCanonicalPayload
    [("operation", .str "POLICY_AI_EVIDENCE_REQUESTED"),
      ("evaluation_id", .str record.evaluationId),
      ("source_evaluation_hash", .str payload.sourceEvaluationHash),
      ("requested_by", .str payload.requestedBy), ("requested_actions", .ofTexts requestedActions),
      ("reason", .obj payload.reason)]

def safeAiFallbackReason (reason : String) : String :=
  if Text.strip reason ∈
      ["LOTUS_AI_POLICY_EVIDENCE_UNAVAILABLE", "LOTUS_AI_POLICY_EVIDENCE_REJECTED"] then
    Text.strip reason
  else "LOTUS_AI_POLICY_EVIDENCE_UNAVAILABLE"

def buildPolicyAiUnavailableEvidence (reason : String) : PolicyAiEvidenceDraft where
  sections := []
  lineage :=
    [("adapter_version", .str "policy-evidence-lotus-ai-adapter.v1"),
      ("workflow_pack_id", .str "policy_evidence_summary.pack"),
      ("workflow_pack_version", .str "v1"), ("workflow_surface", .str "policy-evidence-summary"),
      ("workflow_run_id", .null), ("model_version", .null), ("fallback_reason", .str reason)]
  reviewGuidance :=
    ["AI policy evidence is unavailable; use persisted policy evaluation and sign-off evidence only.",
      "Do not infer missing approvals, disclosures, consents, waivers, suitability, " ++
        "best-interest, or client-ready posture."]

def aiReason (payload : PolicyEvaluationAiEvidenceRequest) (requestedActions : List String)
    (requestHash aiStatus : String) (draft : PolicyAiEvidenceDraft) : JsonObject :=
  [("policy_ai_contract_version", .str aiContractVersion),
    ("policy_ai_request_hash", .str requestHash), ("ai_status", .str aiStatus),
    ("source_evaluation_hash", .str payload.sourceEvaluationHash),
    ("requested_actions", .ofTexts requestedActions),
    ("client_ready_publication", .str clientReadyPublicationPosture),
    ("human_review_required", .bool true), ("authoritative_for_policy_status", .bool false),
    ("forbidden_actions", .ofTexts ["policy_status_mutation", "rule_result_mutation",
      "approval_or_waiver_creation", "disclosure_or_consent_mutation",
      "client_ready_publication"]),
    ("redaction_profile", .obj
      [("profile_id", .str "policy_ai_bounded_evidence_redaction.v1"),
        ("raw_source_evidence_included", .bool false),
        ("raw_client_identity_included", .bool false), ("free_text_notes_included", .bool false),
        ("full_position_payload_included", .bool false),
        ("allowed_content", .ofTexts ["policy_status", "rule_result_status", "reason_codes",
          "source_refs", "workflow_posture", "append_only_event_summary"])]),
    ("lineage", .obj draft.lineage), ("sections", .arr (draft.sections.map .obj)),
    ("review_guidance", .ofTexts draft.reviewGuidance), ("reason", .obj payload.reason)]

/-- The event that AI evidence appends, or the one that it replays. -/
def aiEvidenceEvent (s : S) (evaluationId : String) (payload : PolicyEvaluationAiEvidenceRequest)
    (idempotencyKey : Option String) (drawn : WorkflowDrawn Catalog) :
    Except PolicyPackError (PolicyEvaluationAuditEvent ⊕ AppendEventRequest) := do
  let idempotencyKey := Proposals.normalizeOptionalIdempotencyKey idempotencyKey
  let record ← repository.getRecord s evaluationId
  require (payload.sourceEvaluationHash = record.evaluationHash)
    (.validation "POLICY_AI_EVIDENCE_HASH_MISMATCH")
  let requestedActions ← normalizeRequestedActions payload.requestedActions
  let requestHash := aiRequestHash services record requestedActions payload
  let events ← repository.listEvents s evaluationId
  let replayed ← idempotencyKey.elim (.ok none) fun key =>
    findEventUnderKey events key "policy_ai_request_hash" requestHash
  match replayed with
  | some event => return .inl event
  | none =>
    -- the packet for the service has the workflow in it
    let _ ← getPolicyEvaluationWorkflow services repository s record.evaluationId drawn.now
    let answer ← drawn.draft
    let (aiStatus, draft) := match answer with
      | .inl reason =>
        ("UNAVAILABLE", buildPolicyAiUnavailableEvidence (safeAiFallbackReason reason))
      | .inr draft => ("REVIEW_REQUIRED", draft)
    return .inr {
      evaluationId
      eventType := .aiEvidenceRecorded
      actorId := payload.requestedBy
      reason := aiReason payload requestedActions requestHash aiStatus draft
      idempotencyKey
      authority := some policyAiEvidenceEventAuthority }

end AiEvidence

inductive PolicyEvaluationCall where
  | finalize (request : FinalizeRequest)
  | reviewEvent (evaluationId actorId : String) (reason : JsonObject)
    (idempotencyKey : Option String)
  | signOffDecision (evaluationId : String) (payload : PolicyEvaluationSignOffDecisionRequest)
    (idempotencyKey : Option String)
  | reportPackage (evaluationId : String) (payload : PolicyEvaluationReportPackageRequest)
    (idempotencyKey : Option String)
  | aiEvidence (evaluationId : String) (payload : PolicyEvaluationAiEvidenceRequest)
    (idempotencyKey : Option String)

section Calls

variable {Catalog S : Type} (services : WorkflowServices Catalog)
  (repository : PolicyEvaluationRepository Catalog S)

/-- What a call has the repository do after its checks: a command, or nothing when it has found its
event by itself. -/
def prepareCall (s : S) (drawn : WorkflowDrawn Catalog) :
    PolicyEvaluationCall → Except PolicyPackError (Option PolicyEvaluationCommand)
  | .finalize request =>
    match Proposals.normalizeOptionalIdempotencyKey (some request.idempotencyKey) with
    | none => .error (.validation "IDEMPOTENCY_KEY_REQUIRED")
    | some idempotencyKey => .ok (some (.finalize { request with idempotencyKey }))
  | .reviewEvent evaluationId actorId reason idempotencyKey =>
    .ok <| some <| .appendEvent {
      evaluationId
      eventType := .reviewRecorded
      actorId
      reason
      idempotencyKey := Proposals.normalizeOptionalIdempotencyKey idempotencyKey }
  | .signOffDecision evaluationId payload idempotencyKey =>
    (signOffDecisionEvent services repository s evaluationId payload idempotencyKey drawn.now).map
      fun request => some (.appendEvent request)
  | .reportPackage evaluationId payload idempotencyKey =>
    (reportPackageEvent services repository s evaluationId payload idempotencyKey drawn).map
      fun
      | .inl _ => none
      | .inr request => some (.appendEvent request)
  | .aiEvidence evaluationId payload idempotencyKey =>
    (aiEvidenceEvent services repository s evaluationId payload idempotencyKey drawn).map
      fun
      | .inl _ => none
      | .inr request => some (.appendEvent request)

/-- A call: its checks, and its command. -/
def runCall (s : S) (drawn : WorkflowDrawn Catalog) (call : PolicyEvaluationCall) :
    Except PolicyPackError (Option PolicyEvaluationAnswer × S) := do
  match ← prepareCall services repository s drawn call with
  | none => return (none, s)
  | some command =>
    let (answer, s') ← repository.run s drawn.toDrawn command
    return (some answer, s')

end Calls

end LotusAdvise.PolicyPacks

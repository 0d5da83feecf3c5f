import LotusAdvise.Foundations.DateTime
import LotusAdvise.Foundations.Dict
import LotusAdvise.Foundations.Except
import LotusAdvise.Foundations.Json
import LotusAdvise.Foundations.Words
import LotusAdvise.Proposals.Idempotency

/-! # Copilot records

A copilot run is a record of a request and of the draft that answers it. Its identifier is derived
from the hash of the request, so that the same request always has the same run. A review of a run
is a record of its own.
-/

namespace LotusAdvise.AdvisoryCopilot

open Words

inductive CopilotActionFamily where
  | proposalExplanation
  | evidenceQa
  | meetingPreparation
  | complianceReviewSummary
  | operationsReportHandoff
  | clientFollowUpDraft
deriving DecidableEq

inductive CopilotAudience where
  | advisor
  | deskHead
  | complianceReviewer
  | operationsSupport
  | modelRiskOperator
deriving DecidableEq

inductive CopilotRetentionClass where
  | advisoryReviewRecord
  | modelRiskAudit
  | supportabilityDiagnostic
deriving DecidableEq

inductive CopilotReviewPosture where
  | reviewRequired
  | approvedForInternalUse
  | rejected
  | superseded
  | expired
  | unsupported
  | guardrailRejected
  | unavailable
deriving DecidableEq

section Texts

def CopilotActionFamily.text : CopilotActionFamily → String
  | proposalExplanation => "PROPOSAL_EXPLANATION"
  | evidenceQa => "EVIDENCE_QA"
  | meetingPreparation => "MEETING_PREPARATION"
  | complianceReviewSummary => "COMPLIANCE_REVIEW_SUMMARY"
  | operationsReportHandoff => "OPERATIONS_REPORT_HANDOFF"
  | clientFollowUpDraft => "CLIENT_FOLLOW_UP_DRAFT"

def CopilotActionFamily.workflowPackId : CopilotActionFamily → String
  | proposalExplanation => "advisory_copilot_proposal_explanation.pack"
  | evidenceQa => "advisory_copilot_evidence_qa.pack"
  | meetingPreparation => "advisory_copilot_meeting_preparation.pack"
  | complianceReviewSummary => "advisory_copilot_compliance_review_summary.pack"
  | operationsReportHandoff => "advisory_copilot_operations_report_handoff.pack"
  | clientFollowUpDraft => "advisory_copilot_client_follow_up_draft.pack"

def CopilotAudience.text : CopilotAudience → String
  | advisor => "ADVISOR"
  | deskHead => "DESK_HEAD"
  | complianceReviewer => "COMPLIANCE_REVIEWER"
  | operationsSupport => "OPERATIONS_SUPPORT"
  | modelRiskOperator => "MODEL_RISK_OPERATOR"

def CopilotReviewPosture.text : CopilotReviewPosture → String
  | reviewRequired => "REVIEW_REQUIRED"
  | approvedForInternalUse => "APPROVED_FOR_INTERNAL_USE"
  | rejected => "REJECTED"
  | superseded => "SUPERSEDED"
  | expired => "EXPIRED"
  | unsupported => "UNSUPPORTED"
  | guardrailRejected => "GUARDRAIL_REJECTED"
  | unavailable => "UNAVAILABLE"

/-- A status that is no posture waits for a review. -/
def reviewPostureFromDraftStatus (status : String) : CopilotReviewPosture :=
  ([CopilotReviewPosture.reviewRequired, .approvedForInternalUse, .rejected, .superseded, .expired,
    .unsupported, .guardrailRejected, .unavailable].find? fun posture =>
      posture.text = status).getD .reviewRequired

/-- `" ".join(value.split())`. -/
def normalizeRecordText (value : String) : String :=
  String.ofList (joined ' ' (words Text.isSpace value.toList))

def normalizeRequiredRecordText (errorCode value : String) : Except String String :=
  if normalizeRecordText value = "" then .error errorCode else .ok (normalizeRecordText value)

def normalizeOptionalRecordText (errorCode : String) : Option String → Except String (Option String)
  | none => .ok none
  | some value => (normalizeRequiredRecordText errorCode value).map some

def normalizeBoundedRecordTextList (maxItems maxItemLength : ℕ) (errorCode : String)
    (items : List String) : Except String (List String) := do
  require (items.length ≤ maxItems) errorCode
  items.mapM fun item => do
    let text ← normalizeRequiredRecordText errorCode item
    require (text.length ≤ maxItemLength) errorCode
    return text

end Texts

structure CopilotEvidencePacket where
  evidencePacketId : String
  evidencePacketHash : String
  actionFamily : CopilotActionFamily
  portfolioId : String
  proposalId : Option String
  retentionClass : CopilotRetentionClass
  /-- `evidence_packet.model_dump(mode="json")`. -/
  dump : JsonObject

/-- The arguments of `persist_advisory_copilot_run`. -/
structure CopilotRunCall where
  evidencePacket : CopilotEvidencePacket
  audience : CopilotAudience
  requestedOutputs : List String
  requestedBy : String
  reason : JsonObject
  draftStatus : String
  outputSections : List JsonObject
  lineage : JsonObject
  reviewGuidance : List String
  guardrailReasons : List String
  correlationId : String
  idempotencyKey : Option String := none
  callerApp : String := "lotus-advise"
  tenantId : String := "tenant-sg-001"
  requestedIntents : List String := []
  userInstruction : String := ""
  now : DateTime

structure CopilotServices where
  /-- The hexadecimal digest of the canonical text of a value in canonical form. -/
  sha256 : Json → String
  /-- The hexadecimal digest of a text. -/
  textDigest : String → String
  /-- `str` of a value that is not a text. -/
  str : Json → String
  /-- `assert_safe_structured_payload`: the error of a payload that must not be stored. -/
  unsafePayload : Json → Option String
  /-- `assert_safe_lineage_payload`. -/
  unsafeLineage : Json → Option String

structure AdvisoryCopilotRunRecord where
  runId : String
  actionFamily : CopilotActionFamily
  audience : CopilotAudience
  portfolioId : String
  proposalId : Option String
  evidencePacketId : String
  evidencePacketHash : String
  requestHash : String
  outputHash : String
  reviewPosture : CopilotReviewPosture
  retentionClass : CopilotRetentionClass
  legalHold : Bool := false
  retentionExpiresAt : DateTime
  createdBy : String
  callerApp : String
  tenantId : String
  correlationId : String
  idempotencyKey : Option String
  createdAt : DateTime
  updatedAt : DateTime
  lotusAiWorkflowRunId : Option String
  lotusAiModelVersion : Option String
  workflowPackId : String
  workflowPackVersion : String
  promptTemplateVersion : String
  outputSchemaVersion : String
  evaluationPackRef : String
  evidencePacketJson : JsonObject
  requestSummaryJson : JsonObject
  outputSectionsJson : List JsonObject
  reviewGuidanceJson : List String
  guardrailResultsJson : List String
  lineageJson : JsonObject
deriving DecidableEq

structure AdvisoryCopilotRunIdempotencyRecord where
  idempotencyKey : String
  requestHash : String
  runId : String
  createdAt : DateTime
deriving DecidableEq

inductive CopilotReviewAction where
  | approveForInternalUse
  | reject
  | supersede
  | expire
deriving DecidableEq

structure AdvisoryCopilotReviewRecord where
  reviewId : String
  runId : String
  action : CopilotReviewAction
  previousPosture : CopilotReviewPosture
  newPosture : CopilotReviewPosture
  actorId : String
  occurredAt : DateTime
  reasonJson : JsonObject
  requestHash : String
  idempotencyKey : Option String
  correlationId : String
deriving DecidableEq

section Hashes

variable (services : CopilotServices) (call : CopilotRunCall)

def canonicalJsonHash (value : Json) : String := "sha256:" ++ services.sha256 value.canonical

def stableCopilotRecordId (mark value : String) : String :=
  mark ++ "_" ++ (services.textDigest value).take 24

def optionalUserInstructionHash (value : String) : Json :=
  if Text.strip value = "" then .null
  else .str (canonicalJsonHash services (.obj [("user_instruction", .str (Text.strip value))]))

def buildAdvisoryCopilotRunRequestSummary : JsonObject := [
  ("action_family", .str call.evidencePacket.actionFamily.text),
  ("audience", .str call.audience.text),
  ("portfolio_id", .str call.evidencePacket.portfolioId),
  ("proposal_id", .ofText? call.evidencePacket.proposalId),
  ("evidence_packet_id", .str call.evidencePacket.evidencePacketId),
  ("evidence_packet_hash", .str call.evidencePacket.evidencePacketHash),
  ("requested_outputs", .ofTexts call.requestedOutputs),
  ("requested_by", .str call.requestedBy),
  ("reason", .obj call.reason),
  ("requested_intents", .ofTexts call.requestedIntents),
  ("user_instruction_hash", optionalUserInstructionHash services call.userInstruction)]

def CopilotRunCall.requestHash : String :=
  canonicalJsonHash services (.obj (buildAdvisoryCopilotRunRequestSummary services call))

/-- The identifier of the run of a request. -/
def runIdOf (requestHash : String) : String :=
  stableCopilotRecordId services "copilot_run" requestHash

/-- The key of a call. It is stripped, but a record normalizes it further. -/
def CopilotRunCall.key : Option String :=
  Proposals.normalizeOptionalIdempotencyKey call.idempotencyKey

/-- `_assert_safe_run_payloads`. -/
def assertSafeRunPayloads : Except String Unit :=
  match (services.unsafePayload (.obj call.reason)).or
      ((services.unsafeLineage (.obj call.lineage)).or
        (call.outputSections.findSome? fun output => services.unsafePayload (.obj output))) with
  | none => .ok ()
  | some error => .error error

end Hashes

section Building

variable (services : CopilotServices) (call : CopilotRunCall)

/-- `optional_lineage_text(lineage.get(key))`. -/
def optionalLineageText (lineage : JsonObject) (key : String) : Option String :=
  match JsonObject.get lineage key with
  | .str value => if Text.strip value = "" then none else some (Text.strip value)
  | _ => none

/-- `str(lineage.get(key) or default)`. -/
def lineageTextOr (lineage : JsonObject) (key default : String) : String :=
  if (JsonObject.get lineage key).truthy then
    match JsonObject.get lineage key with
    | .str value => value
    | value => services.str value
  else default

def retentionDays : CopilotRetentionClass → ℕ
  | .supportabilityDiagnostic => 90
  | _ => 365 * 7

def retentionExpiresAt (retentionClass : CopilotRetentionClass) (createdAt : DateTime) :
    Except String DateTime :=
  match createdAt.addDays? (retentionDays retentionClass) with
  | some expiresAt => .ok expiresAt
  | none => .error "date value out of range"

def runRecordText : String → Except String String :=
  normalizeRequiredRecordText "COPILOT_RUN_RECORD_REQUIRED"

def optionalRunRecordText : Option String → Except String (Option String) :=
  normalizeOptionalRecordText "COPILOT_RUN_RECORD_REQUIRED"

/-- The parts of a record that its model normalizes or refuses. -/
structure RunRecordTexts where
  portfolioId : String
  proposalId : Option String
  evidencePacketId : String
  evidencePacketHash : String
  retentionExpiresAt : DateTime
  createdBy : String
  callerApp : String
  tenantId : String
  correlationId : String
  idempotencyKey : Option String
  lotusAiWorkflowRunId : Option String
  lotusAiModelVersion : Option String
  workflowPackId : String
  workflowPackVersion : String
  promptTemplateVersion : String
  outputSchemaVersion : String
  evaluationPackRef : String
  reviewGuidanceJson : List String
  guardrailResultsJson : List String

def runRecordTexts : Except String RunRecordTexts := do
  let packet := call.evidencePacket
  return {
    retentionExpiresAt := ← retentionExpiresAt packet.retentionClass call.now
    portfolioId := ← runRecordText packet.portfolioId
    proposalId := ← optionalRunRecordText packet.proposalId
    evidencePacketId := ← runRecordText packet.evidencePacketId
    evidencePacketHash := ← runRecordText packet.evidencePacketHash
    createdBy := ← runRecordText call.requestedBy
    callerApp := ← runRecordText call.callerApp
    tenantId := ← runRecordText call.tenantId
    correlationId := ← runRecordText call.correlationId
    idempotencyKey := ← optionalRunRecordText call.key
    lotusAiWorkflowRunId :=
      ← optionalRunRecordText (optionalLineageText call.lineage "workflow_run_id")
    lotusAiModelVersion :=
      ← optionalRunRecordText (optionalLineageText call.lineage "model_version")
    workflowPackId := ← runRecordText (lineageTextOr services call.lineage "workflow_pack_id"
      packet.actionFamily.workflowPackId)
    workflowPackVersion :=
      ← runRecordText (lineageTextOr services call.lineage "workflow_pack_version" "v1")
    promptTemplateVersion := ← runRecordText (lineageTextOr services call.lineage
      "prompt_template_version" "advisory-copilot-prompt-template.v1")
    outputSchemaVersion := ← runRecordText (lineageTextOr services call.lineage
      "output_schema_version" "advisory-copilot-output-schema.v1")
    evaluationPackRef := ← runRecordText (lineageTextOr services call.lineage
      "evaluation_pack_ref" "advisory-copilot-eval-pack.v1")
    reviewGuidanceJson := ← normalizeBoundedRecordTextList 16 500
      "COPILOT_REVIEW_GUIDANCE_INVALID" call.reviewGuidance
    guardrailResultsJson := ← normalizeBoundedRecordTextList 16 160
      "COPILOT_GUARDRAIL_RESULT_INVALID" call.guardrailReasons }

/-- `_build_run_record`. Identifiers and hashes are words, which a record keeps as they are. -/
def buildRunRecord : Except String AdvisoryCopilotRunRecord :=
  (runRecordTexts services call).map fun texts =>
    { runId := runIdOf services (call.requestHash services)
      actionFamily := call.evidencePacket.actionFamily
      audience := call.audience
      portfolioId := texts.portfolioId
      proposalId := texts.proposalId
      evidencePacketId := texts.evidencePacketId
      evidencePacketHash := texts.evidencePacketHash
      requestHash := call.requestHash services
      outputHash := canonicalJsonHash services (.arr (call.outputSections.map .obj))
      reviewPosture := reviewPostureFromDraftStatus call.draftStatus
      retentionClass := call.evidencePacket.retentionClass
      retentionExpiresAt := texts.retentionExpiresAt
      createdBy := texts.createdBy
      callerApp := texts.callerApp
      tenantId := texts.tenantId
      correlationId := texts.correlationId
      idempotencyKey := texts.idempotencyKey
      createdAt := call.now
      updatedAt := call.now
      lotusAiWorkflowRunId := texts.lotusAiWorkflowRunId
      lotusAiModelVersion := texts.lotusAiModelVersion
      workflowPackId := texts.workflowPackId
      workflowPackVersion := texts.workflowPackVersion
      promptTemplateVersion := texts.promptTemplateVersion
      outputSchemaVersion := texts.outputSchemaVersion
      evaluationPackRef := texts.evaluationPackRef
      evidencePacketJson := call.evidencePacket.dump
      requestSummaryJson := buildAdvisoryCopilotRunRequestSummary services call
      outputSectionsJson := call.outputSections
      reviewGuidanceJson := texts.reviewGuidanceJson
      guardrailResultsJson := texts.guardrailResultsJson
      lineageJson := call.lineage }

/-- `_run_idempotency_record`, with the key as the record normalizes it. -/
def runIdempotencyRecord : Except String (Option AdvisoryCopilotRunIdempotencyRecord) :=
  match call.key with
  | none => .ok none
  | some key => do
    let idempotencyKey ← normalizeRequiredRecordText "COPILOT_IDEMPOTENCY_RECORD_REQUIRED" key
    return some {
      idempotencyKey
      requestHash := call.requestHash services
      runId := runIdOf services (call.requestHash services)
      createdAt := call.now }

variable {services call} {run : AdvisoryCopilotRunRecord}

/-- What the later steps read of a new record. -/
theorem buildRunRecord_eq_ok (h : buildRunRecord services call = .ok run) :
    run.runId = runIdOf services (call.requestHash services) ∧
      run.requestHash = call.requestHash services ∧
      run.reviewPosture = reviewPostureFromDraftStatus call.draftStatus := by
  obtain ⟨texts, -, rfl⟩ := map_eq_ok.mp h
  exact ⟨rfl, rfl, rfl⟩

theorem runIdempotencyRecord_eq_ok {idempotency : AdvisoryCopilotRunIdempotencyRecord}
    (h : runIdempotencyRecord services call = .ok (some idempotency)) :
    idempotency.runId = runIdOf services (call.requestHash services) ∧
      idempotency.requestHash = call.requestHash services := by
  unfold runIdempotencyRecord at h
  cases hkey : call.key with
  | none =>
    rw [hkey] at h
    cases h
  | some key =>
    rw [hkey] at h
    obtain ⟨text, -, heq⟩ := bind_eq_ok.mp h
    cases heq
    exact ⟨rfl, rfl⟩

end Building

section RefreshPolicy

variable (existing : AdvisoryCopilotRunRecord) (incomingReviewPosture : CopilotReviewPosture)

def canAttemptAdvisoryCopilotRunRefresh : Bool :=
  match existing.reviewPosture with
  | .unavailable => JsonObject.get existing.lineageJson "fallback_reason" ≠ .null
  | .guardrailRejected => JsonObject.get existing.lineageJson "fallback_reason" =
      .str "COPILOT_OUTPUT_GUARDRAIL_REJECTED"
  | _ => false

def canRefreshRetryableCopilotRun : Bool :=
  canAttemptAdvisoryCopilotRunRefresh existing &&
    match existing.reviewPosture with
    | .unavailable => incomingReviewPosture ≠ .unavailable
    | .guardrailRejected => incomingReviewPosture = .reviewRequired
    | _ => false

/-- Only a run that is unavailable or rejected by the guardrails is refreshed. -/
theorem refreshable_cases (h : canRefreshRetryableCopilotRun existing incomingReviewPosture = true) :
    existing.reviewPosture = .unavailable ∨ existing.reviewPosture = .guardrailRejected := by
  unfold canRefreshRetryableCopilotRun at h
  cases hposture : existing.reviewPosture <;> simp [hposture] at h ⊢

end RefreshPolicy

end LotusAdvise.AdvisoryCopilot

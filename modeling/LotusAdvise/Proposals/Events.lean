import LotusAdvise.Proposals.Idempotency
import LotusAdvise.Proposals.WorkflowRules

/-! # Workflow events

The events, approval records and proposal updates that the commands build. A caller's
free-form JSON becomes the metadata of the record, with the idempotency key and the
request hash written over it.
-/

namespace LotusAdvise.Proposals

open ProposalWorkflowState ProposalWorkflowEventType

/-- `value or fallback` on version numbers: zero counts as missing. -/
def orVersion (value fallback : Option ℤ) : Option ℤ :=
  match value with
  | some n => if n = 0 then fallback else some n
  | none => fallback

/-- `value or fallback` on texts: the empty text counts as missing. -/
def orText (value : Option String) (fallback : String) : String :=
  (presentKey value).getD fallback

def correlationReason (correlationId : Option String) : JsonObject :=
  match presentKey correlationId with
  | none => []
  | some id => [("correlation_id", .str id)]

def buildProposalCreatedEvent (eventId proposalId actorId : String) (occurredAt : DateTime)
    (relatedVersionNo : ℕ) (correlationId : Option String) : ProposalWorkflowEventRecord where
  eventId := eventId
  proposalId := proposalId
  eventType := .created
  fromState := none
  toState := .draft
  actorId := actorId
  occurredAt := occurredAt
  reasonJson := correlationReason correlationId
  relatedVersionNo := some relatedVersionNo

def buildNewVersionCreatedEvent (eventId : String) (proposal : ProposalRecord) (actorId : String)
    (occurredAt : DateTime) (relatedVersionNo : ℕ) (correlationId : Option String) :
    ProposalWorkflowEventRecord where
  eventId := eventId
  proposalId := proposal.proposalId
  eventType := .newVersionCreated
  fromState := some proposal.currentState
  toState := .draft
  actorId := actorId
  occurredAt := occurredAt
  reasonJson := correlationReason correlationId
  relatedVersionNo := some relatedVersionNo

def buildStateTransitionEvent (eventId : String) (proposal : ProposalRecord)
    (payload : ProposalStateTransitionRequest) (toState : ProposalWorkflowState)
    (occurredAt : DateTime) (idempotencyKey : Option String) (requestHash : String) :
    ProposalWorkflowEventRecord where
  eventId := eventId
  proposalId := proposal.proposalId
  eventType := payload.eventType
  fromState := some proposal.currentState
  toState := toState
  actorId := payload.actorId
  occurredAt := occurredAt
  reasonJson := withIdempotency payload.reason idempotencyKey requestHash
  relatedVersionNo := payload.relatedVersionNo

def buildApprovalRecord (approvalId proposalId : String) (payload : ProposalApprovalRequest)
    (occurredAt : DateTime) (idempotencyKey : Option String) (requestHash : String) :
    ProposalApprovalRecordData where
  approvalId := approvalId
  proposalId := proposalId
  approvalType := payload.approvalType
  approved := payload.approved
  actorId := payload.actorId
  occurredAt := occurredAt
  detailsJson := withIdempotency payload.details idempotencyKey requestHash
  relatedVersionNo := payload.relatedVersionNo

def buildApprovalTransitionEvent (eventId : String) (proposal : ProposalRecord)
    (payload : ProposalApprovalRequest) (eventType : ProposalWorkflowEventType)
    (toState : ProposalWorkflowState) (occurredAt : DateTime) (idempotencyKey : Option String)
    (requestHash : String) : ProposalWorkflowEventRecord where
  eventId := eventId
  proposalId := proposal.proposalId
  eventType := eventType
  fromState := some proposal.currentState
  toState := toState
  actorId := payload.actorId
  occurredAt := occurredAt
  reasonJson := withIdempotency payload.details idempotencyKey requestHash
  relatedVersionNo := payload.relatedVersionNo

def executionOwnershipBoundary : JsonObject :=
  [("advisory_role", .str "HANDOFF_REQUEST_AND_STATUS_RECONCILIATION"),
    ("execution_system_of_record", .str "DOWNSTREAM_EXECUTION_PROVIDER"),
    ("ownership_boundary", .str "DOWNSTREAM_EXECUTION_SYSTEM_OF_RECORD")]

def executionHandoffReason (payload : ProposalExecutionHandoffRequest) (executionRequestId : String)
    (idempotencyKey : Option String) (requestHash : String) : JsonObject :=
  JsonObject.dropNone <| withIdempotency
    [("execution_request_id", .str executionRequestId),
      ("execution_provider", .str payload.executionProvider),
      ("correlation_id", .ofText? payload.correlationId),
      ("external_request_id", .ofText? payload.externalRequestId),
      ("execution_ownership", .obj executionOwnershipBoundary), ("notes", .obj payload.notes)]
    idempotencyKey requestHash

def buildExecutionHandoffRequestedEvent (eventId : String) (proposal : ProposalRecord)
    (payload : ProposalExecutionHandoffRequest) (occurredAt : DateTime)
    (executionRequestId : String) (idempotencyKey : Option String) (requestHash : String) :
    ProposalWorkflowEventRecord where
  eventId := eventId
  proposalId := proposal.proposalId
  eventType := .executionRequested
  fromState := some proposal.currentState
  toState := .executionReady
  actorId := payload.actorId
  occurredAt := occurredAt
  reasonJson := executionHandoffReason payload executionRequestId idempotencyKey requestHash
  relatedVersionNo := orVersion payload.relatedVersionNo (some proposal.currentVersionNo)

def buildExecutionUpdateIdempotencyKey (payload : ProposalExecutionUpdateRequest) : String :=
  "execution-update:" ++ payload.updateId

def executionUpdateReason (payload : ProposalExecutionUpdateRequest) (requestHash : String) :
    JsonObject :=
  JsonObject.dropNone
    [("update_id", .str payload.updateId),
      ("execution_request_id", .str payload.executionRequestId),
      ("execution_provider", .str payload.executionProvider),
      ("external_execution_id", .ofText? payload.externalExecutionId),
      ("details", .obj payload.details),
      ("idempotency_key", .str (buildExecutionUpdateIdempotencyKey payload)),
      ("idempotency_request_hash", .str requestHash)]

def buildExecutionUpdateEvent (eventId proposalId : String) (currentState : ProposalWorkflowState)
    (payload : ProposalExecutionUpdateRequest) (eventType : ProposalWorkflowEventType)
    (toState : ProposalWorkflowState) (occurredAt : DateTime) (requestHash : String)
    (handoffRelatedVersionNo : Option ℤ) : ProposalWorkflowEventRecord where
  eventId := eventId
  proposalId := proposalId
  eventType := eventType
  fromState := some currentState
  toState := toState
  actorId := payload.actorId
  occurredAt := occurredAt
  reasonJson := executionUpdateReason payload requestHash
  relatedVersionNo := orVersion payload.relatedVersionNo handoffRelatedVersionNo

def reviewState : ProposalNarrativeReviewAction → String
  | .approve => "APPROVED_FOR_ADVISOR_USE"
  | .requestRegeneration => "REGENERATION_REQUESTED"
  | .reject => "REJECTED"

def clientReadyStatus (payload : ProposalNarrativeReviewRequest) : String :=
  if !payload.clientReadyReleaseRequested then "NOT_REQUESTED"
  else if payload.action ≠ .approve then "BLOCKED_REVIEW_REQUIRED"
  else "BLOCKED_POLICY_OR_GUARDRAIL"

def buildReviewEvent (eventId : String) (proposal : ProposalRecord) (version : ProposalVersionRecord)
    (narrativeId : Json) (sourceNarrativeHash : String) (payload : ProposalNarrativeReviewRequest)
    (idempotencyKey : Option String) (requestHash : String) (occurredAt : DateTime) :
    ProposalWorkflowEventRecord where
  eventId := eventId
  proposalId := proposal.proposalId
  eventType := .narrativeReviewed
  fromState := some proposal.currentState
  toState := proposal.currentState
  actorId := payload.reviewedBy
  occurredAt := occurredAt
  reasonJson := withIdempotency
    [("review_action", .str payload.action.text), ("review_state", .str (reviewState payload.action)),
      ("client_ready_status", .str (clientReadyStatus payload)), ("reason", .str payload.reason),
      ("narrative_id", narrativeId), ("source_narrative_hash", .str sourceNarrativeHash),
      ("client_ready_release_requested", .bool payload.clientReadyReleaseRequested),
      ("replacement_narrative_id", .ofText? payload.replacementNarrativeId)]
    idempotencyKey requestHash
  relatedVersionNo := some version.versionNo

def reportReason (report : ProposalReportResponse) (relatedVersionNo : ℤ)
    (includeExecutionSummary includeReviewedNarrative : Bool)
    (proposalNarrativePackage : Option JsonObject) : JsonObject :=
  [("report_request_id", .str report.reportRequestId), ("report_type", .str report.reportType.text),
    ("report_service", .str report.reportService), ("status", .str report.status),
    ("report_reference_id", .str report.reportReferenceId),
    ("artifact_url", .ofText? report.artifactUrl), ("related_version_no", .int relatedVersionNo),
    ("include_execution_summary", .bool includeExecutionSummary)] ++
  (if includeReviewedNarrative then [("include_reviewed_narrative", .bool true)] else []) ++
  match proposalNarrativePackage with
  | none => []
  | some narrativePackage => [("proposal_narrative_package", .obj narrativePackage)]

def buildReportRequestedEvent (eventId : String) (proposal : ProposalRecord) (requestedBy : String)
    (occurredAt : DateTime) (reason : JsonObject) (relatedVersionNo : ℤ) :
    ProposalWorkflowEventRecord where
  eventId := eventId
  proposalId := proposal.proposalId
  eventType := .reportRequested
  fromState := some proposal.currentState
  toState := proposal.currentState
  actorId := requestedBy
  occurredAt := occurredAt
  reasonJson := reason
  relatedVersionNo := some relatedVersionNo

end LotusAdvise.Proposals

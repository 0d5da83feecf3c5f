import LotusAdvise.Proposals.Records

/-! # Requests

Command payloads and their model dumps. A create or version request keeps the fields
the commands read beside its whole dump, which is what the request hash is taken of.
-/

namespace LotusAdvise.Proposals

structure ProposalStateTransitionRequest where
  eventType : ProposalWorkflowEventType
  actorId : String
  relatedVersionNo : Option ℤ := none
  reason : JsonObject := []
  expectedState : Option ProposalWorkflowState := none
deriving DecidableEq

structure ProposalApprovalRequest where
  approvalType : ProposalApprovalType
  approved : Bool
  actorId : String
  relatedVersionNo : Option ℤ := none
  details : JsonObject := []
  expectedState : Option ProposalWorkflowState := none
deriving DecidableEq

structure ProposalExecutionHandoffRequest where
  actorId : String
  executionProvider : String
  relatedVersionNo : Option ℤ := none
  expectedState : Option ProposalWorkflowState := none
  correlationId : Option String := none
  externalRequestId : Option String := none
  notes : JsonObject := []
deriving DecidableEq

structure ProposalExecutionUpdateRequest where
  updateId : String
  actorId : String
  executionRequestId : String
  executionProvider : String
  updateStatus : ProposalExecutionUpdateStatus
  relatedVersionNo : Option ℤ := none
  externalExecutionId : Option String := none
  occurredAt : Option String := none
  details : JsonObject := []
deriving DecidableEq

inductive ProposalNarrativeReviewAction where
  | approve
  | reject
  | requestRegeneration
deriving DecidableEq

def ProposalNarrativeReviewAction.text : ProposalNarrativeReviewAction → String
  | .approve => "APPROVE"
  | .reject => "REJECT"
  | .requestRegeneration => "REQUEST_REGENERATION"

structure ProposalNarrativeReviewRequest where
  action : ProposalNarrativeReviewAction
  reviewedBy : String
  reason : String
  clientReadyReleaseRequested : Bool := false
  replacementNarrativeId : Option String := none
deriving DecidableEq

inductive ProposalReportType where
  | portfolioReview
  | clientProposalSummary
deriving DecidableEq

def ProposalReportType.text : ProposalReportType → String
  | .portfolioReview => "PORTFOLIO_REVIEW"
  | .clientProposalSummary => "CLIENT_PROPOSAL_SUMMARY"

/-- What the report service answered. -/
structure ProposalReportResponse where
  reportRequestId : String
  reportType : ProposalReportType
  reportService : String
  status : String
  generatedAt : String
  reportReferenceId : String
  artifactUrl : Option String := none
deriving DecidableEq

structure ProposalCreateRequest where
  createdBy : String
  dump : JsonObject
deriving DecidableEq

structure ProposalVersionRequest where
  createdBy : String
  expectedCurrentVersionNo : Option ℤ := none
  dump : JsonObject
deriving DecidableEq

def ProposalWorkflowState.dump? (state : Option ProposalWorkflowState) : Json :=
  .ofText? (state.map ProposalWorkflowState.text)

def ProposalStateTransitionRequest.dump (payload : ProposalStateTransitionRequest) : JsonObject :=
  [("event_type", .str payload.eventType.text), ("actor_id", .str payload.actorId),
    ("related_version_no", .ofInt? payload.relatedVersionNo), ("reason", .obj payload.reason),
    ("expected_state", ProposalWorkflowState.dump? payload.expectedState)]

def ProposalApprovalRequest.dump (payload : ProposalApprovalRequest) : JsonObject :=
  [("approval_type", .str payload.approvalType.text), ("approved", .bool payload.approved),
    ("actor_id", .str payload.actorId), ("related_version_no", .ofInt? payload.relatedVersionNo),
    ("details", .obj payload.details),
    ("expected_state", ProposalWorkflowState.dump? payload.expectedState)]

def ProposalExecutionHandoffRequest.dump (payload : ProposalExecutionHandoffRequest) : JsonObject :=
  [("actor_id", .str payload.actorId), ("execution_provider", .str payload.executionProvider),
    ("related_version_no", .ofInt? payload.relatedVersionNo),
    ("expected_state", ProposalWorkflowState.dump? payload.expectedState),
    ("correlation_id", .ofText? payload.correlationId),
    ("external_request_id", .ofText? payload.externalRequestId), ("notes", .obj payload.notes)]

def ProposalExecutionUpdateRequest.dump (payload : ProposalExecutionUpdateRequest) : JsonObject :=
  [("update_id", .str payload.updateId), ("actor_id", .str payload.actorId),
    ("execution_request_id", .str payload.executionRequestId),
    ("execution_provider", .str payload.executionProvider),
    ("update_status", .str payload.updateStatus.text),
    ("related_version_no", .ofInt? payload.relatedVersionNo),
    ("external_execution_id", .ofText? payload.externalExecutionId),
    ("occurred_at", .ofText? payload.occurredAt), ("details", .obj payload.details)]

def ProposalNarrativeReviewRequest.dump (payload : ProposalNarrativeReviewRequest) : JsonObject :=
  [("action", .str payload.action.text), ("reviewed_by", .str payload.reviewedBy),
    ("reason", .str payload.reason),
    ("client_ready_release_requested", .bool payload.clientReadyReleaseRequested),
    ("replacement_narrative_id", .ofText? payload.replacementNarrativeId)]

end LotusAdvise.Proposals

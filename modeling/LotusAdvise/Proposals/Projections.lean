import LotusAdvise.Proposals.Events

/-! # Responses

What the commands answer with. Responses are projections of the stored records; the
execution status is derived from the newest execution events of the log.
-/

namespace LotusAdvise.Proposals

structure ProposalSummary where
  proposalId : String
  portfolioId : String
  mandateId : Option String
  jurisdiction : Option String
  createdBy : String
  createdAt : String
  lastEventAt : String
  currentState : ProposalWorkflowState
  currentVersionNo : ℕ
  title : Option String
  lifecycleOrigin : ProposalLifecycleOrigin
  sourceWorkspaceId : Option String
deriving DecidableEq

structure ProposalVersionDetail where
  proposalVersionId : String
  proposalId : String
  versionNo : ℕ
  createdAt : String
  requestHash : String
  artifactHash : String
  simulationHash : String
  statusAtCreation : ProposalCreationStatus
  proposalResult : JsonObject
  artifact : JsonObject
  evidenceBundle : JsonObject
  gateDecision : Option JsonObject
deriving DecidableEq

structure ProposalWorkflowEvent where
  eventId : String
  proposalId : String
  eventType : ProposalWorkflowEventType
  fromState : Option ProposalWorkflowState
  toState : ProposalWorkflowState
  actorId : String
  occurredAt : String
  reason : JsonObject
  relatedVersionNo : Option ℤ
deriving DecidableEq

structure ProposalApprovalRecord where
  approvalId : String
  proposalId : String
  approvalType : ProposalApprovalType
  approved : Bool
  actorId : String
  occurredAt : String
  details : JsonObject
  relatedVersionNo : Option ℤ
deriving DecidableEq

structure ProposalCreateResponse where
  proposal : ProposalSummary
  version : ProposalVersionDetail
  latestWorkflowEvent : ProposalWorkflowEvent
deriving DecidableEq

structure ProposalStateTransitionResponse where
  proposalId : String
  currentState : ProposalWorkflowState
  latestWorkflowEvent : ProposalWorkflowEvent
  approval : Option ProposalApprovalRecord := none
deriving DecidableEq

structure ProposalExecutionHandoffResponse where
  proposal : ProposalSummary
  executionRequestId : String
  handoffStatus : ProposalExecutionHandoffStatus
  executionProvider : String
  executionOwnership : JsonObject := executionOwnershipBoundary
  latestWorkflowEvent : ProposalWorkflowEvent
deriving DecidableEq

structure ProposalExecutionStatusResponse where
  proposal : ProposalSummary
  handoffStatus : ProposalExecutionHandoffStatus
  executionRequestId : Option String
  executionProvider : Option String
  relatedVersionNo : Option ℤ
  handoffRequestedAt : Option String
  executedAt : Option String
  externalExecutionId : Option String
  latestWorkflowEvent : Option ProposalWorkflowEvent
  executionOwnership : JsonObject := executionOwnershipBoundary
  explanation : JsonObject
deriving DecidableEq

/-- The review fields as the event carries them. -/
structure ProposalNarrativeReviewRecord where
  reviewId : String
  proposalId : String
  proposalVersionNo : ℤ
  narrativeId : String
  action : Json
  reviewState : Json
  clientReadyStatus : Json
  reviewedBy : String
  reviewedAt : String
  reason : String
  sourceNarrativeHash : String
  replacementNarrativeId : Option String
  replayed : Bool
deriving DecidableEq

structure ProposalNarrativeReviewResponse where
  proposal : ProposalSummary
  narrativeReview : ProposalNarrativeReviewRecord
  latestWorkflowEvent : ProposalWorkflowEvent
deriving DecidableEq

inductive ProposalResponse where
  | create (response : ProposalCreateResponse)
  | stateTransition (response : ProposalStateTransitionResponse)
  | executionHandoff (response : ProposalExecutionHandoffResponse)
  /-- A recorded execution update has no response of its own. -/
  | executionStatus (response : Option ProposalExecutionStatusResponse)
  | narrativeReview (response : ProposalNarrativeReviewResponse)
  | reportRequest (event : ProposalWorkflowEventRecord)
deriving DecidableEq

def toProposalSummary (proposal : ProposalRecord) : ProposalSummary where
  proposalId := proposal.proposalId
  portfolioId := proposal.portfolioId
  mandateId := proposal.mandateId
  jurisdiction := proposal.jurisdiction
  createdBy := proposal.createdBy
  createdAt := proposal.createdAt.isoformat
  lastEventAt := proposal.lastEventAt.isoformat
  currentState := proposal.currentState
  currentVersionNo := proposal.currentVersionNo
  title := proposal.title
  lifecycleOrigin := proposal.lifecycleOrigin
  sourceWorkspaceId := proposal.sourceWorkspaceId

def toVersionDetail (version : ProposalVersionRecord) : ProposalVersionDetail where
  proposalVersionId := version.proposalVersionId
  proposalId := version.proposalId
  versionNo := version.versionNo
  createdAt := version.createdAt.isoformat
  requestHash := version.requestHash
  artifactHash := version.artifactHash
  simulationHash := version.simulationHash
  statusAtCreation := version.statusAtCreation
  proposalResult := version.proposalResultJson
  artifact := version.artifactJson
  evidenceBundle := version.evidenceBundleJson
  gateDecision := version.gateDecisionJson

def toWorkflowEvent (event : ProposalWorkflowEventRecord) : ProposalWorkflowEvent where
  eventId := event.eventId
  proposalId := event.proposalId
  eventType := event.eventType
  fromState := event.fromState
  toState := event.toState
  actorId := event.actorId
  occurredAt := event.occurredAt.isoformat
  reason := event.reasonJson
  relatedVersionNo := event.relatedVersionNo

def toApprovalRecord (approval : ProposalApprovalRecordData) : ProposalApprovalRecord where
  approvalId := approval.approvalId
  proposalId := approval.proposalId
  approvalType := approval.approvalType
  approved := approval.approved
  actorId := approval.actorId
  occurredAt := approval.occurredAt.isoformat
  details := approval.detailsJson
  relatedVersionNo := approval.relatedVersionNo

def toCreateResponse (proposal : ProposalRecord) (version : ProposalVersionRecord)
    (latestEvent : ProposalWorkflowEventRecord) : ProposalCreateResponse where
  proposal := toProposalSummary proposal
  version := toVersionDetail version
  latestWorkflowEvent := toWorkflowEvent latestEvent

def buildCreateResponseFromReferents (proposal : Option ProposalRecord)
    (version : Option ProposalVersionRecord) (events : List ProposalWorkflowEventRecord) :
    Option ProposalCreateResponse :=
  match proposal, version, events.getLast? with
  | some p, some v, some e => some (toCreateResponse p v e)
  | _, _, _ => none

def latestExecutionRequestedEvent (events : List ProposalWorkflowEventRecord) :
    Option ProposalWorkflowEventRecord :=
  events.reverse.find? fun event => event.eventType = .executionRequested

def latestExecutionStatusEvent (events : List ProposalWorkflowEventRecord) :
    Option ProposalWorkflowEventRecord :=
  events.reverse.find? fun event => event.eventType ∈ executionStatusEventTypes

structure ExecutionStatusProjection where
  handoffStatus : ProposalExecutionHandoffStatus := .notRequested
  executionRequestId : Json := .null
  executionProvider : Json := .null
  relatedVersionNo : Option ℤ := none
  handoffRequestedAt : Option String := none
  executedAt : Option String := none
  externalExecutionId : Json := .null

def requestedEventProjection :
    Option ProposalWorkflowEventRecord → ExecutionStatusProjection
  | none => {}
  | some event =>
    { handoffStatus := .requested
      executionRequestId := JsonObject.get event.reasonJson "execution_request_id"
      executionProvider := JsonObject.get event.reasonJson "execution_provider"
      relatedVersionNo := event.relatedVersionNo
      handoffRequestedAt := some event.occurredAt.isoformat }

/-- `external_execution_id`, or else `execution_id`. -/
def externalExecutionId (event : ProposalWorkflowEventRecord) : Json :=
  match JsonObject.get event.reasonJson "external_execution_id" with
  | .null => JsonObject.get event.reasonJson "execution_id"
  | value => value

def statusEventProjection (event : ProposalWorkflowEventRecord)
    (projection : ExecutionStatusProjection) (hasRequestEvent : Bool) :
    ExecutionStatusProjection :=
  { projection with
    handoffStatus := executionStatusForEvent event.eventType
    executionRequestId :=
      if hasRequestEvent then projection.executionRequestId
      else JsonObject.get event.reasonJson "execution_request_id"
    executionProvider :=
      if hasRequestEvent then projection.executionProvider
      else JsonObject.get event.reasonJson "execution_provider"
    relatedVersionNo := orVersion event.relatedVersionNo projection.relatedVersionNo
    executedAt := if event.eventType = .executed then some event.occurredAt.isoformat else none
    externalExecutionId := externalExecutionId event }

def executionStatusProjection (latestExecutionRequested latestExecutionEvent :
    Option ProposalWorkflowEventRecord) : ExecutionStatusProjection :=
  let projection := requestedEventProjection latestExecutionRequested
  match latestExecutionEvent with
  | none => projection
  | some event => statusEventProjection event projection latestExecutionRequested.isSome

/-- An optional text field of a response model, which accepts `None` and texts only. -/
def optionalText (field : String) : Json → Except ProposalError (Option String)
  | .null => .ok none
  | .str s => .ok (some s)
  | _ => .error (.responseInvalid field)

def buildExecutionStatusResponse (proposal : ProposalRecord)
    (events : List ProposalWorkflowEventRecord) :
    Except ProposalError ProposalExecutionStatusResponse := do
  let latestExecutionEvent := latestExecutionStatusEvent events
  let projection :=
    executionStatusProjection (latestExecutionRequestedEvent events) latestExecutionEvent
  let executionRequestId ← optionalText "execution_request_id" projection.executionRequestId
  let executionProvider ← optionalText "execution_provider" projection.executionProvider
  let externalExecutionId ← optionalText "external_execution_id" projection.externalExecutionId
  return {
    proposal := toProposalSummary proposal
    handoffStatus := projection.handoffStatus
    executionRequestId, executionProvider
    relatedVersionNo := projection.relatedVersionNo
    handoffRequestedAt := projection.handoffRequestedAt
    executedAt := projection.executedAt
    externalExecutionId
    latestWorkflowEvent := latestExecutionEvent.map toWorkflowEvent
    explanation := [("source", .str "ADVISORY_WORKFLOW_EVENTS"),
      ("state_correlation", .str (executionStateCorrelation projection.handoffStatus)),
      ("execution_ownership", .obj executionOwnershipBoundary)] }

def buildExecutionHandoffReplayResponse (services : Services) (proposal : ProposalRecord)
    (replayEvent : ProposalWorkflowEventRecord) : ProposalExecutionHandoffResponse where
  proposal := toProposalSummary proposal
  executionRequestId :=
    match JsonObject.get replayEvent.reasonJson "execution_request_id" with
    | .null => ""
    | value => services.toStr value
  handoffStatus := .requested
  executionProvider :=
    services.toStr (JsonObject.get replayEvent.reasonJson "execution_provider")
  latestWorkflowEvent := toWorkflowEvent replayEvent

/-- `str(value or "")`. -/
def textOrEmpty (services : Services) (value : Json) : String :=
  if value.truthy then services.toStr value else ""

def narrativeReviewRecordFromEvent (services : Services) (event : ProposalWorkflowEventRecord)
    (replayed : Bool) : ProposalNarrativeReviewRecord :=
  let reason := event.reasonJson
  { reviewId := event.eventId
    proposalId := event.proposalId
    proposalVersionNo := (orVersion event.relatedVersionNo (some 0)).getD 0
    narrativeId := textOrEmpty services (JsonObject.get reason "narrative_id")
    action := JsonObject.get reason "review_action"
    reviewState := JsonObject.get reason "review_state"
    clientReadyStatus := JsonObject.get reason "client_ready_status"
    reviewedBy := event.actorId
    reviewedAt := event.occurredAt.isoformat
    reason := textOrEmpty services (JsonObject.get reason "reason")
    sourceNarrativeHash := textOrEmpty services (JsonObject.get reason "source_narrative_hash")
    replacementNarrativeId :=
      match JsonObject.get reason "replacement_narrative_id" with
      | .null => none
      | value => some (services.toStr value)
    replayed := replayed }

def buildNarrativeReviewResponse (services : Services) (proposal : ProposalRecord)
    (event : ProposalWorkflowEventRecord) (replayed : Bool) : ProposalNarrativeReviewResponse where
  proposal := toProposalSummary proposal
  narrativeReview := narrativeReviewRecordFromEvent services event replayed
  latestWorkflowEvent := toWorkflowEvent event

end LotusAdvise.Proposals

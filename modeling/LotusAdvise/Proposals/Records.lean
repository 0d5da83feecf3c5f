import LotusAdvise.Foundations.DateTime
import LotusAdvise.Foundations.Json

/-! # Contract types and persisted records

The workflow vocabulary and the records that repositories store, field by field.
Versions are numbered from one; version numbers that callers supply are integers.
-/

namespace LotusAdvise.Proposals

inductive ProposalWorkflowState where
  | draft
  | riskReview
  | complianceReview
  | awaitingClientConsent
  | executionReady
  | executed
  | rejected
  | cancelled
  | expired
deriving DecidableEq

inductive ProposalWorkflowEventType where
  | created
  | newVersionCreated
  | submittedForRiskReview
  | riskApproved
  | submittedForComplianceReview
  | complianceApproved
  | clientConsentRecorded
  | executionRequested
  | executionAccepted
  | executionPartiallyExecuted
  | executionRejected
  | executionCancelled
  | executionExpired
  | narrativeReviewed
  | reportRequested
  | executed
  | rejected
  | expired
  | cancelled
deriving DecidableEq

inductive ProposalApprovalType where
  | risk
  | compliance
  | clientConsent
deriving DecidableEq

inductive ProposalCreationStatus where
  | ready
  | pendingReview
  | blocked
deriving DecidableEq

inductive ProposalLifecycleOrigin where
  | directCreate
  | workspaceHandoff
deriving DecidableEq

inductive ProposalExecutionHandoffStatus where
  | notRequested
  | requested
  | accepted
  | partiallyExecuted
  | executed
  | rejected
  | cancelled
  | expired
deriving DecidableEq

inductive ProposalExecutionUpdateStatus where
  | accepted
  | partiallyExecuted
  | rejected
  | cancelled
  | expired
  | executed
deriving DecidableEq

def ProposalWorkflowState.text : ProposalWorkflowState → String
  | .draft => "DRAFT"
  | .riskReview => "RISK_REVIEW"
  | .complianceReview => "COMPLIANCE_REVIEW"
  | .awaitingClientConsent => "AWAITING_CLIENT_CONSENT"
  | .executionReady => "EXECUTION_READY"
  | .executed => "EXECUTED"
  | .rejected => "REJECTED"
  | .cancelled => "CANCELLED"
  | .expired => "EXPIRED"

def ProposalWorkflowEventType.text : ProposalWorkflowEventType → String
  | .created => "CREATED"
  | .newVersionCreated => "NEW_VERSION_CREATED"
  | .submittedForRiskReview => "SUBMITTED_FOR_RISK_REVIEW"
  | .riskApproved => "RISK_APPROVED"
  | .submittedForComplianceReview => "SUBMITTED_FOR_COMPLIANCE_REVIEW"
  | .complianceApproved => "COMPLIANCE_APPROVED"
  | .clientConsentRecorded => "CLIENT_CONSENT_RECORDED"
  | .executionRequested => "EXECUTION_REQUESTED"
  | .executionAccepted => "EXECUTION_ACCEPTED"
  | .executionPartiallyExecuted => "EXECUTION_PARTIALLY_EXECUTED"
  | .executionRejected => "EXECUTION_REJECTED"
  | .executionCancelled => "EXECUTION_CANCELLED"
  | .executionExpired => "EXECUTION_EXPIRED"
  | .narrativeReviewed => "NARRATIVE_REVIEWED"
  | .reportRequested => "REPORT_REQUESTED"
  | .executed => "EXECUTED"
  | .rejected => "REJECTED"
  | .expired => "EXPIRED"
  | .cancelled => "CANCELLED"

def ProposalApprovalType.text : ProposalApprovalType → String
  | .risk => "RISK"
  | .compliance => "COMPLIANCE"
  | .clientConsent => "CLIENT_CONSENT"

def ProposalExecutionUpdateStatus.text : ProposalExecutionUpdateStatus → String
  | .accepted => "ACCEPTED"
  | .partiallyExecuted => "PARTIALLY_EXECUTED"
  | .rejected => "REJECTED"
  | .cancelled => "CANCELLED"
  | .expired => "EXPIRED"
  | .executed => "EXECUTED"

structure ProposalRecord where
  proposalId : String
  portfolioId : String
  mandateId : Option String
  jurisdiction : Option String
  createdBy : String
  createdAt : DateTime
  lastEventAt : DateTime
  currentState : ProposalWorkflowState
  currentVersionNo : ℕ
  title : Option String
  advisorNotes : Option String
  lifecycleOrigin : ProposalLifecycleOrigin
  sourceWorkspaceId : Option String
deriving DecidableEq

structure ProposalVersionRecord where
  proposalVersionId : String
  proposalId : String
  versionNo : ℕ
  createdAt : DateTime
  requestHash : String
  artifactHash : String
  simulationHash : String
  statusAtCreation : ProposalCreationStatus
  proposalResultJson : JsonObject
  artifactJson : JsonObject
  evidenceBundleJson : JsonObject
  gateDecisionJson : Option JsonObject
deriving DecidableEq

structure ProposalWorkflowEventRecord where
  eventId : String
  proposalId : String
  eventType : ProposalWorkflowEventType
  fromState : Option ProposalWorkflowState
  toState : ProposalWorkflowState
  actorId : String
  occurredAt : DateTime
  reasonJson : JsonObject
  relatedVersionNo : Option ℤ
deriving DecidableEq

structure ProposalApprovalRecordData where
  approvalId : String
  proposalId : String
  approvalType : ProposalApprovalType
  approved : Bool
  actorId : String
  occurredAt : DateTime
  detailsJson : JsonObject
  relatedVersionNo : Option ℤ
deriving DecidableEq

structure ProposalIdempotencyRecord where
  idempotencyKey : String
  requestHash : String
  proposalId : String
  proposalVersionNo : ℕ
  createdAt : DateTime
deriving DecidableEq

end LotusAdvise.Proposals

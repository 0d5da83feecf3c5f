import LotusAdvise.AdvisorCockpit.ActionIdentity
import LotusAdvise.Proposals.Events

/-! # Action sources

Eleven kinds of sources ask for an action. Each has its own builder, which fixes the family of
the action and who owns it; the status and the reason codes say what the source waits for.
-/

namespace LotusAdvise.AdvisorCockpit

open Proposals

inductive PolicyReviewResult where
  | pendingReview
  | blocked
deriving DecidableEq

structure PolicyReviewActionSource where
  policyEvaluationId : String
  portfolioId : String
  proposalId : Option String := none
  policyResult : PolicyReviewResult
  summary : String := "Policy evaluation requires compliance review before advisor follow-up."
  dueAt : Option String := none
  sourceTimestamp : Option String := none
  materialityRank : ℕ := 80
  lineageId : Option String := none
  contentHash : Option String := none
  correlationId : Option String := none
deriving DecidableEq

structure MemoPackageBlockedActionSource where
  memoId : String
  proposalId : String
  portfolioId : Option String := none
  blockageCode : String
  summary : String := "Proposal memo package is blocked until source evidence is reviewed."
  ownerRole : AdvisorCockpitOwnerRole := .reportingOwner
  dueAt : Option String := none
  sourceTimestamp : Option String := none
  materialityRank : ℕ := 60
  lineageId : Option String := none
  contentHash : Option String := none
  correlationId : Option String := none
deriving DecidableEq

inductive MeetingPreparationContextType where
  | portfolio
  | proposal
  | client
  | household
deriving DecidableEq

structure MeetingPreparationActionSource where
  preparationId : String
  contextRef : String
  contextType : MeetingPreparationContextType := .portfolio
  portfolioId : Option String := none
  proposalId : Option String := none
  summary : String := "Meeting preparation packet is ready for advisor review."
  evidenceRefs : List CockpitEvidenceRef := []
  dueAt : Option String := none
  sourceTimestamp : Option String := none
  materialityRank : ℕ := 30
  correlationId : Option String := none
deriving DecidableEq

structure ClientFollowUpActionSource where
  followUpId : String
  proposalId : String
  portfolioId : Option String := none
  followUpCode : String
  summary : String :=
    "Advisor follow-up is required before the proposal can progress. External client " ++
      "communication remains outside the cockpit boundary."
  dueAt : Option String := none
  sourceTimestamp : Option String := none
  materialityRank : ℕ := 55
  correlationId : Option String := none
deriving DecidableEq

inductive ApprovalDependencyStatus where
  | pending
  | rejected
deriving DecidableEq

def ApprovalDependencyStatus.text : ApprovalDependencyStatus → String
  | .pending => "PENDING"
  | .rejected => "REJECTED"

structure ApprovalDependencyActionSource where
  dependencyId : String
  proposalId : String
  portfolioId : Option String := none
  approvalType : ProposalApprovalType
  approvalStatus : ApprovalDependencyStatus
  summary : String := "Proposal lifecycle approval dependency requires owner attention."
  dueAt : Option String := none
  sourceTimestamp : Option String := none
  materialityRank : ℕ := 72
  correlationId : Option String := none
deriving DecidableEq

structure ReportRenderArchiveActionSource where
  readinessId : String
  memoId : String
  proposalId : String
  portfolioId : Option String := none
  readinessCode : String
  summary : String := "Report/render/archive readiness requires owner attention."
  ownerRole : AdvisorCockpitOwnerRole := .reportingOwner
  dueAt : Option String := none
  sourceTimestamp : Option String := none
  materialityRank : ℕ := 58
  lineageId : Option String := none
  contentHash : Option String := none
  correlationId : Option String := none
deriving DecidableEq

structure ExecutionHandoffReadyActionSource where
  handoffId : String
  proposalId : String
  portfolioId : Option String := none
  summary : String := "Proposal is ready for execution handoff request."
  dueAt : Option String := none
  sourceTimestamp : Option String := none
  materialityRank : ℕ := 62
  correlationId : Option String := none
deriving DecidableEq

structure ExecutionStatusAttentionActionSource where
  executionRef : String
  proposalId : String
  portfolioId : Option String := none
  handoffStatus : ProposalExecutionHandoffStatus
  summary : String := "Execution handoff status requires advisor cockpit attention."
  dueAt : Option String := none
  sourceTimestamp : Option String := none
  materialityRank : ℕ := 64
  correlationId : Option String := none
deriving DecidableEq

structure HouseViewImpactActionSource where
  cohortId : String
  tacticalViewId : String
  tacticalViewVersion : String
  portfolioId : String
  impactCode : String
  summary : String := "Portfolio is affected by a source-backed tactical house view."
  lineageId : Option String := none
  contentHash : Option String := none
  dueAt : Option String := none
  sourceTimestamp : Option String := none
  materialityRank : ℕ := 52
  correlationId : Option String := none
deriving DecidableEq

structure SupportabilityDegradedActionSource where
  dependency : String
  state : CockpitDependencyState
  reasonCode : String
  summary : String := "A source dependency is degraded; cockpit evidence is not fully ready."
  portfolioId : Option String := none
  dueAt : Option String := none
  sourceTimestamp : Option String := none
  materialityRank : ℕ := 40
  correlationId : Option String := none
deriving DecidableEq

structure UnsupportedCapabilityActionSource where
  capability : AdvisorCockpitUnsupportedCapability
  contextRef : String
  reasonCode : String
  summary : String :=
    "This cockpit capability is not implementation-backed and must not be claimed."
  portfolioId : Option String := none
  sourceTimestamp : Option String := none
  correlationId : Option String := none
deriving DecidableEq

def handoffStatusText : ProposalExecutionHandoffStatus → String
  | .notRequested => "NOT_REQUESTED"
  | .requested => "REQUESTED"
  | .accepted => "ACCEPTED"
  | .partiallyExecuted => "PARTIALLY_EXECUTED"
  | .executed => "EXECUTED"
  | .rejected => "REJECTED"
  | .cancelled => "CANCELLED"
  | .expired => "EXPIRED"

/-- The statuses in which an execution does not go on. -/
def blockingHandoffStatus (status : ProposalExecutionHandoffStatus) : Bool :=
  status ∈ [.rejected, .cancelled, .expired]

section Approvals

def approvalActionFamily : ProposalApprovalType → AdvisorCockpitActionFamily
  | .clientConsent => .clientConsentRequired
  | _ => .approvalDependencyAging

def approvalActionStatus : ApprovalDependencyStatus → AdvisorCockpitActionStatus
  | .rejected => .blocked
  | .pending => .pendingReview

def approvalActionPriority : ApprovalDependencyStatus → AdvisorCockpitActionPriority
  | .rejected => .critical
  | .pending => .high

def approvalReasonCode (approvalType : ProposalApprovalType)
    (approvalStatus : ApprovalDependencyStatus) : String :=
  approvalType.text ++ "_APPROVAL_" ++ approvalStatus.text

def approvalReasonCodes (approvalType : ProposalApprovalType)
    (approvalStatus : ApprovalDependencyStatus) : List String :=
  [approvalReasonCode approvalType approvalStatus, "CLIENT_READY_BLOCKED"]

def approvalUnsupportedCapabilities :
    ProposalApprovalType → List AdvisorCockpitUnsupportedCapability
  | .clientConsent => [.externalClientCommunication, .crmSystemOfRecord]
  | _ => [.clientReadyPublication, .completedPolicyApprovalAuthority]

def approvalOwnerRole : ProposalApprovalType → AdvisorCockpitOwnerRole
  | .risk => .investmentDesk
  | .compliance => .complianceReviewer
  | .clientConsent => .advisor

def approvalActionTitle : ProposalApprovalType → String
  | .risk => "Risk review pending"
  | .compliance => "Compliance review pending"
  | .clientConsent => "Client consent required"

def approvalNextRequiredAction : ProposalApprovalType → String
  | .risk => "Review the proposal risk dependency before client consent can progress."
  | .compliance => "Review the compliance dependency before client consent can progress."
  | .clientConsent =>
    "Record source-backed consent posture before execution readiness can change."

end Approvals

section Builders

variable (services : CockpitServices)

def policyReviewStatus : PolicyReviewResult → AdvisorCockpitActionStatus
  | .pendingReview => .pendingReview
  | .blocked => .blocked

def policyReviewReasonCode : PolicyReviewResult → String
  | .pendingReview => "POLICY_PENDING_REVIEW"
  | .blocked => "POLICY_BLOCKED"

def buildPolicyReviewRequiredAction (source : PolicyReviewActionSource) :
    Except ProposalError AdvisoryActionItem := do
  let evidence ← evidenceRef services source.policyEvaluationId "POLICY_EVALUATION" source.summary
    .restrictedCustomerEvidence
  let gap ← sourceReadinessGap services "policy" (policyReviewReasonCode source.policyResult)
    .complianceReviewer
    "Policy review must be resolved before the proposal can become client-ready."
  let lineage ← lineageRefs services source.lineageId source.contentHash
  buildSourceBackedAction services
    { sourceActionId := source.policyEvaluationId
      actionFamily := .policyReviewRequired
      status := policyReviewStatus source.policyResult
      priority := .high
      ownerRole := .complianceReviewer
      title := "Policy review required"
      nextRequiredAction :=
        "Review the policy evaluation before advisor follow-up or client-ready release."
      reasonCodes := [policyReviewReasonCode source.policyResult, "CLIENT_READY_BLOCKED"]
      sourceRefs :=
        { portfolioId := some source.portfolioId
          proposalId := source.proposalId
          policyEvaluationId := some source.policyEvaluationId }
      dueAt := source.dueAt
      slaAgeBand := initialSlaAgeBand source.dueAt
      materialityRank := source.materialityRank
      sourceTimestamp := source.sourceTimestamp
      evidenceRefs := [evidence]
      sourceReadinessGaps := [gap]
      lineageRefs := lineage
      unsupportedCapabilities := [.clientReadyPublication, .completedPolicyApprovalAuthority,
        .completedPolicySignOffAuthority]
      correlationId := source.correlationId }

def buildMemoPackageBlockedAction (source : MemoPackageBlockedActionSource) :
    Except ProposalError AdvisoryActionItem := do
  let evidence ← evidenceRef services source.memoId "PROPOSAL_MEMO" source.summary
    .restrictedCustomerEvidence
  let gap ← sourceReadinessGap services "proposal_memo" source.blockageCode source.ownerRole
    "Memo source evidence must be resolved before packaging continues."
  let lineage ← lineageRefs services source.lineageId source.contentHash
  buildSourceBackedAction services
    { sourceActionId := source.memoId
      actionFamily := .memoPackageBlocked
      status := .blocked
      priority := .high
      ownerRole := source.ownerRole
      title := "Memo package blocked"
      nextRequiredAction := "Resolve the memo evidence gap before advisor-use packaging."
      reasonCodes := [source.blockageCode, "CLIENT_READY_BLOCKED"]
      sourceRefs :=
        { portfolioId := source.portfolioId
          proposalId := some source.proposalId
          memoId := some source.memoId }
      dueAt := source.dueAt
      slaAgeBand := initialSlaAgeBand source.dueAt
      materialityRank := source.materialityRank
      sourceTimestamp := source.sourceTimestamp
      evidenceRefs := [evidence]
      sourceReadinessGaps := [gap]
      lineageRefs := lineage
      unsupportedCapabilities := [.clientReadyPublication]
      correlationId := source.correlationId }

/-- The portfolio of a preparation is its context when that is a portfolio. -/
def meetingPreparationPortfolio (source : MeetingPreparationActionSource) : Option String :=
  if source.contextType = .portfolio ∧ source.portfolioId = none then some source.contextRef
  else source.portfolioId

def meetingPreparationEvidence (source : MeetingPreparationActionSource) :
    Except ProposalError (List CockpitEvidenceRef) :=
  if source.evidenceRefs ≠ [] then .ok source.evidenceRefs
  else (evidenceRef services source.preparationId "MEETING_PREPARATION_PACKET" source.summary
    .customerConsumableSummary).map fun evidence => [evidence]

def buildMeetingPreparationAction (source : MeetingPreparationActionSource) :
    Except ProposalError AdvisoryActionItem := do
  let evidenceRefs ← meetingPreparationEvidence services source
  buildSourceBackedAction services
    { sourceActionId := source.preparationId
      actionFamily := .clientMeetingPreparation
      status := .ready
      priority := .medium
      ownerRole := .advisor
      title := "Meeting preparation ready"
      nextRequiredAction := "Review the meeting preparation packet before client discussion."
      reasonCodes := ["MEETING_PREPARATION_READY"]
      sourceRefs :=
        { portfolioId := meetingPreparationPortfolio source
          proposalId := source.proposalId }
      dueAt := source.dueAt
      slaAgeBand := initialSlaAgeBand source.dueAt
      materialityRank := source.materialityRank
      sourceTimestamp := source.sourceTimestamp
      evidenceRefs
      correlationId := source.correlationId }

def buildClientFollowUpAction (source : ClientFollowUpActionSource) :
    Except ProposalError AdvisoryActionItem := do
  let evidence ← evidenceRef services source.followUpId "CLIENT_FOLLOW_UP_REQUIREMENT"
    source.summary .customerConsumableSummary
  let gap ← sourceReadinessGap services "proposal_lifecycle" source.followUpCode .advisor
    source.summary
  buildSourceBackedAction services
    { sourceActionId := source.followUpId
      actionFamily := .clientFollowUpRequired
      status := .ready
      priority := .high
      ownerRole := .advisor
      title := "Client follow-up required"
      nextRequiredAction :=
        "Review the source-backed follow-up requirement before taking any client action."
      reasonCodes := [source.followUpCode, "EXTERNAL_CLIENT_COMMUNICATION_BLOCKED"]
      sourceRefs :=
        { portfolioId := source.portfolioId
          proposalId := some source.proposalId }
      dueAt := source.dueAt
      slaAgeBand := initialSlaAgeBand source.dueAt
      materialityRank := source.materialityRank
      sourceTimestamp := source.sourceTimestamp
      evidenceRefs := [evidence]
      sourceReadinessGaps := [gap]
      unsupportedCapabilities := [.externalClientCommunication, .crmSystemOfRecord]
      correlationId := source.correlationId }

def buildApprovalDependencyAction (source : ApprovalDependencyActionSource) :
    Except ProposalError AdvisoryActionItem := do
  let evidence ← evidenceRef services source.dependencyId "PROPOSAL_APPROVAL_DEPENDENCY"
    source.summary .customerConsumableSummary
  let gap ← sourceReadinessGap services "proposal_lifecycle"
    (approvalReasonCode source.approvalType source.approvalStatus)
    (approvalOwnerRole source.approvalType) source.summary
  buildSourceBackedAction services
    { sourceActionId := source.dependencyId
      actionFamily := approvalActionFamily source.approvalType
      status := approvalActionStatus source.approvalStatus
      priority := approvalActionPriority source.approvalStatus
      ownerRole := approvalOwnerRole source.approvalType
      title := approvalActionTitle source.approvalType
      nextRequiredAction := approvalNextRequiredAction source.approvalType
      reasonCodes := approvalReasonCodes source.approvalType source.approvalStatus
      sourceRefs :=
        { portfolioId := source.portfolioId
          proposalId := some source.proposalId }
      dueAt := source.dueAt
      slaAgeBand := initialSlaAgeBand source.dueAt
      materialityRank := source.materialityRank
      sourceTimestamp := source.sourceTimestamp
      evidenceRefs := [evidence]
      sourceReadinessGaps := [gap]
      unsupportedCapabilities := approvalUnsupportedCapabilities source.approvalType
      correlationId := source.correlationId }

def buildReportRenderArchiveAction (source : ReportRenderArchiveActionSource) :
    Except ProposalError AdvisoryActionItem := do
  let evidence ← evidenceRef services source.readinessId "REPORT_RENDER_ARCHIVE_READINESS"
    source.summary .customerConsumableSummary
  let gap ← sourceReadinessGap services "report_render_archive" source.readinessCode
    source.ownerRole source.summary
  let lineage ← lineageRefs services source.lineageId source.contentHash
  buildSourceBackedAction services
    { sourceActionId := source.readinessId
      actionFamily := .reportRenderArchiveBlocked
      status := .blocked
      priority := .high
      ownerRole := source.ownerRole
      title := "Report and archive readiness blocked"
      nextRequiredAction :=
        "Resolve report/render/archive readiness before presenting completed packaging."
      reasonCodes := [source.readinessCode, "CLIENT_READY_BLOCKED"]
      sourceRefs :=
        { portfolioId := source.portfolioId
          proposalId := some source.proposalId
          memoId := some source.memoId
          reportRef := some source.readinessId }
      dueAt := source.dueAt
      slaAgeBand := initialSlaAgeBand source.dueAt
      materialityRank := source.materialityRank
      sourceTimestamp := source.sourceTimestamp
      evidenceRefs := [evidence]
      sourceReadinessGaps := [gap]
      lineageRefs := lineage
      unsupportedCapabilities := [.clientReadyPublication]
      correlationId := source.correlationId }

def buildExecutionHandoffReadyAction (source : ExecutionHandoffReadyActionSource) :
    Except ProposalError AdvisoryActionItem := do
  let evidence ← evidenceRef services source.handoffId "PROPOSAL_EXECUTION_HANDOFF_READINESS"
    source.summary .customerConsumableSummary
  buildSourceBackedAction services
    { sourceActionId := source.handoffId
      actionFamily := .executionHandoffReady
      status := .ready
      priority := .medium
      ownerRole := .executionOwner
      title := "Execution handoff ready"
      nextRequiredAction :=
        "Request execution handoff through the governed Advise execution boundary."
      reasonCodes := ["EXECUTION_HANDOFF_READY", "OMS_ORDER_LIFECYCLE_BLOCKED"]
      sourceRefs :=
        { portfolioId := source.portfolioId
          proposalId := some source.proposalId
          executionRef := some source.handoffId }
      dueAt := source.dueAt
      slaAgeBand := initialSlaAgeBand source.dueAt
      materialityRank := source.materialityRank
      sourceTimestamp := source.sourceTimestamp
      evidenceRefs := [evidence]
      unsupportedCapabilities := [.omsOrderLifecycle]
      correlationId := source.correlationId }

def executionAttentionStatus (status : ProposalExecutionHandoffStatus) :
    AdvisorCockpitActionStatus :=
  if blockingHandoffStatus status then .blocked else .pendingReview

def buildExecutionStatusAttentionAction (source : ExecutionStatusAttentionActionSource) :
    Except ProposalError AdvisoryActionItem := do
  let evidence ← evidenceRef services source.executionRef "PROPOSAL_EXECUTION_STATUS"
    source.summary .customerConsumableSummary
  buildSourceBackedAction services
    { sourceActionId := source.executionRef
      actionFamily := .executionStatusAttention
      status := executionAttentionStatus source.handoffStatus
      priority := if blockingHandoffStatus source.handoffStatus then .high else .medium
      ownerRole := .executionOwner
      title := "Execution status attention"
      nextRequiredAction :=
        "Review downstream execution posture without treating Advise as the OMS."
      reasonCodes := ["EXECUTION_STATUS_" ++ handoffStatusText source.handoffStatus,
        "OMS_ORDER_LIFECYCLE_BLOCKED"]
      sourceRefs :=
        { portfolioId := source.portfolioId
          proposalId := some source.proposalId
          executionRef := some source.executionRef }
      dueAt := source.dueAt
      slaAgeBand := initialSlaAgeBand source.dueAt
      materialityRank := source.materialityRank
      sourceTimestamp := source.sourceTimestamp
      evidenceRefs := [evidence]
      unsupportedCapabilities := [.omsOrderLifecycle]
      correlationId := source.correlationId }

def buildHouseViewImpactAction (source : HouseViewImpactActionSource) :
    Except ProposalError AdvisoryActionItem := do
  let evidence ← evidenceRef services source.cohortId "TACTICAL_HOUSE_VIEW_COHORT" source.summary
    .customerConsumableSummary
  let lineage ← lineageRefs services
    (some (orText source.lineageId ("tactical_house_view_cohort:" ++ source.cohortId)))
    source.contentHash
  buildSourceBackedAction services
    { sourceActionId := source.cohortId
      actionFamily := .houseViewImpactReview
      status := .pendingReview
      priority := .medium
      ownerRole := .portfolioManager
      title := "Tactical house-view impact review"
      nextRequiredAction :=
        "Review the source-backed tactical house-view cohort before discretionary " ++
          "portfolio-management actioning."
      reasonCodes := [source.impactCode, "TACTICAL_HOUSE_VIEW_REVIEW_REQUIRED"]
      sourceRefs := { portfolioId := some source.portfolioId }
      dueAt := source.dueAt
      slaAgeBand := initialSlaAgeBand source.dueAt
      materialityRank := source.materialityRank
      sourceTimestamp := source.sourceTimestamp
      evidenceRefs := [evidence]
      lineageRefs := lineage
      correlationId := source.correlationId }

/-- The dependency states that block an action. -/
def blockingDependencyState (state : CockpitDependencyState) : Bool :=
  state ∈ [.unavailable, .notConfigured]

def dependencyAttentionStatus (state : CockpitDependencyState) : AdvisorCockpitActionStatus :=
  if blockingDependencyState state then .blocked else .pendingReview

def buildSupportabilityDegradedAction (source : SupportabilityDegradedActionSource) :
    Except ProposalError AdvisoryActionItem := do
  let readiness ← dependencyReadiness services source.dependency source.state source.reasonCode
    source.summary
  buildSourceBackedAction services
    { sourceActionId := source.dependency ++ "_" ++ source.reasonCode
      actionFamily := .supportabilityDegraded
      status := dependencyAttentionStatus source.state
      priority := if blockingDependencyState source.state then .high else .medium
      ownerRole := .system
      title := "Cockpit source supportability attention"
      nextRequiredAction := "Review source readiness before relying on the cockpit posture."
      reasonCodes := [source.reasonCode, "DEPENDENCY_" ++ source.state.text]
      sourceRefs := { portfolioId := source.portfolioId }
      dueAt := source.dueAt
      slaAgeBand := initialSlaAgeBand source.dueAt
      materialityRank := source.materialityRank
      sourceTimestamp := source.sourceTimestamp
      dependencyReadiness := [readiness]
      correlationId := source.correlationId }

def buildUnsupportedCapabilityAction (source : UnsupportedCapabilityActionSource) :
    Except ProposalError AdvisoryActionItem :=
  buildSourceBackedAction services
    { sourceActionId := source.contextRef ++ "_" ++ source.capability.text
      actionFamily := .unsupportedCapability
      status := .blocked
      priority := .informational
      ownerRole := .system
      title := "Unsupported cockpit capability"
      nextRequiredAction := "Do not present this capability as supported."
      reasonCodes := [source.reasonCode]
      sourceRefs := { portfolioId := source.portfolioId }
      sourceTimestamp := source.sourceTimestamp
      unsupportedCapabilities := [source.capability]
      correlationId := source.correlationId }

end Builders

inductive ActionSource where
  | policyReview (source : PolicyReviewActionSource)
  | memoBlock (source : MemoPackageBlockedActionSource)
  | meetingPreparation (source : MeetingPreparationActionSource)
  | clientFollowUp (source : ClientFollowUpActionSource)
  | approvalDependency (source : ApprovalDependencyActionSource)
  | reportRenderArchive (source : ReportRenderArchiveActionSource)
  | executionHandoff (source : ExecutionHandoffReadyActionSource)
  | executionStatus (source : ExecutionStatusAttentionActionSource)
  | houseViewImpact (source : HouseViewImpactActionSource)
  | supportability (source : SupportabilityDegradedActionSource)
  | unsupportedCapability (source : UnsupportedCapabilityActionSource)
deriving DecidableEq

/-- What a builder takes over from its source unchanged. -/
structure ActionOutline where
  sourceActionId : String
  actionFamily : AdvisorCockpitActionFamily
  status : AdvisorCockpitActionStatus
  ownerRole : AdvisorCockpitOwnerRole
  reasonCodes : List String
  dueAt : Option String

namespace ActionSource

def outline : ActionSource → ActionOutline
  | policyReview s => ⟨s.policyEvaluationId, .policyReviewRequired,
      policyReviewStatus s.policyResult, .complianceReviewer,
      [policyReviewReasonCode s.policyResult, "CLIENT_READY_BLOCKED"], s.dueAt⟩
  | memoBlock s => ⟨s.memoId, .memoPackageBlocked, .blocked, s.ownerRole,
      [s.blockageCode, "CLIENT_READY_BLOCKED"], s.dueAt⟩
  | meetingPreparation s => ⟨s.preparationId, .clientMeetingPreparation, .ready, .advisor,
      ["MEETING_PREPARATION_READY"], s.dueAt⟩
  | clientFollowUp s => ⟨s.followUpId, .clientFollowUpRequired, .ready, .advisor,
      [s.followUpCode, "EXTERNAL_CLIENT_COMMUNICATION_BLOCKED"], s.dueAt⟩
  | approvalDependency s => ⟨s.dependencyId, approvalActionFamily s.approvalType,
      approvalActionStatus s.approvalStatus, approvalOwnerRole s.approvalType,
      approvalReasonCodes s.approvalType s.approvalStatus, s.dueAt⟩
  | reportRenderArchive s => ⟨s.readinessId, .reportRenderArchiveBlocked, .blocked, s.ownerRole,
      [s.readinessCode, "CLIENT_READY_BLOCKED"], s.dueAt⟩
  | executionHandoff s => ⟨s.handoffId, .executionHandoffReady, .ready, .executionOwner,
      ["EXECUTION_HANDOFF_READY", "OMS_ORDER_LIFECYCLE_BLOCKED"], s.dueAt⟩
  | executionStatus s => ⟨s.executionRef, .executionStatusAttention,
      executionAttentionStatus s.handoffStatus, .executionOwner,
      ["EXECUTION_STATUS_" ++ handoffStatusText s.handoffStatus, "OMS_ORDER_LIFECYCLE_BLOCKED"],
      s.dueAt⟩
  | houseViewImpact s => ⟨s.cohortId, .houseViewImpactReview, .pendingReview, .portfolioManager,
      [s.impactCode, "TACTICAL_HOUSE_VIEW_REVIEW_REQUIRED"], s.dueAt⟩
  | supportability s => ⟨s.dependency ++ "_" ++ s.reasonCode, .supportabilityDegraded,
      dependencyAttentionStatus s.state, .system,
      [s.reasonCode, "DEPENDENCY_" ++ s.state.text], s.dueAt⟩
  | unsupportedCapability s => ⟨s.contextRef ++ "_" ++ s.capability.text, .unsupportedCapability,
      .blocked, .system, [s.reasonCode], none⟩

/-- The proposal that a source is about. -/
def proposalId : ActionSource → Option String
  | policyReview s => s.proposalId
  | memoBlock s => some s.proposalId
  | meetingPreparation s => s.proposalId
  | clientFollowUp s => some s.proposalId
  | approvalDependency s => some s.proposalId
  | reportRenderArchive s => some s.proposalId
  | executionHandoff s => some s.proposalId
  | executionStatus s => some s.proposalId
  | houseViewImpact _ => none
  | supportability _ => none
  | unsupportedCapability _ => none

def buildAction (services : CockpitServices) :
    ActionSource → Except ProposalError AdvisoryActionItem
  | policyReview source => buildPolicyReviewRequiredAction services source
  | memoBlock source => buildMemoPackageBlockedAction services source
  | meetingPreparation source => buildMeetingPreparationAction services source
  | clientFollowUp source => buildClientFollowUpAction services source
  | approvalDependency source => buildApprovalDependencyAction services source
  | reportRenderArchive source => buildReportRenderArchiveAction services source
  | executionHandoff source => buildExecutionHandoffReadyAction services source
  | executionStatus source => buildExecutionStatusAttentionAction services source
  | houseViewImpact source => buildHouseViewImpactAction services source
  | supportability source => buildSupportabilityDegradedAction services source
  | unsupportedCapability source => buildUnsupportedCapabilityAction services source

def actionItemId (services : CockpitServices) (source : ActionSource) : String :=
  buildActionItemId services source.outline.actionFamily.text source.outline.sourceActionId

end ActionSource

/-- The items of the sources in their order, each by the builder of its kind. -/
def buildSourceActions (services : CockpitServices) (sources : List ActionSource) :
    Except ProposalError (List AdvisoryActionItem) :=
  sources.mapM (ActionSource.buildAction services)

section Lemmas

variable {services : CockpitServices} {source : ActionSource} {action : AdvisoryActionItem}

/-- What an action shows of its source. -/
structure Shows (services : CockpitServices) (source : ActionSource)
    (action : AdvisoryActionItem) : Prop where
  actionItemId : action.actionItemId = source.actionItemId services
  actionItemVersion : action.actionItemVersion = 1
  status : action.status = source.outline.status
  ownerRole : action.ownerRole = source.outline.ownerRole
  reasonCodes : action.reasonCodes = (uniqueOrdered source.outline.reasonCodes).map normalizedText
  dueAt : source.outline.dueAt = none → action.dueAt = none
  unacknowledged : action.acknowledgementState = { acknowledged := false }
  checked : normalizeRequiredIdentifier services "cockpit action reference" action.actionItemId =
    .ok action.actionItemId

theorem Shows.of_builds {input : CockpitActionConstructionInput}
    (h : buildSourceBackedAction services input = .ok action)
    (houtline : source.outline = ⟨input.sourceActionId, input.actionFamily, input.status,
      input.ownerRole, input.reasonCodes, input.dueAt⟩) : Shows services source action := by
  obtain ⟨builds, hchecked⟩ := builds_of_buildSourceBackedAction h
  refine ⟨?_, builds.actionItemVersion, ?_, ?_, ?_, ?_, builds.unacknowledged, hchecked⟩
  · rw [ActionSource.actionItemId, houtline]
    exact builds.actionItemId
  all_goals rw [houtline]
  · exact builds.status
  · exact builds.ownerRole
  · exact builds.reasonCodes
  · exact builds.dueAt

theorem shows_of_buildAction (h : source.buildAction services = .ok action) :
    Shows services source action := by
  cases source with
  | policyReview s | memoBlock s | reportRenderArchive s =>
    obtain ⟨_, _, h⟩ := bind_eq_ok.mp h
    obtain ⟨_, _, h⟩ := bind_eq_ok.mp h
    obtain ⟨_, _, h⟩ := bind_eq_ok.mp h
    exact .of_builds h rfl
  | clientFollowUp s | approvalDependency s | houseViewImpact s =>
    obtain ⟨_, _, h⟩ := bind_eq_ok.mp h
    obtain ⟨_, _, h⟩ := bind_eq_ok.mp h
    exact .of_builds h rfl
  | meetingPreparation s | executionHandoff s | executionStatus s | supportability s =>
    obtain ⟨_, _, h⟩ := bind_eq_ok.mp h
    exact .of_builds h rfl
  | unsupportedCapability s => exact .of_builds h rfl

end Lemmas

end LotusAdvise.AdvisorCockpit

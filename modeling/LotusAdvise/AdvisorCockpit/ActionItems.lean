import LotusAdvise.AdvisorCockpit.References
import Mathlib.Data.Prod.Lex

/-! # Action items

The vocabulary of the cockpit, the references that an action item carries, and how an item is
built from what its source supplies. The models check and normalize their fields when they are
built, so that building one can fail. The order of the queue is the one of the sort key.
-/

namespace LotusAdvise.AdvisorCockpit

open Proposals

inductive AdvisorCockpitActionStatus where
  | ready
  | pendingReview
  | blocked
  | acknowledged
  | handoffRequested
  | completed
  | superseded
deriving DecidableEq

inductive AdvisorCockpitActionPriority where
  | critical
  | high
  | medium
  | low
  | informational
deriving DecidableEq

/-- The roles that own an action, which are the roles of the callers. -/
inductive AdvisorCockpitOwnerRole where
  | advisor
  | deskHead
  | complianceReviewer
  | investmentDesk
  | portfolioManager
  | operations
  | crmOwner
  | reportingOwner
  | archiveOwner
  | executionOwner
  | system
deriving DecidableEq

abbrev AdvisorCockpitCallerRole := AdvisorCockpitOwnerRole

inductive AdvisorCockpitSlaAgeBand where
  | notDue
  | dueSoon
  | dueNow
  | overdue
  | criticalOverdue
  | notApplicable
deriving DecidableEq

inductive AdvisorCockpitActionFamily where
  | clientMeetingPreparation
  | proposalReadyForReview
  | proposalBlockedBySourceGap
  | policyReviewRequired
  | approvalDependencyAging
  | clientConsentRequired
  | memoPackageBlocked
  | reportRenderArchiveBlocked
  | executionHandoffReady
  | executionStatusAttention
  | houseViewImpactReview
  | workspaceDraftStale
  | clientFollowUpRequired
  | supportabilityDegraded
  | unsupportedCapability
deriving DecidableEq

inductive CockpitEvidenceAccessClass where
  | customerConsumableSummary
  | restrictedCustomerEvidence
  | operatorOnlySupportability
  | internalOnlyDiagnostics
deriving DecidableEq

inductive CockpitDependencyState where
  | ready
  | degraded
  | unavailable
  | notConfigured
deriving DecidableEq

inductive AdvisorCockpitUnsupportedCapability where
  | clientReadyPublication
  | externalClientCommunication
  | crmSystemOfRecord
  | calendarScheduling
  | omsOrderLifecycle
  | completedPolicyApprovalAuthority
  | completedPolicySignOffAuthority
  | fullRfc0028DemoRfpPackage
deriving DecidableEq

def AdvisorCockpitOwnerRole.text : AdvisorCockpitOwnerRole → String
  | .advisor => "ADVISOR"
  | .deskHead => "DESK_HEAD"
  | .complianceReviewer => "COMPLIANCE_REVIEWER"
  | .investmentDesk => "INVESTMENT_DESK"
  | .portfolioManager => "PORTFOLIO_MANAGER"
  | .operations => "OPERATIONS"
  | .crmOwner => "CRM_OWNER"
  | .reportingOwner => "REPORTING_OWNER"
  | .archiveOwner => "ARCHIVE_OWNER"
  | .executionOwner => "EXECUTION_OWNER"
  | .system => "SYSTEM"

def AdvisorCockpitActionStatus.text : AdvisorCockpitActionStatus → String
  | .ready => "READY"
  | .pendingReview => "PENDING_REVIEW"
  | .blocked => "BLOCKED"
  | .acknowledged => "ACKNOWLEDGED"
  | .handoffRequested => "HANDOFF_REQUESTED"
  | .completed => "COMPLETED"
  | .superseded => "SUPERSEDED"

def AdvisorCockpitActionFamily.text : AdvisorCockpitActionFamily → String
  | .clientMeetingPreparation => "CLIENT_MEETING_PREPARATION"
  | .proposalReadyForReview => "PROPOSAL_READY_FOR_REVIEW"
  | .proposalBlockedBySourceGap => "PROPOSAL_BLOCKED_BY_SOURCE_GAP"
  | .policyReviewRequired => "POLICY_REVIEW_REQUIRED"
  | .approvalDependencyAging => "APPROVAL_DEPENDENCY_AGING"
  | .clientConsentRequired => "CLIENT_CONSENT_REQUIRED"
  | .memoPackageBlocked => "MEMO_PACKAGE_BLOCKED"
  | .reportRenderArchiveBlocked => "REPORT_RENDER_ARCHIVE_BLOCKED"
  | .executionHandoffReady => "EXECUTION_HANDOFF_READY"
  | .executionStatusAttention => "EXECUTION_STATUS_ATTENTION"
  | .houseViewImpactReview => "HOUSE_VIEW_IMPACT_REVIEW"
  | .workspaceDraftStale => "WORKSPACE_DRAFT_STALE"
  | .clientFollowUpRequired => "CLIENT_FOLLOW_UP_REQUIRED"
  | .supportabilityDegraded => "SUPPORTABILITY_DEGRADED"
  | .unsupportedCapability => "UNSUPPORTED_CAPABILITY"

/-- The lower case of a family, which is its normal form. -/
def AdvisorCockpitActionFamily.lowerText (family : AdvisorCockpitActionFamily) : String :=
  String.ofList (family.text.toList.map Char.toLower)

def CockpitDependencyState.text : CockpitDependencyState → String
  | .ready => "READY"
  | .degraded => "DEGRADED"
  | .unavailable => "UNAVAILABLE"
  | .notConfigured => "NOT_CONFIGURED"

def AdvisorCockpitUnsupportedCapability.text : AdvisorCockpitUnsupportedCapability → String
  | .clientReadyPublication => "CLIENT_READY_PUBLICATION"
  | .externalClientCommunication => "EXTERNAL_CLIENT_COMMUNICATION"
  | .crmSystemOfRecord => "CRM_SYSTEM_OF_RECORD"
  | .calendarScheduling => "CALENDAR_SCHEDULING"
  | .omsOrderLifecycle => "OMS_ORDER_LIFECYCLE"
  | .completedPolicyApprovalAuthority => "COMPLETED_POLICY_APPROVAL_AUTHORITY"
  | .completedPolicySignOffAuthority => "COMPLETED_POLICY_SIGN_OFF_AUTHORITY"
  | .fullRfc0028DemoRfpPackage => "FULL_RFC0028_DEMO_RFP_PACKAGE"

/-- The label of a role. The table of the source has every role in it. -/
def cockpitOwnerRoleLabel : AdvisorCockpitOwnerRole → String
  | .advisor => "Advisor"
  | .deskHead => "Desk head"
  | .complianceReviewer => "Compliance reviewer"
  | .investmentDesk => "Investment desk"
  | .portfolioManager => "Portfolio manager"
  | .operations => "Operations"
  | .crmOwner => "Client-relationship owner"
  | .reportingOwner => "Reporting owner"
  | .archiveOwner => "Archive owner"
  | .executionOwner => "Execution owner"
  | .system => "System"

section References

structure CockpitEvidenceRef where
  evidenceId : String
  evidenceType : String
  sourceSystem : String
  accessClass : CockpitEvidenceAccessClass
  summary : String
deriving DecidableEq

structure CockpitLineageRef where
  lineageId : String
  sourceSystem : String
  contentHash : Option String
deriving DecidableEq

structure CockpitSourceReadinessGap where
  sourceFamily : String
  gapCode : String
  ownerRole : AdvisorCockpitOwnerRole
  message : String
deriving DecidableEq

structure CockpitDependencyReadiness where
  dependency : String
  state : CockpitDependencyState
  reasonCode : String
  summary : String
deriving DecidableEq

structure CockpitAcknowledgementState where
  acknowledged : Bool
  acknowledgementId : Option String := none
  acknowledgedBy : Option String := none
  acknowledgedAt : Option String := none
  acknowledgementNote : Option String := none
deriving DecidableEq

structure CockpitCallerContext where
  advisorId : Option String := none
  deskId : Option String := none
  coverageTeamId : Option String := none
  role : AdvisorCockpitCallerRole
  demoContext : Bool := false

structure CockpitActionSourceRefs where
  clientRef : Option String := none
  householdRef : Option String := none
  portfolioId : Option String := none
  proposalId : Option String := none
  workspaceId : Option String := none
  memoId : Option String := none
  policyEvaluationId : Option String := none
  reportRef : Option String := none
  executionRef : Option String := none

end References

/-- What the builder of an action supplies. -/
structure CockpitActionConstructionInput where
  sourceActionId : String
  actionFamily : AdvisorCockpitActionFamily
  status : AdvisorCockpitActionStatus
  priority : AdvisorCockpitActionPriority
  ownerRole : AdvisorCockpitOwnerRole
  title : String
  nextRequiredAction : String
  reasonCodes : List String
  sourceRefs : CockpitActionSourceRefs := {}
  dueAt : Option String := none
  slaAgeBand : AdvisorCockpitSlaAgeBand := .notApplicable
  materialityRank : ℕ := 0
  sourceTimestamp : Option String := none
  evidenceRefs : List CockpitEvidenceRef := []
  sourceReadinessGaps : List CockpitSourceReadinessGap := []
  dependencyReadiness : List CockpitDependencyReadiness := []
  lineageRefs : List CockpitLineageRef := []
  unsupportedCapabilities : List AdvisorCockpitUnsupportedCapability := []
  correlationId : Option String := none

structure AdvisoryActionItem where
  actionItemId : String
  actionItemVersion : ℕ
  actionFamily : AdvisorCockpitActionFamily
  status : AdvisorCockpitActionStatus
  priority : AdvisorCockpitActionPriority
  ownerRole : AdvisorCockpitOwnerRole
  ownerRoleLabel : String
  owningSystem : String
  title : String
  nextRequiredAction : String
  reasonCodes : List String
  clientRef : Option String
  householdRef : Option String
  portfolioId : Option String
  proposalId : Option String
  workspaceId : Option String
  memoId : Option String
  policyEvaluationId : Option String
  reportRef : Option String
  executionRef : Option String
  dueAt : Option String
  slaAgeBand : AdvisorCockpitSlaAgeBand
  materialityRank : ℕ
  sourceTimestamp : Option String
  evidenceRefs : List CockpitEvidenceRef
  sourceReadinessGaps : List CockpitSourceReadinessGap
  dependencyReadiness : List CockpitDependencyReadiness
  lineageRefs : List CockpitLineageRef
  acknowledgementState : CockpitAcknowledgementState := { acknowledged := false }
  unsupportedCapabilities : List AdvisorCockpitUnsupportedCapability
  correlationId : Option String
deriving DecidableEq

def lotusAdviseSourceSystem : String := "lotus-advise"

section Components

variable (services : CockpitServices)

def evidenceRef (evidenceId evidenceType summary : String)
    (accessClass : CockpitEvidenceAccessClass) : Except ProposalError CockpitEvidenceRef := do
  let evidenceId ← normalizeRequiredIdentifier services "cockpit evidence reference"
    (boundedReference services evidenceId)
  let evidenceType ← normalizeRequiredIdentifier services "cockpit evidence reference"
    (boundedReference services evidenceType)
  let sourceSystem ← normalizeRequiredIdentifier services "cockpit evidence reference"
    lotusAdviseSourceSystem
  let summary ← normalizeBusinessText services "cockpit evidence summary" (boundedSummary summary)
  return { evidenceId, evidenceType, sourceSystem, accessClass, summary }

def lineageRefs (lineageId contentHash : Option String) :
    Except ProposalError (List CockpitLineageRef) :=
  match lineageId with
  | none => .ok []
  | some lineageId => do
    let lineageId ← normalizeRequiredIdentifier services "cockpit lineage reference"
      (boundedReference services lineageId)
    let sourceSystem ← normalizeRequiredIdentifier services "cockpit lineage reference"
      lotusAdviseSourceSystem
    let contentHash ← normalizeOptionalIdentifier services "cockpit lineage hash"
      (boundedContentHash services contentHash)
    return [{ lineageId, sourceSystem, contentHash }]

def sourceReadinessGap (sourceFamily gapCode : String) (ownerRole : AdvisorCockpitOwnerRole)
    (message : String) : Except ProposalError CockpitSourceReadinessGap := do
  let sourceFamily ← normalizeRequiredIdentifier services "cockpit source gap reference"
    (boundedReference services sourceFamily)
  let gapCode ← normalizeRequiredIdentifier services "cockpit source gap reference"
    (boundedReference services gapCode)
  let message ← normalizeBusinessText services "cockpit source gap message" (boundedSummary message)
  return { sourceFamily, gapCode, ownerRole, message }

def dependencyReadiness (dependency : String) (state : CockpitDependencyState)
    (reasonCode summary : String) : Except ProposalError CockpitDependencyReadiness := do
  let dependency ← normalizeRequiredIdentifier services "cockpit dependency reference"
    (boundedReference services dependency)
  let reasonCode ← normalizeRequiredIdentifier services "cockpit dependency reference"
    (boundedReference services reasonCode)
  let summary ← normalizeBusinessText services "cockpit dependency summary" (boundedSummary summary)
  return { dependency, state, reasonCode, summary }

def initialSlaAgeBand (dueAt : Option String) : AdvisorCockpitSlaAgeBand :=
  if (presentKey dueAt).isSome then .dueSoon else .notApplicable

def boundedSourceRefs (refs : CockpitActionSourceRefs) : CockpitActionSourceRefs where
  clientRef := boundedOptionalReference services refs.clientRef
  householdRef := boundedOptionalReference services refs.householdRef
  portfolioId := boundedOptionalReference services refs.portfolioId
  proposalId := boundedOptionalReference services refs.proposalId
  workspaceId := boundedOptionalReference services refs.workspaceId
  memoId := boundedOptionalReference services refs.memoId
  policyEvaluationId := boundedOptionalReference services refs.policyEvaluationId
  reportRef := boundedOptionalReference services refs.reportRef
  executionRef := boundedOptionalReference services refs.executionRef

/-- The values without those that came before. -/
def uniqueOrdered {α : Type} [DecidableEq α] (values : List α) : List α :=
  values.foldl (fun unique value => if value ∈ unique then unique else unique ++ [value]) []

end Components

section Builder

variable (services : CockpitServices)

/-- The validators of an action item, which normalize the fields that they check. -/
def AdvisoryActionItem.validated (item : AdvisoryActionItem) :
    Except ProposalError AdvisoryActionItem := do
  let actionItemId ← normalizeRequiredIdentifier services "cockpit action reference"
    item.actionItemId
  let owningSystem ← normalizeRequiredIdentifier services "cockpit action reference"
    item.owningSystem
  let title ← normalizeBusinessText services "cockpit action copy" item.title
  let nextRequiredAction ← normalizeBusinessText services "cockpit action copy"
    item.nextRequiredAction
  let reasonCodes ← normalizeIdentifierList services "cockpit reason code" item.reasonCodes
  let reference := normalizeOptionalIdentifier services "cockpit action reference"
  let clientRef ← reference item.clientRef
  let householdRef ← reference item.householdRef
  let portfolioId ← reference item.portfolioId
  let proposalId ← reference item.proposalId
  let workspaceId ← reference item.workspaceId
  let memoId ← reference item.memoId
  let policyEvaluationId ← reference item.policyEvaluationId
  let reportRef ← reference item.reportRef
  let executionRef ← reference item.executionRef
  let dueAt ← reference item.dueAt
  let sourceTimestamp ← reference item.sourceTimestamp
  let correlationId ← reference item.correlationId
  return { item with
    actionItemId, owningSystem, title, nextRequiredAction, reasonCodes, clientRef, householdRef
    portfolioId, proposalId, workspaceId, memoId, policyEvaluationId, reportRef, executionRef
    dueAt, sourceTimestamp, correlationId }

def hasSourceActionContext (source : CockpitActionConstructionInput) : Bool :=
  source.evidenceRefs ≠ [] ∨ source.sourceReadinessGaps ≠ [] ∨ source.dependencyReadiness ≠ [] ∨
    source.unsupportedCapabilities ≠ []

def validateSourceActionContext (source : CockpitActionConstructionInput) :
    Except ProposalError Unit := do
  require (source.reasonCodes ≠ [])
    (.valueError "cockpit action construction requires at least one reason code")
  require (hasSourceActionContext source)
    (.valueError ("cockpit action construction requires evidence, readiness, dependency, " ++
      "or unsupported-capability context"))

def sourceActionItemId (source : CockpitActionConstructionInput) : String :=
  buildActionItemId services source.actionFamily.text source.sourceActionId

def sourceLineageRefs (source : CockpitActionConstructionInput) :
    Except ProposalError (List CockpitLineageRef) :=
  if source.lineageRefs ≠ [] then .ok source.lineageRefs
  else lineageRefs services
    (some (source.actionFamily.lowerText ++ ":" ++ source.sourceActionId)) none

def buildSourceBackedAction (source : CockpitActionConstructionInput) :
    Except ProposalError AdvisoryActionItem := do
  validateSourceActionContext source
  let lineageRefs ← sourceLineageRefs services source
  let refs := boundedSourceRefs services source.sourceRefs
  AdvisoryActionItem.validated services
    { actionItemId := sourceActionItemId services source
      actionItemVersion := 1
      actionFamily := source.actionFamily
      status := source.status
      priority := source.priority
      ownerRole := source.ownerRole
      ownerRoleLabel := cockpitOwnerRoleLabel source.ownerRole
      owningSystem := lotusAdviseSourceSystem
      title := source.title
      nextRequiredAction := source.nextRequiredAction
      reasonCodes := uniqueOrdered source.reasonCodes
      clientRef := refs.clientRef
      householdRef := refs.householdRef
      portfolioId := refs.portfolioId
      proposalId := refs.proposalId
      workspaceId := refs.workspaceId
      memoId := refs.memoId
      policyEvaluationId := refs.policyEvaluationId
      reportRef := refs.reportRef
      executionRef := refs.executionRef
      dueAt := boundedOptionalReference services source.dueAt
      slaAgeBand := source.slaAgeBand
      materialityRank := source.materialityRank
      sourceTimestamp := boundedOptionalReference services source.sourceTimestamp
      evidenceRefs := source.evidenceRefs
      sourceReadinessGaps := source.sourceReadinessGaps
      dependencyReadiness := source.dependencyReadiness
      lineageRefs
      unsupportedCapabilities := uniqueOrdered source.unsupportedCapabilities
      correlationId := boundedOptionalReference services source.correlationId }

end Builder

section Order

def cockpitPriorityRank : AdvisorCockpitActionPriority → ℕ
  | .critical => 0
  | .high => 1
  | .medium => 2
  | .low => 3
  | .informational => 4

def cockpitSlaAgeRank : AdvisorCockpitSlaAgeBand → ℕ
  | .criticalOverdue => 0
  | .overdue => 1
  | .dueNow => 2
  | .dueSoon => 3
  | .notDue => 4
  | .notApplicable => 5

def cockpitStatusRank : AdvisorCockpitActionStatus → ℕ
  | .blocked => 0
  | .pendingReview => 1
  | .ready => 2
  | .handoffRequested => 3
  | .acknowledged => 4
  | .completed => 5
  | .superseded => 6

def cockpitActionFamilyRank : AdvisorCockpitActionFamily → ℕ
  | .policyReviewRequired => 0
  | .approvalDependencyAging => 1
  | .clientConsentRequired => 2
  | .memoPackageBlocked => 3
  | .reportRenderArchiveBlocked => 4
  | .clientMeetingPreparation => 5
  | .proposalReadyForReview => 6
  | .proposalBlockedBySourceGap => 7
  | .executionHandoffReady => 8
  | .executionStatusAttention => 9
  | .houseViewImpactReview => 10
  | .workspaceDraftStale => 11
  | .clientFollowUpRequired => 12
  | .supportabilityDegraded => 13
  | .unsupportedCapability => 14

abbrev CockpitActionSortKey :=
  ℕ ×ₗ String ×ₗ ℕ ×ₗ ℤ ×ₗ ℕ ×ₗ String ×ₗ String

def cockpitActionSortKey (action : AdvisoryActionItem) : CockpitActionSortKey :=
  toLex (cockpitPriorityRank action.priority,
    toLex ((presentKey action.dueAt).getD "9999-12-31T23:59:59+00:00",
      toLex (cockpitSlaAgeRank action.slaAgeBand,
        toLex (-(action.materialityRank : ℤ),
          toLex (cockpitStatusRank action.status,
            toLex (String.ofList (Text.zeroFill 2 (cockpitActionFamilyRank action.actionFamily)) ++
              ":" ++ action.actionFamily.text, action.actionItemId))))))

def sortCockpitActionItems (items : List AdvisoryActionItem) : List AdvisoryActionItem :=
  items.insertionSort fun a b => cockpitActionSortKey a ≤ cockpitActionSortKey b

theorem sortCockpitActionItems_perm (items : List AdvisoryActionItem) :
    (sortCockpitActionItems items).Perm items :=
  List.perm_insertionSort _ items

end Order

end LotusAdvise.AdvisorCockpit

import LotusAdvise.AdvisorCockpit.ActionSources
import LotusAdvise.Foundations.Dict
import LotusAdvise.PolicyPacks.Records
import LotusAdvise.Proposals.Commands
import LotusAdvise.Proposals.Memos
import Mathlib.Data.List.ReduceOption

/-! # Projecting records to sources

What the cockpit reads off the stored records: which evaluations, memos, proposals, approvals
and events ask for an action. Approvals and events are grouped by proposal, whatever version
they are about.
-/

namespace LotusAdvise.AdvisorCockpit

open PolicyPacks Proposals

/-- The errors that the models raise when they are built. -/
def isModelValidation : ProposalError → Bool
  | .valueError _ => true
  | .responseInvalid _ => true
  | _ => false

/-- A computation does not fail with a validation error. -/
def ValidationFree {α : Type} (x : Except ProposalError α) : Prop :=
  ∀ error, x = .error error → isModelValidation error = false

theorem validationFree_ok {α : Type} (a : α) : ValidationFree (.ok a) := nofun

theorem validationFree_map {α β : Type} {x : Except ProposalError α} {f : α → β}
    (h : ValidationFree x) : ValidationFree (x.map f) := by
  cases x with
  | error error => exact fun error' h' => h error' (congrArg Except.error (Except.error.inj h'))
  | ok a => exact validationFree_ok (f a)

theorem validationFree_bind {α β : Type} {x : Except ProposalError α}
    {f : α → Except ProposalError β} (hx : ValidationFree x) (hf : ∀ a, ValidationFree (f a)) :
    ValidationFree (x >>= f) := by
  cases x with
  | error error => exact fun error' h' => hx error' (congrArg Except.error (Except.error.inj h'))
  | ok a => exact hf a

theorem validationFree_mapM {α β : Type} {f : α → Except ProposalError β}
    (hf : ∀ a, ValidationFree (f a)) (as : List α) : ValidationFree (as.mapM f) := by
  induction as with
  | nil => exact validationFree_ok []
  | cons a as ih =>
    rw [List.mapM_cons]
    exact validationFree_bind (hf a) fun b => validationFree_bind ih fun bs => validationFree_ok _

section Latest

variable {Row : Type} (occurredAt : Row → DateTime) (identifier : Row → String)

/-- `(row.occurred_at, row.id) <= (other.occurred_at, other.id)` -/
def NotLater (row other : Row) : Prop :=
  (occurredAt row).lt? (occurredAt other) = some true ∨
    (occurredAt other).lt? (occurredAt row) = some false ∧ identifier row ≤ identifier other

instance : DecidableRel (NotLater occurredAt identifier) :=
  fun _ _ => inferInstanceAs (Decidable (_ ∨ _ ∧ _))

variable {Group : Type} [LinearOrder Group] (group : Row → Group)

/-- The order by group, then by time, then by identifier. -/
def InOrder (row other : Row) : Prop :=
  group row < group other ∨ group row = group other ∧ NotLater occurredAt identifier row other

instance : DecidableRel (InOrder occurredAt identifier group) :=
  fun _ _ => inferInstanceAs (Decidable (_ ∨ _))

/-- `sorted(rows, key=...)`, which compares all rows of a group with each other in effect. -/
def sortedInGroups (rows : List Row) : Except ProposalError (List Row) := do
  require (∀ row ∈ rows, ∀ other ∈ rows, group row = group other →
    ((occurredAt row).lt? (occurredAt other)).isSome) incomparableTimestamps
  return rows.insertionSort (InOrder occurredAt identifier group)

/-- The last of the sorted rows, if there is one. -/
def latestRow (rows : List Row) : Except ProposalError (Option Row) :=
  (sortedInGroups occurredAt identifier (fun _ => ()) rows).map List.getLast?

end Latest

section Latest

variable {Row Group : Type} [LinearOrder Group] {occurredAt : Row → DateTime}
  {identifier : Row → String} {group : Row → Group} {rows : List Row}

/-- Rows that cannot be compared are not what a validator fails with. -/
theorem validationFree_sortedInGroups :
    ValidationFree (sortedInGroups occurredAt identifier group rows) := by
  refine validationFree_bind ?_ fun _ => validationFree_ok _
  unfold require
  split
  · exact validationFree_ok ()
  · rintro error ⟨⟩
    rfl

end Latest

/-- The sources of the records that have one. -/
def collectSources {Record Source : Type} (build : Record → Except ProposalError (Option Source))
    (records : List Record) : Except ProposalError (List Source) :=
  (records.mapM build).map List.reduceOption

section Collect

variable {Record Source : Type} {build : Record → Except ProposalError (Option Source)}
  {records : List Record} {sources : List Source} {source : Source}

theorem mem_collectSources (h : collectSources build records = .ok sources)
    (hmem : source ∈ sources) : ∃ record ∈ records, build record = .ok (some source) := by
  obtain ⟨built, hbuilt, rfl⟩ := map_eq_ok.mp h
  exact mem_mapM hbuilt (List.reduceOption_mem_iff.mp hmem)

theorem validationFree_collectSources (hbuild : ∀ record, ValidationFree (build record)) :
    ValidationFree (collectSources build records) :=
  validationFree_map (validationFree_mapM hbuild records)

end Collect

section Policy

def policyReviewSource (record : PolicyEvaluationRecord) (policyResult : PolicyReviewResult)
    (materialityRank : ℕ) : PolicyReviewActionSource where
  policyEvaluationId := record.evaluationId
  portfolioId := record.portfolioId
  proposalId := some record.proposalId
  policyResult
  summary := "Policy evaluation requires review before client-ready posture can change."
  sourceTimestamp := some record.generatedAt
  materialityRank
  lineageId := some ("policy_evaluation:" ++ record.evaluationId)
  contentHash := some record.evaluationHash

def policyReviewSource? (record : PolicyEvaluationRecord) : Option PolicyReviewActionSource :=
  match record.evaluationStatus with
  | .pendingReview => some (policyReviewSource record .pendingReview 80)
  | .blocked => some (policyReviewSource record .blocked 90)
  | _ => none

def buildPolicyReviewSources (records : List PolicyEvaluationRecord) :
    List PolicyReviewActionSource :=
  records.filterMap policyReviewSource?

end Policy

section Memos

def memoBlockageCode (record : ProposalMemoRecord) : Option String :=
  if record.memoStatus = "BLOCKED" then some "MEMO_STATUS_BLOCKED"
  else if record.lifecycleStatus ≠ .finalized then some "MEMO_FINALIZATION_REQUIRED"
  else if record.reviewEventsJson = [] then some "MEMO_REVIEW_REQUIRED"
  else none

def memoBlockSource (proposals : Dict String ProposalRecord) (record : ProposalMemoRecord) :
    Option MemoPackageBlockedActionSource :=
  (memoBlockageCode record).map fun blockageCode =>
    { memoId := record.memoId
      proposalId := record.proposalId
      portfolioId := (proposals.get? record.proposalId).map ProposalRecord.portfolioId
      blockageCode
      summary := "Proposal memo package is not ready for advisor-use packaging."
      ownerRole := .reportingOwner
      sourceTimestamp := some record.createdAt.isoformat
      materialityRank := if record.memoStatus = "BLOCKED" then 70 else 60
      lineageId := some ("proposal_memo:" ++ record.memoId)
      contentHash := some record.memoHash }

def buildMemoBlockSources (proposals : Dict String ProposalRecord)
    (records : List ProposalMemoRecord) : List MemoPackageBlockedActionSource :=
  records.filterMap (memoBlockSource proposals)

def reportReadinessActionSource (proposals : Dict String ProposalRecord)
    (record : ProposalMemoRecord) (readinessSuffix readinessCode summary : String)
    (ownerRole : AdvisorCockpitOwnerRole) (materialityRank : ℕ) :
    ReportRenderArchiveActionSource where
  readinessId := "report_archive_readiness_" ++ record.memoId ++ "_" ++ readinessSuffix
  memoId := record.memoId
  proposalId := record.proposalId
  portfolioId := (proposals.get? record.proposalId).map ProposalRecord.portfolioId
  readinessCode
  summary
  ownerRole
  sourceTimestamp := some record.createdAt.isoformat
  materialityRank
  lineageId := some ("proposal_memo:" ++ record.memoId)
  contentHash := some record.memoHash

def reportReadinessSource (proposals : Dict String ProposalRecord) (record : ProposalMemoRecord) :
    Option ReportRenderArchiveActionSource :=
  if record.memoStatus ≠ "READY" then none
  else if record.reportPackageEventsJson = [] then
    some (reportReadinessActionSource proposals record "report_package"
      "REPORT_PACKAGE_NOT_REQUESTED"
      "Advisor-use memo is ready, but report/render/archive package evidence is not recorded."
      .reportingOwner 58)
  else if record.archiveRefsJson = [] then
    some (reportReadinessActionSource proposals record "archive_ref" "ARCHIVE_REF_MISSING"
      "Report package event exists, but archive reference evidence is not recorded."
      .archiveOwner 54)
  else none

def buildReportRenderArchiveSources (proposals : Dict String ProposalRecord)
    (records : List ProposalMemoRecord) : List ReportRenderArchiveActionSource :=
  records.filterMap (reportReadinessSource proposals)

end Memos

section Proposals

def activeProposalStates : List ProposalWorkflowState :=
  [.draft, .riskReview, .complianceReview, .awaitingClientConsent, .executionReady]

def followUpProposalStates : List ProposalWorkflowState := [.awaitingClientConsent]

def approvalDependencyStates : ProposalWorkflowState → Option ProposalApprovalType
  | .riskReview => some .risk
  | .complianceReview => some .compliance
  | .awaitingClientConsent => some .clientConsent
  | _ => none

def meetingPreparationSource (record : ProposalRecord) : MeetingPreparationActionSource where
  preparationId := "prep_" ++ record.proposalId ++ "_v" ++ toString record.currentVersionNo
  contextRef := record.proposalId
  contextType := .proposal
  portfolioId := some record.portfolioId
  proposalId := some record.proposalId
  summary := "Active advisory proposal is available for meeting preparation."
  sourceTimestamp := some record.lastEventAt.isoformat
  materialityRank := if record.currentState = .executionReady then 50 else 30

def buildMeetingPreparationSources (records : List ProposalRecord) :
    List MeetingPreparationActionSource :=
  (records.filter (·.currentState ∈ activeProposalStates)).map meetingPreparationSource

def clientFollowUpSource (record : ProposalRecord) : ClientFollowUpActionSource where
  followUpId := "follow_up_" ++ record.proposalId ++ "_client_consent"
  proposalId := record.proposalId
  portfolioId := some record.portfolioId
  followUpCode := "CLIENT_CONSENT_FOLLOW_UP_REQUIRED"
  summary :=
    "Proposal is awaiting client consent; advisor follow-up is required before " ++
      "execution readiness can change, while external client communication remains gated."
  sourceTimestamp := some record.lastEventAt.isoformat
  materialityRank := 65

def buildClientFollowUpSources (records : List ProposalRecord) :
    List ClientFollowUpActionSource :=
  (records.filter (·.currentState ∈ followUpProposalStates)).map clientFollowUpSource

def approvalDependencySummary (proposalState : ProposalWorkflowState)
    (approvalType : ProposalApprovalType) : ApprovalDependencyStatus → String
  | .rejected => approvalType.text ++ " approval was rejected; proposal state " ++
      proposalState.text ++ " cannot progress until the source lifecycle is remediated."
  | .pending => approvalType.text ++ " approval is pending for proposal state " ++
      proposalState.text ++
      "; the cockpit surfaces the queue without granting approval authority."

/-- `approval_type.lower()` -/
def approvalTypeLower : ProposalApprovalType → String
  | .risk => "risk"
  | .compliance => "compliance"
  | .clientConsent => "client_consent"

def pendingApprovalDependencySource (proposal : ProposalRecord)
    (approvalType : ProposalApprovalType)
    (latestRejection : Option ProposalApprovalRecordData) : ApprovalDependencyActionSource :=
  let approvalStatus : ApprovalDependencyStatus :=
    if latestRejection.isSome then .rejected else .pending
  { dependencyId := "approval_dependency_" ++ proposal.proposalId ++ "_" ++
      approvalTypeLower approvalType
    proposalId := proposal.proposalId
    portfolioId := some proposal.portfolioId
    approvalType
    approvalStatus
    summary := approvalDependencySummary proposal.currentState approvalType approvalStatus
    sourceTimestamp := some
      ((latestRejection.map (·.occurredAt)).getD proposal.lastEventAt).isoformat
    materialityRank := if approvalType ≠ .clientConsent then 75 else 68 }

def latestRejectedApproval (approvals : List ProposalApprovalRecordData) :
    Except ProposalError (Option ProposalApprovalRecordData) :=
  latestRow ProposalApprovalRecordData.occurredAt ProposalApprovalRecordData.approvalId
    (approvals.filter fun approval => !approval.approved)

def approvalDependencySource (approvals : Dict String (List ProposalApprovalRecordData))
    (proposal : ProposalRecord) :
    Except ProposalError (Option ApprovalDependencyActionSource) :=
  match approvalDependencyStates proposal.currentState with
  | none => .ok none
  | some approvalType =>
    let matching := ((approvals.get? proposal.proposalId).getD []).filter
      (·.approvalType = approvalType)
    if matching.any (·.approved) then .ok none
    else (latestRejectedApproval matching).map fun latestRejection =>
      some (pendingApprovalDependencySource proposal approvalType latestRejection)

def buildApprovalDependencySources (approvals : Dict String (List ProposalApprovalRecordData))
    (records : List ProposalRecord) :
    Except ProposalError (List ApprovalDependencyActionSource) :=
  collectSources (approvalDependencySource approvals) records

end Proposals

section Execution

variable (services : CockpitServices)

def executionHandoffSource (events : Dict String (List ProposalWorkflowEventRecord))
    (proposal : ProposalRecord) : Option ExecutionHandoffReadyActionSource :=
  if proposal.currentState ≠ .executionReady then none
  else if ((events.get? proposal.proposalId).getD []).any (·.eventType = .executionRequested) then
    none
  else some
    { handoffId := "execution_handoff_ready_" ++ proposal.proposalId
      proposalId := proposal.proposalId
      portfolioId := some proposal.portfolioId
      sourceTimestamp := some proposal.lastEventAt.isoformat
      materialityRank := 62 }

def buildExecutionHandoffSources (events : Dict String (List ProposalWorkflowEventRecord))
    (records : List ProposalRecord) : List ExecutionHandoffReadyActionSource :=
  records.filterMap (executionHandoffSource events)

/-- The first of two fields that has a value, or the identifier of the event. -/
def executionReference (event : ProposalWorkflowEventRecord) : String :=
  if (JsonObject.get event.reasonJson "execution_request_id").truthy then
    services.toStr (JsonObject.get event.reasonJson "execution_request_id")
  else if (JsonObject.get event.reasonJson "external_execution_id").truthy then
    services.toStr (JsonObject.get event.reasonJson "external_execution_id")
  else event.eventId

def executionStatusMaterialityRank (handoffStatus : ProposalExecutionHandoffStatus) : ℕ :=
  if handoffStatus ∈ [.rejected, .cancelled, .expired] then 72 else 50

def executionStatusAttentionSource (proposal : ProposalRecord)
    (latestEvent : ProposalWorkflowEventRecord)
    (handoffStatus : ProposalExecutionHandoffStatus) : ExecutionStatusAttentionActionSource where
  executionRef := executionReference services latestEvent
  proposalId := proposal.proposalId
  portfolioId := some proposal.portfolioId
  handoffStatus
  summary := "Execution handoff status is " ++ handoffStatusText handoffStatus ++
    "; downstream execution remains SOR."
  sourceTimestamp := some latestEvent.occurredAt.isoformat
  materialityRank := executionStatusMaterialityRank handoffStatus

def latestExecutionEvent (events : List ProposalWorkflowEventRecord) :
    Except ProposalError (Option ProposalWorkflowEventRecord) :=
  latestRow ProposalWorkflowEventRecord.occurredAt ProposalWorkflowEventRecord.eventId
    (events.filter fun event => executionStatusForEvent event.eventType ≠ .notRequested)

/-- The latest execution event, unless it is the last one that there can be. -/
def latestAttentionExecutionEvent (events : List ProposalWorkflowEventRecord) :
    Except ProposalError (Option ProposalWorkflowEventRecord) :=
  (latestExecutionEvent events).map fun latestEvent =>
    latestEvent.filter fun event => event.eventType ≠ .executed

def executionStatusSource (proposals : Dict String ProposalRecord)
    (group : String × List ProposalWorkflowEventRecord) :
    Except ProposalError (Option ExecutionStatusAttentionActionSource) :=
  match proposals.get? group.1 with
  | none => .ok none
  | some proposal => (latestAttentionExecutionEvent group.2).map fun latestEvent =>
    latestEvent.map fun event => executionStatusAttentionSource services proposal event
      (executionStatusForEvent event.eventType)

def buildExecutionStatusSources (proposals : Dict String ProposalRecord)
    (events : Dict String (List ProposalWorkflowEventRecord)) :
    Except ProposalError (List ExecutionStatusAttentionActionSource) :=
  collectSources (executionStatusSource services proposals) events

end Execution

end LotusAdvise.AdvisorCockpit

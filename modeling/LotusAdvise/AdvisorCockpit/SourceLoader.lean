import LotusAdvise.AdvisorCockpit.SourceProjections
import LotusAdvise.Proposals.CockpitAcknowledgements
import LotusAdvise.Proposals.Listing
import LotusAdvise.Proposals.Postgres

/-! # Loading the sources

One load reads the proposals in the scope of the caller, what is stored for them, the policy
evaluations and the recorded house-view cohorts. Each list is cut off, except that a cohort is
joined with its affected portfolios after the cohorts are cut off.
-/

namespace LotusAdvise.AdvisorCockpit

open PolicyPacks Proposals

def cockpitSourceBatchMaxItems : ℕ := 100

def cockpitSourceLimit : ℕ := cockpitSourceBatchMaxItems

section HouseViews

structure TacticalHouseViewAffectedPortfolio where
  portfolioId : String
  inclusionReasonCodes : List String
deriving DecidableEq

structure TacticalHouseViewAffectedCohort where
  cohortId : String
  tacticalViewId : String
  tacticalViewVersion : String
  affectedPortfolios : List TacticalHouseViewAffectedPortfolio
  contentHash : String
  generatedAt : String
  correlationId : String
deriving DecidableEq

abbrev CohortStore := Dict String TacticalHouseViewAffectedCohort

def recordTacticalHouseViewAffectedCohort (store : CohortStore)
    (cohort : TacticalHouseViewAffectedCohort) : CohortStore :=
  store.set cohort.cohortId cohort

/-- The store after the cohorts were recorded one after another. -/
def recordedCohorts (cohorts : List TacticalHouseViewAffectedCohort) : CohortStore :=
  cohorts.foldl recordTacticalHouseViewAffectedCohort []

/-- `sorted(..., key=lambda item: (item.generated_at, item.cohort_id), reverse=True)` -/
def storedCohortsByRecency (store : CohortStore) : List TacticalHouseViewAffectedCohort :=
  (store.map Prod.snd).insertionSort fun cohort other =>
    toLex (other.generatedAt, other.cohortId) ≤ toLex (cohort.generatedAt, cohort.cohortId)

def cohortContainsPortfolio (portfolioId : String) (cohort : TacticalHouseViewAffectedCohort) :
    Bool :=
  cohort.affectedPortfolios.any (·.portfolioId = portfolioId)

def listTacticalHouseViewAffectedCohorts (store : CohortStore) (portfolioId : Option String)
    (limit : ℕ) : List TacticalHouseViewAffectedCohort :=
  ((storedCohortsByRecency store).filter fun cohort =>
    portfolioId.all fun id => cohortContainsPortfolio id cohort).take limit

def defaultHouseViewImpactCode : String := "TACTICAL_HOUSE_VIEW_PORTFOLIO_AFFECTED"

/-- The default code, unless there are others only; then the first of them. -/
def houseViewImpactCode (affected : TacticalHouseViewAffectedPortfolio) : String :=
  if defaultHouseViewImpactCode ∈ affected.inclusionReasonCodes then defaultHouseViewImpactCode
  else affected.inclusionReasonCodes.headD defaultHouseViewImpactCode

def matchingHouseViewPortfolios (portfolioId : Option String)
    (cohort : TacticalHouseViewAffectedCohort) : List TacticalHouseViewAffectedPortfolio :=
  cohort.affectedPortfolios.filter fun affected => portfolioId.all (affected.portfolioId = ·)

def houseViewImpactSource (correlationId : Option String)
    (cohort : TacticalHouseViewAffectedCohort) (affected : TacticalHouseViewAffectedPortfolio) :
    HouseViewImpactActionSource where
  cohortId := cohort.cohortId
  tacticalViewId := cohort.tacticalViewId
  tacticalViewVersion := cohort.tacticalViewVersion
  portfolioId := affected.portfolioId
  impactCode := houseViewImpactCode affected
  summary := "Portfolio is included in a source-backed tactical house-view affected " ++
    "cohort for discretionary portfolio-management review."
  lineageId := some ("tactical_house_view_cohort:" ++ cohort.cohortId)
  contentHash := some cohort.contentHash
  sourceTimestamp := some cohort.generatedAt
  materialityRank := 52
  correlationId := some (orText correlationId cohort.correlationId)

def houseViewImpacts (portfolioId correlationId : Option String)
    (cohorts : List TacticalHouseViewAffectedCohort) : List HouseViewImpactActionSource :=
  cohorts.flatMap fun cohort =>
    (matchingHouseViewPortfolios portfolioId cohort).map
      (houseViewImpactSource correlationId cohort)

end HouseViews

section Evaluations

/-- The records of a portfolio, oldest first; without a portfolio all of them. -/
def listPolicyEvaluationRecords (records : List PolicyEvaluationRecord)
    (portfolioId : Option String) : List PolicyEvaluationRecord :=
  (records.filter fun record => (presentKey portfolioId).all (record.portfolioId = ·)).insertionSort
    fun record other => record.generatedAt ≤ other.generatedAt

end Evaluations

section Repository

/-- What the cockpit reads of a proposal repository. A page of proposals keeps to its limit, and a
repository fails with errors of its own only. -/
structure AdvisorCockpitRepository where
  listProposals : ProposalFilters → (limit : ℕ) → (cursor : Option String) →
    Except ProposalError ProposalPage
  listMemosForProposals : (proposalIds : List String) →
    Except ProposalError (List ProposalMemoRecord)
  listApprovalsForProposals : (proposalIds : List String) →
    Except ProposalError (List ProposalApprovalRecordData)
  listEventsForProposals : (proposalIds : List String) →
    Except ProposalError (List ProposalWorkflowEventRecord)
  listCockpitAcknowledgements : (actionItemIds : List String) →
    String → Option CockpitAcknowledgementRecord
  bounded : ∀ {filters limit cursor page}, listProposals filters limit cursor = .ok page →
    page.1.length ≤ limit
  proposalsFree : ∀ filters limit cursor, ValidationFree (listProposals filters limit cursor)
  memosFree : ∀ proposalIds, ValidationFree (listMemosForProposals proposalIds)
  approvalsFree : ∀ proposalIds, ValidationFree (listApprovalsForProposals proposalIds)
  eventsFree : ∀ proposalIds, ValidationFree (listEventsForProposals proposalIds)

/-- What the database holds for the cockpit. -/
structure CockpitTables where
  store : PostgresStore
  memos : List ProposalMemoRecord
  acknowledgements : AcknowledgementTables

namespace CockpitTables

variable (tables : CockpitTables) (collation : LinearOrder String)

/-- The rows of the proposals, in the order of the proposals; rows of one proposal by time. -/
def listForProposals {Row : Type} (proposalId : Row → String) (occurredAt : Row → DateTime)
    (identifier : Row → String) (rows : List Row) (proposalIds : List String) :
    Except ProposalError (List Row) :=
  sortedInGroups occurredAt identifier (fun row => proposalIds.idxOf (proposalId row))
    (rows.filter fun row => proposalId row ∈ proposalIds)

def listMemosForProposals (proposalIds : List String) :
    Except ProposalError (List ProposalMemoRecord) :=
  sortedInGroups ProposalMemoRecord.createdAt ProposalMemoRecord.memoId
    (fun memo => toLex (proposalIds.idxOf memo.proposalId, memo.proposalVersionNo))
    (tables.memos.filter (·.proposalId ∈ proposalIds))

def listApprovalsForProposals (proposalIds : List String) :
    Except ProposalError (List ProposalApprovalRecordData) :=
  listForProposals ProposalApprovalRecordData.proposalId ProposalApprovalRecordData.occurredAt
    ProposalApprovalRecordData.approvalId tables.store.approvals proposalIds

def listEventsForProposals (proposalIds : List String) :
    Except ProposalError (List ProposalWorkflowEventRecord) :=
  listForProposals ProposalWorkflowEventRecord.proposalId ProposalWorkflowEventRecord.occurredAt
    ProposalWorkflowEventRecord.eventId tables.store.events proposalIds

def listCockpitAcknowledgements (actionItemIds : List String) (actionItemId : String) :
    Option CockpitAcknowledgementRecord :=
  if actionItemId ∈ actionItemIds then
    tables.acknowledgements.getCockpitAcknowledgement actionItemId
  else none

def repository : AdvisorCockpitRepository where
  listProposals := PostgresListing.listProposals collation tables.store.proposals
  listMemosForProposals := tables.listMemosForProposals
  listApprovalsForProposals := tables.listApprovalsForProposals
  listEventsForProposals := tables.listEventsForProposals
  listCockpitAcknowledgements := tables.listCockpitAcknowledgements
  bounded {filters limit cursor page} h := by
    obtain rfl := Except.ok.inj h
    exact List.length_take_le limit _
  proposalsFree _ _ _ := validationFree_ok _
  memosFree _ := validationFree_sortedInGroups
  approvalsFree _ := validationFree_sortedInGroups
  eventsFree _ := validationFree_sortedInGroups

end CockpitTables

end Repository

section Load

structure AdvisorCockpitSourceBatch where
  proposals : List ProposalRecord
  policyEvaluations : List PolicyEvaluationRecord
  memos : List ProposalMemoRecord
  approvals : List ProposalApprovalRecordData
  workflowEvents : List ProposalWorkflowEventRecord
  houseViewImpacts : List HouseViewImpactActionSource
  supportabilityEvents : List SupportabilityDegradedActionSource := []
  unsupportedCapabilities : List UnsupportedCapabilityActionSource := []

def requireBatchList {Row : Type} (field : String) (rows : List Row) : Except ProposalError Unit :=
  require (rows.length ≤ cockpitSourceBatchMaxItems) (.responseInvalid field)

def AdvisorCockpitSourceBatch.validated (batch : AdvisorCockpitSourceBatch) :
    Except ProposalError AdvisorCockpitSourceBatch := do
  requireBatchList "proposals" batch.proposals
  requireBatchList "policy_evaluations" batch.policyEvaluations
  requireBatchList "memos" batch.memos
  requireBatchList "approvals" batch.approvals
  requireBatchList "workflow_events" batch.workflowEvents
  requireBatchList "house_view_impacts" batch.houseViewImpacts
  requireBatchList "supportability_events" batch.supportabilityEvents
  requireBatchList "unsupported_capabilities" batch.unsupportedCapabilities
  return batch

/-- The sources of a batch, by the kind of action that they ask for. -/
structure AdvisorCockpitSources where
  policyReviews : List PolicyReviewActionSource
  memoBlocks : List MemoPackageBlockedActionSource
  meetingPreparations : List MeetingPreparationActionSource
  clientFollowUps : List ClientFollowUpActionSource
  approvalDependencies : List ApprovalDependencyActionSource
  reportRenderArchiveItems : List ReportRenderArchiveActionSource
  executionHandoffs : List ExecutionHandoffReadyActionSource
  executionStatusItems : List ExecutionStatusAttentionActionSource
  houseViewImpacts : List HouseViewImpactActionSource
  supportabilityEvents : List SupportabilityDegradedActionSource
  unsupportedCapabilities : List UnsupportedCapabilityActionSource

/-- All sources, in the order in which their actions are built. -/
def AdvisorCockpitSources.all (sources : AdvisorCockpitSources) : List ActionSource :=
  sources.policyReviews.map .policyReview ++ sources.memoBlocks.map .memoBlock ++
    sources.meetingPreparations.map .meetingPreparation ++
    sources.clientFollowUps.map .clientFollowUp ++
    sources.approvalDependencies.map .approvalDependency ++
    sources.reportRenderArchiveItems.map .reportRenderArchive ++
    sources.executionHandoffs.map .executionHandoff ++
    sources.executionStatusItems.map .executionStatus ++
    sources.houseViewImpacts.map .houseViewImpact ++
    sources.supportabilityEvents.map .supportability ++
    sources.unsupportedCapabilities.map .unsupportedCapability

structure AdvisorCockpitSourceReadModel extends AdvisorCockpitSources where
  actionItems : List AdvisoryActionItem

variable (services : CockpitServices)

def proposalById (proposals : List ProposalRecord) : Dict String ProposalRecord :=
  Dict.ofItems (proposals.map fun proposal => (proposal.proposalId, proposal))

def approvalsByProposal (approvals : List ProposalApprovalRecordData) :
    Dict String (List ProposalApprovalRecordData) :=
  Dict.groupBy ProposalApprovalRecordData.proposalId approvals

def eventsByProposal (events : List ProposalWorkflowEventRecord) :
    Dict String (List ProposalWorkflowEventRecord) :=
  Dict.groupBy ProposalWorkflowEventRecord.proposalId events

def projectSources (batch : AdvisorCockpitSourceBatch) :
    Except ProposalError AdvisorCockpitSources := do
  let proposalsById := proposalById batch.proposals
  let eventsByProposalId := eventsByProposal batch.workflowEvents
  let approvalDependencies ← buildApprovalDependencySources
    (approvalsByProposal batch.approvals) batch.proposals
  let executionStatusItems ← buildExecutionStatusSources services proposalsById eventsByProposalId
  return {
    policyReviews := buildPolicyReviewSources batch.policyEvaluations
    memoBlocks := buildMemoBlockSources proposalsById batch.memos
    meetingPreparations := buildMeetingPreparationSources batch.proposals
    clientFollowUps := buildClientFollowUpSources batch.proposals
    approvalDependencies
    reportRenderArchiveItems := buildReportRenderArchiveSources proposalsById batch.memos
    executionHandoffs := buildExecutionHandoffSources eventsByProposalId batch.proposals
    executionStatusItems
    houseViewImpacts := batch.houseViewImpacts
    supportabilityEvents := batch.supportabilityEvents
    unsupportedCapabilities := batch.unsupportedCapabilities }

def buildAdvisorCockpitSourceReadModel (batch : AdvisorCockpitSourceBatch) :
    Except ProposalError AdvisorCockpitSourceReadModel := do
  let sources ← projectSources services batch
  let actions ← buildSourceActions services sources.all
  return { sources with actionItems := sortCockpitActionItems actions }

/-- What the cockpit reads: a repository, the policy evaluations and the recorded cohorts. -/
structure CockpitContent where
  repository : AdvisorCockpitRepository
  evaluations : List PolicyEvaluationRecord
  cohorts : List TacticalHouseViewAffectedCohort

/-- The arguments that a read of the cockpit shares. -/
structure CockpitRead where
  callerContext : CockpitCallerContext
  portfolioId : Option String
  correlationId : Option String
  now : DateTime

variable (content : CockpitContent) (read : CockpitRead)

def CockpitRead.proposalFilters : ProposalFilters where
  portfolioId := read.portfolioId
  createdBy := if read.portfolioId.isSome then none else read.callerContext.advisorId

def CockpitContent.houseViewImpacts : List HouseViewImpactActionSource :=
  AdvisorCockpit.houseViewImpacts read.portfolioId read.correlationId
    (listTacticalHouseViewAffectedCohorts (recordedCohorts content.cohorts) read.portfolioId
      cockpitSourceLimit)

def loadSourceBatch : Except ProposalError AdvisorCockpitSourceBatch := do
  let proposals ← content.repository.listProposals read.proposalFilters cockpitSourceLimit none
  let proposalIds := proposals.1.map ProposalRecord.proposalId
  let memos ← content.repository.listMemosForProposals proposalIds
  let approvals ← content.repository.listApprovalsForProposals proposalIds
  let workflowEvents ← content.repository.listEventsForProposals proposalIds
  return {
    proposals := proposals.1
    policyEvaluations := (listPolicyEvaluationRecords content.evaluations read.portfolioId).take
      cockpitSourceLimit
    memos := memos.take cockpitSourceLimit
    approvals := approvals.take cockpitSourceLimit
    workflowEvents := workflowEvents.take cockpitSourceLimit
    houseViewImpacts := content.houseViewImpacts read }

def loadAdvisorCockpitSourceReadModel : Except ProposalError AdvisorCockpitSourceReadModel := do
  let records ← loadSourceBatch content read
  let batch ← records.validated
  buildAdvisorCockpitSourceReadModel services batch

end Load

end LotusAdvise.AdvisorCockpit

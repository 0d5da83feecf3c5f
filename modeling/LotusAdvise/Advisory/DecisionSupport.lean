import LotusAdvise.Advisory.Drift
import LotusAdvise.Advisory.WorkflowGate
import LotusAdvise.Proposals.Idempotency

/-! # Decision support

The engine reviews a simulation and supports the decision about it: by the drift from a reference
model, by the suitability of the proposal and by the gate of its workflow. What it returns is the
result of the proposal.
-/

namespace LotusAdvise.Advisory

/-- A request with what its decision support and its lineage read. -/
structure DecisionRequest extends ProposalSimulateRequest where
  portfolioId : String
  portfolioSnapshotId : Option String := none
  marketDataSnapshotId : Option String := none
  referenceModel : Option ReferenceModel := none
  decisionOptions : DecisionOptions := {}

structure SimulationDecisionSupport where
  driftAnalysis : Option DriftAnalysis
  suitability : Option SuitabilityResult
  gateDecision : Option GateDecision

section Support

/-- `value or default`. -/
def textOr (value : Option String) (default : String) : String :=
  match value with
  | none => default
  | some text => if text = "" then default else text

def portfolioLineageId (request : DecisionRequest) : String :=
  textOr request.portfolioSnapshotId request.portfolioId

def marketDataLineageId (request : DecisionRequest) : String :=
  textOr request.marketDataSnapshotId "md"

def tradedInstruments (intents : List ProposalOrderIntent) : List String :=
  intents.filterMap fun intent =>
    match intent with
    | .securityTrade trade => some trade.instrumentId
    | _ => none

variable (upper : String → String) (request : DecisionRequest) (diagnostics : DiagnosticsData)
  (before after : SimulatedState) (intents : List ProposalOrderIntent)
  (finalStatus : ProposalStatus) (ruleResults : List RuleResult) (policyContext : Option JsonObject)

/-- The diagnostics with a warning if the reference model is in another currency. -/
def buildDriftAnalysis : Option DriftAnalysis × DiagnosticsData :=
  match request.referenceModel with
  | none => (none, diagnostics)
  | some referenceModel =>
    if request.decisionOptions.enableDriftAnalytics = false then (none, diagnostics)
    else if referenceModel.baseCurrency ≠ request.portfolioSnapshot.baseCurrency then
      (none, diagnostics.warn "REFERENCE_MODEL_BASE_CURRENCY_MISMATCH")
    else
      (some (computeDriftAnalysis before after referenceModel (tradedInstruments intents)
        request.decisionOptions), diagnostics)

def buildSuitability : Option SuitabilityResult :=
  if request.decisionOptions.enableSuitabilityScanner then
    some (computeSuitabilityResult upper before after request.shelfEntries request.options
      (portfolioLineageId request) (marketDataLineageId request) none request.proposedTrades
      policyContext)
  else none

def buildGateDecision (suitability : Option SuitabilityResult) : Option GateDecision :=
  if request.decisionOptions.enableWorkflowGates then
    some (evaluateGateDecision finalStatus ruleResults suitability (some diagnostics)
      request.options true)
  else none

/-- The decision support, and the diagnostics after it. -/
def buildSimulationDecisionSupport : SimulationDecisionSupport × DiagnosticsData :=
  let drift := buildDriftAnalysis request diagnostics before after intents
  let suitability := buildSuitability upper request before after policyContext
  ({ driftAnalysis := drift.1
     suitability
     gateDecision := buildGateDecision request drift.2 finalStatus ruleResults suitability },
    drift.2)

end Support

section Results

inductive AllocationDimension where
  | assetClass
  | currency
  | sector
  | country
  | region
  | productType
  | rating
deriving DecidableEq

inductive AllocationLensSource where
  | lotusCore
  | lotusAdviseLocalFallback
deriving DecidableEq

structure ProposalAllocationLens where
  contractVersion : String := "advisory-simulation.v1"
  calculatorVersion : String := "lotus-core.allocation-calculator.v1"
  dimensions : List AllocationDimension :=
    [.assetClass, .currency, .sector, .country, .region, .productType, .rating]
  source : AllocationLensSource := .lotusCore
deriving DecidableEq

structure LineageData where
  portfolioSnapshotId : String
  marketDataSnapshotId : String
  requestHash : String
  idempotencyKey : Option String := none
  engineVersion : Option String := none
  simulationContractVersion : Option String := none
deriving DecidableEq

/-- The result of a proposal with its decision support. -/
structure DecidedProposalResult where
  proposalRunId : String
  correlationId : String
  status : ProposalStatus
  before : SimulatedState
  intents : List ProposalOrderIntent
  afterSimulated : SimulatedState
  reconciliation : Option Reconciliation := none
  ruleResults : List RuleResult
  explanation : JsonObject
  diagnostics : DiagnosticsData
  driftAnalysis : Option DriftAnalysis := none
  suitability : Option SuitabilityResult := none
  gateDecision : Option GateDecision := none
  allocationLens : ProposalAllocationLens := {}
  lineage : LineageData

def ProposalStatus.text : ProposalStatus → String
  | ready => "READY"
  | pendingReview => "PENDING_REVIEW"
  | blocked => "BLOCKED"

/-- What a simulation takes from outside, apart from the request. -/
structure SimulationCall where
  requestHash : String := "no_hash"
  idempotencyKey : Option String := none
  correlationId : String := "c_none"
  simulationContractVersion : Option String := none
  policyContext : Option JsonObject := none
  /-- The hexadecimal digits of a random identifier. -/
  drawnDigits : String

/-- The functions of the library that the engine uses. -/
structure EngineServices where
  upper : String → String
  /-- The hexadecimal digest of a text. -/
  sha256 : String → String
  /-- The hexadecimal digest of the canonical text of a value in canonical form. -/
  canonicalDigest : Json → String
  /-- `str` of a value that is not a text. -/
  str : Json → String

variable (services : EngineServices) (request : DecisionRequest) (call : SimulationCall)

def proposalRunIdFromRequestHash (requestHash : String) : String :=
  if requestHash ≠ "" ∧ requestHash ≠ "no_hash" then
    "pr_" ++ (services.sha256 requestHash).take 8
  else "pr_" ++ call.drawnDigits.take 8

def simulatedDecisionSupport : SimulationDecisionSupport × DiagnosticsData :=
  buildSimulationDecisionSupport services.upper request
    (recordCashFlowFx request.toProposalSimulateRequest
      (simulatedDiagnostics request.toProposalSimulateRequest))
    (simulatedBefore request.toProposalSimulateRequest)
    (simulatedAfter request.toProposalSimulateRequest)
    (simulatedPlan request.toProposalSimulateRequest).intents
    (simulatedReview request.toProposalSimulateRequest).finalStatus
    (simulatedReview request.toProposalSimulateRequest).ruleResults call.policyContext

/-- `run_proposal_simulation`, with the decision support of the simulation. -/
def runDecidedSimulation : DecidedProposalResult :=
  let simulation := runProposalSimulation request.toProposalSimulateRequest
  let support := simulatedDecisionSupport services request call
  { proposalRunId := proposalRunIdFromRequestHash services call call.requestHash
    correlationId := call.correlationId
    status := simulation.status
    before := simulation.before
    intents := simulation.intents
    afterSimulated := simulation.afterSimulated
    reconciliation := some simulation.reconciliation
    ruleResults := simulation.ruleResults
    explanation := [("summary", .str simulation.status.text)]
    diagnostics := support.2
    driftAnalysis := support.1.driftAnalysis
    suitability := support.1.suitability
    gateDecision := support.1.gateDecision
    lineage := {
      portfolioSnapshotId := portfolioLineageId request
      marketDataSnapshotId := marketDataLineageId request
      requestHash := call.requestHash
      idempotencyKey := Proposals.normalizeOptionalIdempotencyKey call.idempotencyKey
      engineVersion := some "0.1.0"
      simulationContractVersion := call.simulationContractVersion } }

end Results

section StatusFromRules

variable {request : ProposalSimulateRequest} {diagnostics : DiagnosticsData}
  {before after : SimulatedState} {plan : SimulationIntentPlan} {ruleResults : List RuleResult}

theorem deriveStatus_ne_ready_of_failed {rule : RuleResult} (h : rule ∈ ruleResults)
    (hseverity : rule.severity = .soft) (hstatus : rule.status = .fail) :
    deriveStatusFromRules ruleResults ≠ .ready := by
  have hsoft : hasFailedRuleWithSeverity ruleResults .soft = true :=
    List.any_eq_true.mpr ⟨rule, h, decide_eq_true ⟨hseverity, hstatus⟩⟩
  unfold deriveStatusFromRules
  rw [if_pos hsoft]
  split <;> rintro ⟨⟩

/-- A review that is pending for its funding has a failed rule for it. -/
theorem finalStatusAfterPendingReview_derived
    (h : ∀ rule ∈ fundingDataQualityFailures diagnostics plan, rule ∈ ruleResults) :
    finalStatusAfterPendingReview (deriveStatusFromRules ruleResults) plan =
      deriveStatusFromRules ruleResults := by
  apply if_neg
  rintro ⟨hpending, hready⟩
  have hrule : ∃ rule ∈ fundingDataQualityFailures diagnostics plan,
      rule.severity = .soft ∧ rule.status = .fail := by
    rw [fundingDataQualityFailures, if_pos hpending]
    exact ⟨_, List.mem_singleton_self _, rfl, rfl⟩
  obtain ⟨rule, hmem, hseverity, hstatus⟩ := hrule
  exact deriveStatus_ne_ready_of_failed (h rule hmem) hseverity hstatus hready

/-- Every way in which a review reaches its status is among its rules: a failed input, a funding
that waits for a rate, and a value that does not reconcile each have a failed rule. -/
theorem finalStatus_eq_deriveStatus :
    (evaluateSimulationReview request diagnostics before after plan).finalStatus =
      deriveStatusFromRules
        (evaluateSimulationReview request diagnostics before after plan).ruleResults := by
  unfold evaluateSimulationReview
  dsimp only
  split
  · rw [finalStatusAfterPendingReview_blocked]
    symm
    exact deriveStatus_of_failed (List.mem_append_right _ (List.mem_singleton_self _)) rfl rfl
  · exact finalStatusAfterPendingReview_derived fun rule hrule => List.mem_append_right _ hrule

theorem finalStatus_of_mismatch
    (h : (evaluateSimulationReview request diagnostics before after plan).reconciliation.status =
      .mismatch) :
    (evaluateSimulationReview request diagnostics before after plan).finalStatus = .blocked := by
  revert h
  unfold evaluateSimulationReview
  dsimp only
  split
  · exact fun _ => finalStatusAfterPendingReview_blocked
  · next hok => exact fun h => absurd h hok

end StatusFromRules

end LotusAdvise.Advisory

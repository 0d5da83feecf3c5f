import LotusAdvise.Advisory.IntentPlan
import Mathlib.Tactic.NormNum

/-! # The review of a plan

The state after a plan is held against the rules. A plan is blocked by a hard rule that fails,
by a failure of its inputs, and when the value of the portfolio does not reconcile.
-/

namespace LotusAdvise.Advisory

inductive RuleSeverity where
  | hard
  | soft
  | info
deriving DecidableEq

inductive RuleStatus where
  | pass
  | fail
deriving DecidableEq

structure RuleResult where
  ruleId : String
  severity : RuleSeverity
  status : RuleStatus
  measured : ℚ
  threshold : Dict String ℚ
  reasonCode : String
  remediationHint : Option String := none
deriving DecidableEq

section Rules

variable (state : SimulatedState) (options : EngineOptions) (diagnostics : DiagnosticsData)

def cashWeight : ℚ :=
  ((state.allocationByAssetClass.find? fun metric => metric.key = "CASH").map
    AllocationMetric.weight).getD 0

def evaluateCashBand : RuleResult :=
  let rule : RuleResult := {
    ruleId := "CASH_BAND"
    severity := .soft
    status := .pass
    measured := cashWeight state
    threshold := [("min", options.cashBandMinWeight), ("max", options.cashBandMaxWeight)]
    reasonCode := "OK" }
  if cashWeight state < options.cashBandMinWeight ∨ options.cashBandMaxWeight < cashWeight state then
    { rule with
      status := .fail
      reasonCode := "THRESHOLD_BREACH"
      remediationHint := some "Portfolio cash is outside policy bands." }
  else rule

def singlePositionBreach (limit : ℚ) (metric : AllocationMetric) : Option RuleResult :=
  if limit + 1 / 1000 < metric.weight then
    some {
      ruleId := "SINGLE_POSITION_MAX"
      severity := .hard
      status := .fail
      measured := metric.weight
      threshold := [("max", limit)]
      reasonCode := "LIMIT_BREACH"
      remediationHint := some ("Instrument " ++ metric.key ++ " exceeds max weight.") }
  else none

def evaluateSinglePositionMax : List RuleResult :=
  match options.singlePositionMaxWeight with
  | none => [{
      ruleId := "SINGLE_POSITION_MAX"
      severity := .hard
      status := .pass
      measured := 0
      threshold := [("max", -1)]
      reasonCode := "NO_LIMIT_SET" }]
  | some limit =>
    match state.allocationByInstrument.filterMap (singlePositionBreach limit) with
    | [] => [{
        ruleId := "SINGLE_POSITION_MAX"
        severity := .hard
        status := .pass
        measured := (state.allocationByInstrument.map AllocationMetric.weight).foldl max 0
        threshold := [("max", limit)]
        reasonCode := "OK" }]
    | breaches => breaches

/-- What is missing, as far as it blocks. -/
def dataQualityCount : ℕ :=
  (if options.blockOnMissingPrices then diagnostics.dataQuality.priceMissing.length else 0) +
    (if options.blockOnMissingFx then diagnostics.dataQuality.fxMissing.length else 0) +
    diagnostics.dataQuality.shelfMissing.length

def evaluateDataQuality : RuleResult :=
  let rule : RuleResult := {
    ruleId := "DATA_QUALITY"
    severity := .hard
    status := .pass
    measured := dataQualityCount options diagnostics
    threshold := [("max", 0)]
    reasonCode := "OK" }
  if 0 < dataQualityCount options diagnostics then
    { rule with
      status := .fail
      reasonCode := "MISSING_DATA"
      remediationHint := some "Check diagnostics for missing prices/FX." }
  else rule

/-- The simulation suppresses no intents. -/
def evaluateMinTradeSize : RuleResult where
  ruleId := "MIN_TRADE_SIZE"
  severity := .soft
  status := .pass
  measured := 0
  threshold := [("min", 0)]
  reasonCode := "OK"

/-- The lowest amount, or zero where none is negative. -/
def lowestBelowZero (amounts : List ℚ) : ℚ :=
  amounts.foldl (fun lowest amount => if amount < 0 then min lowest amount else lowest) 0

/-- A rule against negative amounts. -/
def evaluateFloor (ruleId reasonCode remediationHint : String) (amounts : List ℚ) : RuleResult :=
  if lowestBelowZero amounts < 0 then {
    ruleId
    severity := .hard
    status := .fail
    measured := lowestBelowZero amounts
    threshold := [("min", 0)]
    reasonCode
    remediationHint := some remediationHint }
  else {
    ruleId
    severity := .hard
    status := .pass
    measured := 0
    threshold := [("min", 0)]
    reasonCode := "OK" }

def evaluateNoShorting : RuleResult :=
  evaluateFloor "NO_SHORTING" "SELL_EXCEEDS_HOLDINGS" "Reduce sell quantity."
    (state.positions.map PositionSummary.quantity)

def evaluateSufficientCash : RuleResult :=
  evaluateFloor "INSUFFICIENT_CASH" "CASH_BALANCE_NEGATIVE" "Ensure sufficient funding."
    (state.cashBalances.map CashBalance.amount)

/-- `RuleEngine.evaluate`. -/
def evaluateRules : List RuleResult :=
  evaluateCashBand state options :: evaluateSinglePositionMax state options ++
    [evaluateDataQuality options diagnostics, evaluateMinTradeSize, evaluateNoShorting state,
      evaluateSufficientCash state]

end Rules

inductive ProposalStatus where
  | ready
  | pendingReview
  | blocked
deriving DecidableEq

section Status

variable (ruleResults : List RuleResult)

def hasFailedRuleWithSeverity (severity : RuleSeverity) : Bool :=
  ruleResults.any fun rule => rule.severity = severity ∧ rule.status = .fail

def deriveStatusFromRules : ProposalStatus :=
  if hasFailedRuleWithSeverity ruleResults .hard then .blocked
  else if hasFailedRuleWithSeverity ruleResults .soft then .pendingReview
  else .ready

inductive ReconciliationStatus where
  | ok
  | mismatch
deriving DecidableEq

structure Reconciliation where
  beforeTotalValue : Money
  afterTotalValue : Money
  delta : Money
  tolerance : Money
  status : ReconciliationStatus
deriving DecidableEq

/-- The reconciliation, with the difference from what was expected and the tolerance for it. -/
def buildReconciliation (beforeTotal afterTotal expectedAfterTotal : ℚ) (baseCurrency : String)
    (useAbsoluteScale : Bool) : Reconciliation × ℚ × ℚ :=
  let reconDiff := |afterTotal - expectedAfterTotal|
  let scaleValue := if useAbsoluteScale then |expectedAfterTotal| else expectedAfterTotal
  let tolerance := 1 / 2 + scaleValue * (1 / 2000)
  ({ beforeTotalValue := ⟨beforeTotal, baseCurrency⟩
     afterTotalValue := ⟨afterTotal, baseCurrency⟩
     delta := ⟨afterTotal - beforeTotal, baseCurrency⟩
     tolerance := ⟨tolerance, baseCurrency⟩
     status := if reconDiff ≤ tolerance then .ok else .mismatch }, reconDiff, tolerance)

end Status

section Review

variable (request : ProposalSimulateRequest)

/-- What the cash flows are worth in the base currency. -/
def expectedCashDeltaBase : ℚ :=
  (request.proposedCashFlows.map fun cashFlow => cashFlow.amount *
    rateOrZero request.marketDataSnapshot request.portfolioSnapshot.baseCurrency
      cashFlow.currency).sum

def recordCashFlowFx (diagnostics : DiagnosticsData) : DiagnosticsData :=
  diagnostics.recordFxMissing (request.proposedCashFlows.flatMap fun cashFlow =>
    missingFx request.marketDataSnapshot request.portfolioSnapshot.baseCurrency cashFlow.currency)

def inputGuardFailures (plan : SimulationIntentPlan) : List RuleResult :=
  match plan.hardFailures with
  | [] => []
  | failure :: failures => [{
      ruleId := "PROPOSAL_INPUT_GUARDS"
      severity := .hard
      status := .fail
      measured := (failure :: failures).length
      threshold := [("max", 0)]
      reasonCode := failure
      remediationHint :=
        some "Adjust proposal cash flows, funding inputs, or shelf eligibility." }]

def fundingDataQualityFailures (diagnostics : DiagnosticsData) (plan : SimulationIntentPlan) :
    List RuleResult :=
  if plan.forcePendingReview then [{
      ruleId := "PROPOSAL_FUNDING_DQ"
      severity := .soft
      status := .fail
      measured := diagnostics.missingFxPairs.length
      threshold := [("max", 0)]
      reasonCode := "MISSING_FX_FOR_FUNDING"
      remediationHint := some "Provide required FX rates for advisory auto-funding." }]
  else []

structure SimulationReview where
  finalStatus : ProposalStatus
  ruleResults : List RuleResult
  reconciliation : Reconciliation

def finalStatusAfterPendingReview (finalStatus : ProposalStatus) (plan : SimulationIntentPlan) :
    ProposalStatus :=
  if plan.forcePendingReview ∧ finalStatus = .ready then .pendingReview else finalStatus

def evaluateSimulationReview (diagnostics : DiagnosticsData) (before after : SimulatedState)
    (plan : SimulationIntentPlan) : SimulationReview :=
  let ruleResults := evaluateRules after request.options diagnostics ++ inputGuardFailures plan ++
    fundingDataQualityFailures diagnostics plan
  let finalStatus := deriveStatusFromRules ruleResults
  let reconciled := buildReconciliation before.totalValue.amount after.totalValue.amount
    (before.totalValue.amount + expectedCashDeltaBase request)
    request.portfolioSnapshot.baseCurrency true
  if reconciled.1.status = .mismatch then
    { finalStatus := finalStatusAfterPendingReview .blocked plan
      ruleResults := ruleResults ++ [{
        ruleId := "RECONCILIATION"
        severity := .hard
        status := .fail
        measured := reconciled.2.1
        threshold := [("max", reconciled.2.2)]
        reasonCode := "VALUE_MISMATCH"
        remediationHint := some "Check pricing/FX or proposal inputs." }]
      reconciliation := reconciled.1 }
  else
    { finalStatus := finalStatusAfterPendingReview finalStatus plan
      ruleResults
      reconciliation := reconciled.1 }

end Review

section Simulation

variable (request : ProposalSimulateRequest)

structure ProposalResult where
  status : ProposalStatus
  before : SimulatedState
  intents : List ProposalOrderIntent
  afterSimulated : SimulatedState
  reconciliation : Reconciliation
  ruleResults : List RuleResult
  diagnostics : DiagnosticsData

def simulatedBefore : SimulatedState :=
  buildSimulatedState request.portfolioSnapshot request.marketDataSnapshot request.shelfEntries
    request.options.valuationMode

/-- The plan of a simulation, whose diagnostics start with the valuation of the portfolio. -/
def simulatedPlan : SimulationIntentPlan :=
  buildSimulationIntentPlan request (recordMissingData request.portfolioSnapshot
    request.marketDataSnapshot request.options.valuationMode {})

/-- The state after the plan is calculated, whatever mode the state before it is valued in. -/
def simulatedAfter : SimulatedState :=
  if (simulatedPlan request).intents = [] then simulatedBefore request
  else buildSimulatedState (simulatedPlan request).afterPortfolio request.marketDataSnapshot
    request.shelfEntries .calculated

def simulatedDiagnostics : DiagnosticsData :=
  if (simulatedPlan request).intents = [] then (simulatedPlan request).diagnostics
  else recordMissingData (simulatedPlan request).afterPortfolio request.marketDataSnapshot
    .calculated (simulatedPlan request).diagnostics

def simulatedReview : SimulationReview :=
  evaluateSimulationReview request (simulatedDiagnostics request) (simulatedBefore request)
    (simulatedAfter request) (simulatedPlan request)

def runProposalSimulation : ProposalResult where
  status := (simulatedReview request).finalStatus
  before := simulatedBefore request
  intents := (simulatedPlan request).intents
  afterSimulated := simulatedAfter request
  reconciliation := (simulatedReview request).reconciliation
  ruleResults := (simulatedReview request).ruleResults
  diagnostics := recordCashFlowFx request (simulatedDiagnostics request)

end Simulation

section Blocking

variable {amounts : List ℚ} {ruleId reasonCode remediationHint : String}

theorem nonneg_foldl_iff (start : ℚ) :
    0 ≤ amounts.foldl (fun lowest amount => if amount < 0 then min lowest amount else lowest) start ↔
      0 ≤ start ∧ ∀ amount ∈ amounts, 0 ≤ amount := by
  induction amounts generalizing start with
  | nil => simp
  | cons amount amounts ih =>
    rw [List.foldl_cons, ih, List.forall_mem_cons]
    split
    · rw [le_min_iff, and_assoc]
    · next hamount => simp only [not_lt.mp hamount, true_and]

theorem lowestBelowZero_nonneg_iff : 0 ≤ lowestBelowZero amounts ↔ ∀ amount ∈ amounts, 0 ≤ amount :=
  (nonneg_foldl_iff 0).trans (and_iff_right le_rfl)

/-- The rule passes if and only if no amount is negative. -/
theorem evaluateFloor_pass_iff :
    (evaluateFloor ruleId reasonCode remediationHint amounts).status = .pass ↔
      ∀ amount ∈ amounts, 0 ≤ amount := by
  rw [← lowestBelowZero_nonneg_iff]
  unfold evaluateFloor
  split
  · next hneg =>
    constructor
    · intro h
      cases h
    · intro h
      exact absurd hneg (not_lt.mpr h)
  · next hnonneg => exact ⟨fun _ => not_lt.mp hnonneg, fun _ => rfl⟩

@[simp] theorem evaluateFloor_severity :
    (evaluateFloor ruleId reasonCode remediationHint amounts).severity = .hard := by
  unfold evaluateFloor
  split <;> rfl

variable {request : ProposalSimulateRequest} {diagnostics : DiagnosticsData}
  {before after : SimulatedState} {plan : SimulationIntentPlan}

theorem finalStatusAfterPendingReview_blocked :
    finalStatusAfterPendingReview .blocked plan = .blocked :=
  if_neg fun h => by cases h.2

theorem deriveStatus_of_failed {ruleResults : List RuleResult} {rule : RuleResult}
    (h : rule ∈ ruleResults) (hseverity : rule.severity = .hard) (hstatus : rule.status = .fail) :
    deriveStatusFromRules ruleResults = .blocked := by
  apply if_pos
  rw [hasFailedRuleWithSeverity, List.any_eq_true]
  exact ⟨rule, h, decide_eq_true ⟨hseverity, hstatus⟩⟩

/-- A plan that is not blocked has passed every hard rule, and its inputs did not fail. -/
theorem passed_of_review
    (h : (evaluateSimulationReview request diagnostics before after plan).finalStatus ≠ .blocked) :
    (∀ rule ∈ evaluateRules after request.options diagnostics, rule.severity = .hard →
      rule.status = .pass) ∧ plan.hardFailures = [] := by
  have hpassed : ∀ rule ∈ evaluateRules after request.options diagnostics ++
      inputGuardFailures plan ++ fundingDataQualityFailures diagnostics plan,
      rule.severity = .hard → rule.status = .pass := by
    intro rule hrule hseverity
    cases hstatus : rule.status with
    | pass => rfl
    | fail =>
      have hblocked := deriveStatus_of_failed hrule hseverity hstatus
      apply absurd _ h
      unfold evaluateSimulationReview
      dsimp only
      split
      · exact finalStatusAfterPendingReview_blocked
      · rw [hblocked]
        exact finalStatusAfterPendingReview_blocked
  refine ⟨fun rule hrule => hpassed rule ?_, ?_⟩
  · exact List.mem_append_left _ (List.mem_append_left _ hrule)
  · cases hfailures : plan.hardFailures with
    | nil => rfl
    | cons failure failures =>
      have hguard : ∃ rule ∈ inputGuardFailures plan,
          rule.severity = .hard ∧ rule.status = .fail := by
        rw [inputGuardFailures, hfailures]
        exact ⟨_, List.mem_cons_self, rfl, rfl⟩
      obtain ⟨rule, hrule, hseverity, hstatus⟩ := hguard
      have hpass := hpassed rule
        (List.mem_append_left _ (List.mem_append_right _ hrule)) hseverity
      rw [hstatus] at hpass
      cases hpass

/-- A simulation that is not blocked ends without negative positions or cash. -/
theorem nonneg_of_not_blocked (h : (runProposalSimulation request).status ≠ .blocked) :
    (∀ position ∈ (simulatedAfter request).positions, 0 ≤ position.quantity) ∧
      (∀ balance ∈ (simulatedAfter request).cashBalances, 0 ≤ balance.amount) ∧
      (simulatedPlan request).hardFailures = [] := by
  obtain ⟨hrules, hfailures⟩ := passed_of_review h
  refine ⟨?_, ?_, hfailures⟩
  · have hpass := hrules (evaluateNoShorting (simulatedAfter request)) (by simp [evaluateRules])
      evaluateFloor_severity
    exact List.forall_mem_map.mp (evaluateFloor_pass_iff.mp hpass)
  · have hpass := hrules (evaluateSufficientCash (simulatedAfter request)) (by simp [evaluateRules])
      evaluateFloor_severity
    exact List.forall_mem_map.mp (evaluateFloor_pass_iff.mp hpass)

end Blocking

namespace FundedSample

/-- One thousand dollars are paid out, and a fund in euros is bought with dollars. -/
def request : ProposalSimulateRequest where
  portfolioSnapshot := {
    baseCurrency := "USD"
    positions := [{ instrumentId := "BOND", quantity := 10 }]
    cashBalances := [⟨"USD", 5000⟩] }
  marketDataSnapshot := {
    prices := [⟨"BOND", 100, "USD"⟩, ⟨"FUND", 33, "EUR"⟩]
    fxRates := [⟨"EUR/USD", 11 / 10, by norm_num⟩] }
  shelfEntries := [
    { instrumentId := "BOND", status := .approved, assetClass := "FIXED_INCOME" },
    { instrumentId := "FUND", status := .approved, assetClass := "EQUITY" }]
  options := {}
  proposedCashFlows := [{ currency := "USD", amount := -1000 }]
  proposedTrades := [⟨.sell, "BOND", .quantity 2 (by norm_num)⟩,
    ⟨.buy, "FUND", .quantity 3 (by norm_num)⟩]

end FundedSample

end LotusAdvise.Advisory

import LotusAdvise.Advisory.DecisionSupport
import LotusAdvise.Foundations.Payloads

/-! # The payload of a result

A result is dumped as JSON. The weights of its positions are rounded on the way; nothing else is
lost. The effects of the proposal can be validated from the payload; its decisions are only dumped.
-/

namespace LotusAdvise.Advisory

open Payloads

section Texts

def Side.text : Side → String
  | buy => "BUY"
  | sell => "SELL"

def RuleSeverity.text : RuleSeverity → String
  | hard => "HARD"
  | soft => "SOFT"
  | info => "INFO"

def RuleStatus.text : RuleStatus → String
  | pass => "PASS"
  | fail => "FAIL"

def ReconciliationStatus.text : ReconciliationStatus → String
  | ok => "OK"
  | mismatch => "MISMATCH"

def AllocationDimension.text : AllocationDimension → String
  | assetClass => "asset_class"
  | currency => "currency"
  | sector => "sector"
  | country => "country"
  | region => "region"
  | productType => "product_type"
  | rating => "rating"

def AllocationLensSource.text : AllocationLensSource → String
  | lotusCore => "LOTUS_CORE"
  | lotusAdviseLocalFallback => "LOTUS_ADVISE_LOCAL_FALLBACK"

def IssueSeverity.text : IssueSeverity → String
  | high => "HIGH"
  | medium => "MEDIUM"
  | low => "LOW"

def StatusChange.text : StatusChange → String
  | new => "NEW"
  | persistent => "PERSISTENT"
  | resolved => "RESOLVED"

def IssueClassification.text : IssueClassification → String
  | new => "NEW"
  | resolved => "RESOLVED"
  | persistent => "PERSISTENT"
  | unknownDueToMissingEvidence => "UNKNOWN_DUE_TO_MISSING_EVIDENCE"

def Gate.text : Gate → String
  | blocked => "BLOCKED"
  | riskReviewRequired => "RISK_REVIEW_REQUIRED"
  | complianceReviewRequired => "COMPLIANCE_REVIEW_REQUIRED"
  | clientConsentRequired => "CLIENT_CONSENT_REQUIRED"
  | executionReady => "EXECUTION_READY"

def GateStep.text : GateStep → String
  | fixInput => "FIX_INPUT"
  | riskReview => "RISK_REVIEW"
  | complianceReview => "COMPLIANCE_REVIEW"
  | requestClientConsent => "REQUEST_CLIENT_CONSENT"
  | execute => "EXECUTE"

def sideCodec : Codec Side :=
  .enumeration Side.text [.buy, .sell] (by intro a; cases a <;> decide)

def ruleSeverityCodec : Codec RuleSeverity :=
  .enumeration RuleSeverity.text [.hard, .soft, .info] (by intro a; cases a <;> decide)

def ruleStatusCodec : Codec RuleStatus :=
  .enumeration RuleStatus.text [.pass, .fail] (by intro a; cases a <;> decide)

def proposalStatusCodec : Codec ProposalStatus :=
  .enumeration ProposalStatus.text [.ready, .blocked, .pendingReview]
    (by intro a; cases a <;> decide)

def reconciliationStatusCodec : Codec ReconciliationStatus :=
  .enumeration ReconciliationStatus.text [.ok, .mismatch] (by intro a; cases a <;> decide)

def allocationDimensionCodec : Codec AllocationDimension :=
  .enumeration AllocationDimension.text
    [.assetClass, .currency, .sector, .country, .region, .productType, .rating]
    (by intro a; cases a <;> decide)

def allocationLensSourceCodec : Codec AllocationLensSource :=
  .enumeration AllocationLensSource.text [.lotusCore, .lotusAdviseLocalFallback]
    (by intro a; cases a <;> decide)

end Texts

section Models

open Fields (field)

variable (texts : DecimalTexts)

def moneyFields : Fields ["amount", "currency"] Money :=
  (field "amount" (.decimal texts)
    |>.and (field "currency" .text)).map
    (fun (amount, currency) => { amount, currency })
    (fun money => (money.amount, money.currency))

def money : Codec Money := (moneyFields texts).model

def optionalMoney : Codec (Option Money) := (money texts).optional nofun

def optionalText : Codec (Option String) := Codec.text.optional nofun

def cashBalanceFields : Fields ["currency", "amount"] CashBalance :=
  (field "currency" .text
    |>.and (field "amount" (.decimal texts))).map
    (fun (currency, amount) => { currency, amount })
    (fun balance => (balance.currency, balance.amount))

def positionSummaryFields : Fields ["instrument_id", "quantity", "instrument_currency",
    "asset_class", "price", "value_in_instrument_ccy", "value_in_base_ccy", "weight"]
    PositionSummary :=
  (field "instrument_id" .text
    |>.and (field "quantity" (.decimal texts))
    |>.and (field "instrument_currency" .text)
    |>.and (field "asset_class" .text (some "UNKNOWN"))
    |>.and (field "price" (optionalMoney texts) (some none))
    |>.and (field "value_in_instrument_ccy" (money texts))
    |>.and (field "value_in_base_ccy" (money texts))
    |>.and (field "weight" (.decimal texts))).map
    (fun (((((((instrumentId, quantity), instrumentCurrency), assetClass), price),
        valueInInstrumentCcy), valueInBaseCcy), weight) =>
      { instrumentId, quantity, instrumentCurrency, assetClass, price, valueInInstrumentCcy
        valueInBaseCcy, weight })
    (fun position => (((((((position.instrumentId, position.quantity),
      position.instrumentCurrency), position.assetClass), position.price),
      position.valueInInstrumentCcy), position.valueInBaseCcy), position.weight))

def allocationMetricFields : Fields ["key", "weight", "value"] AllocationMetric :=
  (field "key" .text
    |>.and (field "weight" (.decimal texts))
    |>.and (field "value" (money texts))).map
    (fun ((key, weight), value) => { key, weight, value })
    (fun metric => ((metric.key, metric.weight), metric.value))

def simulatedStateFields : Fields ["total_value", "cash_balances", "positions",
    "allocation_by_asset_class", "allocation_by_instrument"] SimulatedState :=
  (field "total_value" (money texts)
    |>.and (field "cash_balances" (cashBalanceFields texts).model.list (some []))
    |>.and (field "positions" (positionSummaryFields texts).model.list (some []))
    |>.and (field "allocation_by_asset_class" (allocationMetricFields texts).model.list (some []))
    |>.and (field "allocation_by_instrument" (allocationMetricFields texts).model.list
      (some []))).map
    (fun ((((totalValue, cashBalances), positions), allocationByAssetClass),
        allocationByInstrument) =>
      { totalValue, cashBalances, positions, allocationByAssetClass, allocationByInstrument })
    (fun state => ((((state.totalValue, state.cashBalances), state.positions),
      state.allocationByAssetClass), state.allocationByInstrument))

def reconciliationFields : Fields ["before_total_value", "after_total_value", "delta",
    "tolerance", "status"] Reconciliation :=
  (field "before_total_value" (money texts)
    |>.and (field "after_total_value" (money texts))
    |>.and (field "delta" (money texts))
    |>.and (field "tolerance" (money texts))
    |>.and (field "status" reconciliationStatusCodec)).map
    (fun ((((beforeTotalValue, afterTotalValue), delta), tolerance), status) =>
      { beforeTotalValue, afterTotalValue, delta, tolerance, status })
    (fun reconciliation => ((((reconciliation.beforeTotalValue, reconciliation.afterTotalValue),
      reconciliation.delta), reconciliation.tolerance), reconciliation.status))

def ruleResultFields : Fields ["rule_id", "severity", "status", "measured", "threshold",
    "reason_code", "remediation_hint"] RuleResult :=
  (field "rule_id" .text
    |>.and (field "severity" ruleSeverityCodec)
    |>.and (field "status" ruleStatusCodec)
    |>.and (field "measured" (.decimal texts))
    |>.and (field "threshold" (Codec.decimal texts).entries)
    |>.and (field "reason_code" .text)
    |>.and (field "remediation_hint" optionalText (some none))).map
    (fun ((((((ruleId, severity), status), measured), threshold), reasonCode),
        remediationHint) =>
      { ruleId, severity, status, measured, threshold, reasonCode, remediationHint })
    (fun rule => ((((((rule.ruleId, rule.severity), rule.status), rule.measured),
      rule.threshold), rule.reasonCode), rule.remediationHint))

def fundingPlanEntryFields : Fields ["target_currency", "required", "available_before_fx",
    "fx_needed", "fx_pair", "funding_currency"] FundingPlanEntry :=
  (field "target_currency" .text
    |>.and (field "required" (.decimal texts))
    |>.and (field "available_before_fx" (.decimal texts))
    |>.and (field "fx_needed" (.decimal texts))
    |>.and (field "fx_pair" optionalText (some none))
    |>.and (field "funding_currency" optionalText (some none))).map
    (fun (((((targetCurrency, required), availableBeforeFx), fxNeeded), fxPair),
        fundingCurrency) =>
      { targetCurrency, required, availableBeforeFx, fxNeeded, fxPair, fundingCurrency })
    (fun entry => (((((entry.targetCurrency, entry.required), entry.availableBeforeFx),
      entry.fxNeeded), entry.fxPair), entry.fundingCurrency))

def insufficientCashEntryFields : Fields ["currency", "deficit"] InsufficientCashEntry :=
  (field "currency" .text
    |>.and (field "deficit" (.decimal texts))).map
    (fun (currency, deficit) => { currency, deficit })
    (fun entry => (entry.currency, entry.deficit))

def dataQualityFields : Fields ["price_missing", "fx_missing", "shelf_missing"] DataQuality :=
  (field "price_missing" Codec.text.list (some [])
    |>.and (field "fx_missing" Codec.text.list (some []))
    |>.and (field "shelf_missing" Codec.text.list (some []))).map
    (fun ((priceMissing, fxMissing), shelfMissing) => { priceMissing, fxMissing, shelfMissing })
    (fun dataQuality => ((dataQuality.priceMissing, dataQuality.fxMissing),
      dataQuality.shelfMissing))

def diagnosticsFields : Fields ["warnings", "missing_fx_pairs", "funding_plan",
    "insufficient_cash", "data_quality"] DiagnosticsData :=
  (field "warnings" Codec.text.list (some [])
    |>.and (field "missing_fx_pairs" Codec.text.list (some []))
    |>.and (field "funding_plan" (fundingPlanEntryFields texts).model.list (some []))
    |>.and (field "insufficient_cash" (insufficientCashEntryFields texts).model.list (some []))
    |>.and (field "data_quality" dataQualityFields.model)).map
    (fun ((((warnings, missingFxPairs), fundingPlan), insufficientCash), dataQuality) =>
      { warnings, missingFxPairs, fundingPlan, insufficientCash, dataQuality })
    (fun diagnostics => ((((diagnostics.warnings, diagnostics.missingFxPairs),
      diagnostics.fundingPlan), diagnostics.insufficientCash), diagnostics.dataQuality))

def allocationLensFields : Fields ["contract_version", "calculator_version", "dimensions",
    "source"] ProposalAllocationLens :=
  (field "contract_version" .text (some "advisory-simulation.v1")
    |>.and (field "calculator_version" .text (some "lotus-core.allocation-calculator.v1"))
    |>.and (field "dimensions" allocationDimensionCodec.list
      (some ({} : ProposalAllocationLens).dimensions))
    |>.and (field "source" allocationLensSourceCodec (some .lotusCore))).map
    (fun (((contractVersion, calculatorVersion), dimensions), source) =>
      { contractVersion, calculatorVersion, dimensions, source })
    (fun lens => (((lens.contractVersion, lens.calculatorVersion), lens.dimensions), lens.source))

def lineageFields : Fields ["portfolio_snapshot_id", "market_data_snapshot_id", "request_hash",
    "idempotency_key", "engine_version", "simulation_contract_version"] LineageData :=
  (field "portfolio_snapshot_id" .text
    |>.and (field "market_data_snapshot_id" .text)
    |>.and (field "request_hash" .text)
    |>.and (field "idempotency_key" optionalText (some none))
    |>.and (field "engine_version" optionalText (some none))
    |>.and (field "simulation_contract_version" optionalText (some none))).map
    (fun (((((portfolioSnapshotId, marketDataSnapshotId), requestHash), idempotencyKey),
        engineVersion), simulationContractVersion) =>
      { portfolioSnapshotId, marketDataSnapshotId, requestHash, idempotencyKey, engineVersion
        simulationContractVersion })
    (fun lineage => (((((lineage.portfolioSnapshotId, lineage.marketDataSnapshotId),
      lineage.requestHash), lineage.idempotencyKey), lineage.engineVersion),
      lineage.simulationContractVersion))

end Models

section Intents

open Fields (field)

variable (texts : DecimalTexts)

def cashFlowIntentFields : Fields ["intent_id", "currency", "amount", "description"]
    CashFlowIntent :=
  (field "intent_id" .text
    |>.and (field "currency" .text)
    |>.and (field "amount" (.decimal texts))
    |>.and (field "description" optionalText (some none))).map
    (fun (((intentId, currency), amount), description) =>
      { intentId, currency, amount, description })
    (fun intent => (((intent.intentId, intent.currency), intent.amount), intent.description))

def fxSpotIntentFields : Fields ["intent_id", "pair", "buy_currency", "buy_amount",
    "sell_currency", "sell_amount_estimated", "dependencies"] FxSpotIntent :=
  (field "intent_id" .text
    |>.and (field "pair" .text)
    |>.and (field "buy_currency" .text)
    |>.and (field "buy_amount" (.decimal texts))
    |>.and (field "sell_currency" .text)
    |>.and (field "sell_amount_estimated" (.decimal texts))
    |>.and (field "dependencies" Codec.text.list (some []))).map
    (fun ((((((intentId, pair), buyCurrency), buyAmount), sellCurrency), sellAmountEstimated),
        dependencies) =>
      { intentId, pair, buyCurrency, buyAmount, sellCurrency, sellAmountEstimated, dependencies })
    (fun intent => ((((((intent.intentId, intent.pair), intent.buyCurrency), intent.buyAmount),
      intent.sellCurrency), intent.sellAmountEstimated), intent.dependencies))

def securityTradeIntentFields : Fields ["intent_id", "instrument_id", "side", "quantity",
    "notional", "notional_base", "dependencies"] SecurityTradeIntent :=
  (field "intent_id" .text
    |>.and (field "instrument_id" .text)
    |>.and (field "side" sideCodec)
    |>.and (field "quantity" (.decimal texts))
    |>.and (field "notional" (money texts))
    |>.and (field "notional_base" (optionalMoney texts) (some none))
    |>.and (field "dependencies" Codec.text.list (some []))).map
    (fun ((((((intentId, instrumentId), side), quantity), notional), notionalBase),
        dependencies) =>
      { intentId, instrumentId, side, quantity, notional, notionalBase, dependencies })
    (fun intent => ((((((intent.intentId, intent.instrumentId), intent.side), intent.quantity),
      intent.notional), intent.notionalBase), intent.dependencies))

def dumpIntent : ProposalOrderIntent → Json
  | .cashFlow intent =>
    .obj (("intent_type", .str "CASH_FLOW") :: (cashFlowIntentFields texts).dump intent)
  | .fxSpot intent =>
    .obj (("intent_type", .str "FX_SPOT") :: (fxSpotIntentFields texts).dump intent)
  | .securityTrade intent =>
    .obj (("intent_type", .str "SECURITY_TRADE") :: (securityTradeIntentFields texts).dump intent)

/-- The type of an intent decides about its model. -/
def validateIntent : Json → Option ProposalOrderIntent
  | .obj payload =>
    if Dict.get? payload "intent_type" = some (.str "CASH_FLOW") then
      ((cashFlowIntentFields texts).validate payload).map .cashFlow
    else if Dict.get? payload "intent_type" = some (.str "FX_SPOT") then
      ((fxSpotIntentFields texts).validate payload).map .fxSpot
    else if Dict.get? payload "intent_type" = some (.str "SECURITY_TRADE") then
      ((securityTradeIntentFields texts).validate payload).map .securityTrade
    else none
  | _ => none

theorem get?_intentType {payload : JsonObject} {type : String} :
    Dict.get? (("intent_type", Json.str type) :: payload) "intent_type" = some (.str type) := by
  simp [Dict.get?, Tables.lookup]

def intentCodec : Codec ProposalOrderIntent where
  dump := dumpIntent texts
  validate := validateIntent texts
  validate_dump intent := by
    cases intent with
    | cashFlow intent =>
      rw [dumpIntent, validateIntent, if_pos get?_intentType,
        Fields.validate_cons _ _ (by decide), Option.map_some]
    | fxSpot intent =>
      rw [dumpIntent, validateIntent, get?_intentType, if_neg (by decide), if_pos rfl,
        Fields.validate_cons _ _ (by decide), Option.map_some]
    | securityTrade intent =>
      rw [dumpIntent, validateIntent, get?_intentType, if_neg (by decide), if_neg (by decide),
        if_pos rfl, Fields.validate_cons _ _ (by decide), Option.map_some]

end Intents

section Rounding

def quantizeRatio (value : ℚ) : ℚ := Decimal.quantize 4 value

/-- What a dump keeps of a position: its weight is rounded. -/
def PositionSummary.serialized (position : PositionSummary) : PositionSummary :=
  { position with weight := quantizeRatio position.weight }

def SimulatedState.serialized (state : SimulatedState) : SimulatedState :=
  { state with positions := state.positions.map PositionSummary.serialized }

end Rounding

section Decisions

variable (texts : DecimalTexts)

def dumpOptional {α : Type} (dump : α → Json) (value : Option α) : Json := value.elim .null dump

def dumpDetail : DetailValue → Json
  | .text value => .str value
  | .amount value => .str (texts.text value)

def dumpSuitabilityIssue (issue : SuitabilityIssue) : Json := .obj [
  ("issue_id", .str issue.issueId),
  ("issue_key", .str issue.issueKey),
  ("dimension", .str issue.dimension.text),
  ("severity", .str issue.severity.text),
  ("status_change", .str issue.statusChange.text),
  ("classification", .str issue.classification.text),
  ("summary", .str issue.summary),
  ("remediation", dumpOptional .str issue.remediation),
  ("approval_implication", dumpOptional .str issue.approvalImplication),
  ("details", .obj (issue.details.map fun item => (item.1, dumpDetail texts item.2))),
  ("evidence", .obj [
    ("as_of", .str issue.evidence.asOf),
    ("snapshot_ids", .obj [
      ("portfolio_snapshot_id", .str issue.evidence.portfolioSnapshotId),
      ("market_data_snapshot_id", .str issue.evidence.marketDataSnapshotId)])]),
  ("policy_pack_id", .str issue.policyPackId),
  ("policy_version", .str issue.policyVersion)]

def dumpSuitabilitySummary (summary : SuitabilitySummary) : JsonObject := [
  ("new_count", .int summary.newCount),
  ("resolved_count", .int summary.resolvedCount),
  ("persistent_count", .int summary.persistentCount),
  ("highest_severity_new",
    dumpOptional (fun severity => .str severity.text) summary.highestSeverityNew)]

def dumpSuitability (suitability : SuitabilityResult) : JsonObject := [
  ("summary", .obj (dumpSuitabilitySummary suitability.summary)),
  ("issues", .arr (suitability.issues.map (dumpSuitabilityIssue texts))),
  ("policy_pack_id", .str suitability.policyPackId),
  ("policy_version", .str suitability.policyVersion),
  ("recommended_gate", .str suitability.recommendedGate)]

def dumpGateReason (reason : GateReason) : Json := .obj [
  ("reason_code", .str reason.reasonCode),
  ("severity", .str reason.severity.text),
  ("source", .str reason.source.text),
  ("details", .obj (reason.details.map fun item => (item.1, .str item.2)))]

def dumpGateDecision (decision : GateDecision) : JsonObject := [
  ("gate", .str decision.gate.text),
  ("recommended_next_step", .str decision.recommendedNextStep.text),
  ("reasons", .arr (decision.reasons.map dumpGateReason)),
  ("summary", .obj [
    ("hard_fail_count", .int decision.summary.hardFailCount),
    ("soft_fail_count", .int decision.summary.softFailCount),
    ("new_high_suitability_count", .int decision.summary.newHighSuitabilityCount),
    ("new_medium_suitability_count", .int decision.summary.newMediumSuitabilityCount)])]

def dumpDecimal (x : ℚ) : Json := .str (texts.text x)

def dumpDriftBucketDetail (detail : DriftBucketDetail) : Json := .obj [
  ("bucket", .str detail.bucket),
  ("model_weight", dumpDecimal texts detail.modelWeight),
  ("portfolio_weight_before", dumpDecimal texts detail.portfolioWeightBefore),
  ("portfolio_weight_after", dumpDecimal texts detail.portfolioWeightAfter),
  ("drift_before", dumpDecimal texts detail.driftBefore),
  ("drift_after", dumpDecimal texts detail.driftAfter),
  ("abs_drift_before", dumpDecimal texts detail.absDriftBefore),
  ("abs_drift_after", dumpDecimal texts detail.absDriftAfter),
  ("improvement", dumpDecimal texts detail.improvement)]

def dumpDriftDimension (dimension : DriftDimensionAnalysis) : Json := .obj [
  ("drift_total_before", dumpDecimal texts dimension.driftTotalBefore),
  ("drift_total_after", dumpDecimal texts dimension.driftTotalAfter),
  ("drift_total_delta", dumpDecimal texts dimension.driftTotalDelta),
  ("top_contributors_before",
    .arr (dimension.topContributorsBefore.map (dumpDriftBucketDetail texts))),
  ("buckets", .arr (dimension.buckets.map (dumpDriftBucketDetail texts)))]

def dumpDriftHighlightEntry (entry : DriftHighlightEntry) : Json := .obj [
  ("bucket", .str entry.bucket),
  ("improvement", dumpDecimal texts entry.improvement)]

def dumpDriftUnmodeledExposure (exposure : DriftUnmodeledExposure) : Json := .obj [
  ("bucket", .str exposure.bucket),
  ("portfolio_weight_before", dumpDecimal texts exposure.portfolioWeightBefore),
  ("portfolio_weight_after", dumpDecimal texts exposure.portfolioWeightAfter),
  ("max_portfolio_weight", dumpDecimal texts exposure.maxPortfolioWeight)]

def dumpDriftAnalysis (analysis : DriftAnalysis) : JsonObject := [
  ("reference_model", .obj [
    ("model_id", .str analysis.referenceModel.modelId),
    ("as_of", .str analysis.referenceModel.asOf),
    ("base_currency", .str analysis.referenceModel.baseCurrency)]),
  ("asset_class", dumpDriftDimension texts analysis.assetClass),
  ("instrument", dumpOptional (dumpDriftDimension texts) analysis.instrument),
  ("highlights", .obj [
    ("largest_improvements",
      .arr (analysis.highlights.largestImprovements.map (dumpDriftHighlightEntry texts))),
    ("largest_deteriorations",
      .arr (analysis.highlights.largestDeteriorations.map (dumpDriftHighlightEntry texts))),
    ("unmodeled_exposures",
      .arr (analysis.highlights.unmodeledExposures.map (dumpDriftUnmodeledExposure texts)))])]

end Decisions

section Result

variable (texts : DecimalTexts)

def dumpState (state : SimulatedState) : Json :=
  (simulatedStateFields texts).model.dump state.serialized

def optionalReconciliation : Codec (Option Reconciliation) :=
  (reconciliationFields texts).model.optional nofun

/-- `result.model_dump(mode="json")`. -/
def dumpResult (result : DecidedProposalResult) : JsonObject := [
  ("proposal_run_id", .str result.proposalRunId),
  ("correlation_id", .str result.correlationId),
  ("status", proposalStatusCodec.dump result.status),
  ("before", dumpState texts result.before),
  ("intents", (intentCodec texts).list.dump result.intents),
  ("after_simulated", dumpState texts result.afterSimulated),
  ("reconciliation", (optionalReconciliation texts).dump result.reconciliation),
  ("rule_results", (ruleResultFields texts).model.list.dump result.ruleResults),
  ("explanation", .obj result.explanation),
  ("diagnostics", (diagnosticsFields texts).model.dump result.diagnostics),
  ("drift_analysis",
    dumpOptional (fun analysis => .obj (dumpDriftAnalysis texts analysis)) result.driftAnalysis),
  ("suitability",
    dumpOptional (fun suitability => .obj (dumpSuitability texts suitability)) result.suitability),
  ("gate_decision",
    dumpOptional (fun decision => .obj (dumpGateDecision decision)) result.gateDecision),
  ("proposal_decision_summary", .null),
  ("proposal_alternatives", .null),
  ("allocation_lens", allocationLensFields.model.dump result.allocationLens),
  ("lineage", lineageFields.model.dump result.lineage)]

end Result

end LotusAdvise.Advisory

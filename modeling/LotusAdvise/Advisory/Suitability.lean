import LotusAdvise.Advisory.Valuation
import LotusAdvise.Foundations.Json
import Mathlib.Data.List.Sort
import Mathlib.Data.Prod.Lex

/-! # Suitability

The state before a proposal and the one after it are scanned for issues by the same checks. An
issue of the state after is new if the state before does not have one with its key. The checks
read the weights of a state by instrument.
-/

namespace LotusAdvise.Advisory

inductive IssueDimension where
  | concentration
  | issuer
  | liquidity
  | governance
  | product
  | cash
  | dataQuality
deriving DecidableEq

def IssueDimension.text : IssueDimension → String
  | concentration => "CONCENTRATION"
  | issuer => "ISSUER"
  | liquidity => "LIQUIDITY"
  | governance => "GOVERNANCE"
  | product => "PRODUCT"
  | cash => "CASH"
  | dataQuality => "DATA_QUALITY"

inductive IssueClassification where
  | new
  | resolved
  | persistent
  | unknownDueToMissingEvidence
deriving DecidableEq

def ShelfStatus.text : ShelfStatus → String
  | approved => "APPROVED"
  | restricted => "RESTRICTED"
  | banned => "BANNED"
  | suspended => "SUSPENDED"
  | sellOnly => "SELL_ONLY"

def LiquidityTier.text : LiquidityTier → String
  | l1 => "L1"
  | l2 => "L2"
  | l3 => "L3"
  | l4 => "L4"
  | l5 => "L5"

/-- What an issue is about. -/
inductive IssueKey where
  | singlePosition (instrumentId : String)
  | issuer (issuerId : String)
  | liquidity (tier : LiquidityTier)
  | governance (instrumentId : String) (status : ShelfStatus)
  | cashBand
  | missingShelf (instrumentId : String)
  | missingIssuer (instrumentId : String)
  | missingLiquidityTier (instrumentId : String)
  | productComplexity (instrumentId : String)
  | mandateContext (instrumentId : String)

def IssueKey.text : IssueKey → String
  | singlePosition instrumentId => "SINGLE_POSITION_MAX|" ++ instrumentId
  | issuer issuerId => "ISSUER_MAX|" ++ issuerId
  | liquidity tier => "LIQUIDITY_MAX|" ++ tier.text
  | governance instrumentId status => "GOVERNANCE|" ++ instrumentId ++ "|" ++ status.text
  | cashBand => "CASH_BAND"
  | missingShelf instrumentId => "DQ|MISSING_SHELF|" ++ instrumentId
  | missingIssuer instrumentId => "DQ|MISSING_ISSUER|" ++ instrumentId
  | missingLiquidityTier instrumentId => "DQ|MISSING_LIQUIDITY_TIER|" ++ instrumentId
  | productComplexity instrumentId => "PRODUCT_COMPLEXITY|" ++ instrumentId
  | mandateContext instrumentId => "MANDATE_CONTEXT|" ++ instrumentId

/-- A text, or a decimal that is written as one. -/
inductive DetailValue where
  | text (text : String)
  | amount (amount : ℚ)
deriving DecidableEq

structure IssueCandidate where
  issueKey : String
  issueId : String
  dimension : IssueDimension
  severity : IssueSeverity
  summary : String
  details : Dict String DetailValue
  classification : IssueClassification := .new
  remediation : Option String
  approvalImplication : Option String
deriving DecidableEq

def epsilon : ℚ := 1 / 10000000

/-- `{x:.2%}` of an amount that is not negative. -/
def percentText (x : ℚ) : String :=
  let hundredths := (Decimal.roundHalfEven (x * 10000)).toNat
  (hundredths / 100).repr ++ "." ++ (hundredths % 100 / 10).repr ++ (hundredths % 10).repr ++ "%"

section Weights

variable (state : SimulatedState)

/-- Of several rows of an instrument, the last one with a positive weight counts. -/
def toInstrumentWeightMap : Dict String ℚ :=
  Dict.ofItems ((state.allocationByInstrument.filter fun metric => 0 < metric.weight).map
    fun metric => (metric.key, metric.weight))

/-- `to_instrument_weight_map(state).get(instrument_id, Decimal("0"))`. -/
def instrumentWeight (instrumentId : String) : ℚ :=
  (Dict.get? (toInstrumentWeightMap state) instrumentId).getD 0

def toCashWeight : ℚ :=
  ((state.allocationByAssetClass.find? fun metric => metric.key = "CASH").map
    AllocationMetric.weight).getD 0

def severityForConcentration (measured limit : ℚ) : IssueSeverity :=
  if limit * (5 / 4) < measured then .high else .medium

/-- `{entry.instrument_id: entry for entry in shelf}`. -/
def shelfIndex (shelf : List ShelfEntry) : Dict String ShelfEntry :=
  Dict.ofItems (shelf.map fun entry => (entry.instrumentId, entry))

end Weights

section Concentration

variable (thresholds : SuitabilityThresholds) (shelfByInstrument : Dict String ShelfEntry)
  (targetState : SimulatedState)

def concentrationApproval (severity : IssueSeverity) : String :=
  if severity = .high then "COMPLIANCE_REVIEW" else "RISK_REVIEW"

def singlePositionIssue (instrumentId : String) (weight : ℚ) : IssueCandidate :=
  let cap := thresholds.singlePositionMaxWeight
  { issueKey := (IssueKey.singlePosition instrumentId).text
    issueId := "SUIT_SINGLE_POSITION_MAX"
    dimension := .concentration
    severity := severityForConcentration weight cap
    summary := "Single position " ++ instrumentId ++ " exceeds " ++ percentText cap ++ " cap."
    details := [("instrument_id", .text instrumentId), ("threshold", .amount cap),
      ("measured", .amount weight)]
    remediation := some "Reduce the position weight or rebalance through offsetting trades."
    approvalImplication := some (concentrationApproval (severityForConcentration weight cap)) }

def evaluateSinglePositionIssues : List IssueCandidate :=
  ((toInstrumentWeightMap targetState).filter fun item =>
    thresholds.singlePositionMaxWeight + epsilon < item.2).map fun item =>
      singlePositionIssue thresholds item.1 item.2

def issueDataQuality (key : IssueKey) (summary instrumentId missingFields : String) :
    IssueCandidate where
  issueKey := key.text
  issueId := "SUIT_DATA_QUALITY"
  dimension := .dataQuality
  severity := thresholds.dataQualityIssueSeverity
  summary
  details := [("instrument_id", .text instrumentId), ("missing_fields", .text missingFields)]
  classification := .unknownDueToMissingEvidence
  remediation := some "Refresh the missing upstream enrichment before progressing the proposal."
  approvalImplication := some "DATA_REMEDIATION"

/-- `_aggregate_enriched_weights`: the weights by a field of the shelf, which counts as missing where
it is empty. -/
def aggregateEnrichedWeights {Bucket : Type} [DecidableEq Bucket]
    (bucket : ShelfEntry → Option Bucket) : Dict Bucket ℚ :=
  (toInstrumentWeightMap targetState).foldl (fun weights item =>
    match (Dict.get? shelfByInstrument item.1).bind bucket with
    | none => weights
    | some value => Dict.set weights value ((Dict.get? weights value).getD 0 + item.2)) []

/-- The data quality issues of `_aggregate_enriched_weights`. -/
def missingEnrichmentIssues {Bucket : Type} (bucket : ShelfEntry → Option Bucket)
    (missingShelf : String → List IssueCandidate) (missingEnrichment : String → IssueCandidate) :
    List IssueCandidate :=
  (toInstrumentWeightMap targetState).flatMap fun item =>
    match Dict.get? shelfByInstrument item.1 with
    | none => missingShelf item.1
    | some entry => if (bucket entry).isNone then [missingEnrichment item.1] else []

/-- An empty issuer is none. -/
def issuerBucket (entry : ShelfEntry) : Option String :=
  entry.issuerId.filter fun issuerId => issuerId ≠ ""

def missingShelfIssue (instrumentId : String) : IssueCandidate :=
  issueDataQuality thresholds (.missingShelf instrumentId)
    ("Shelf enrichment missing for " ++ instrumentId ++ ".") instrumentId "shelf_entry"

def missingIssuerIssue (instrumentId : String) : IssueCandidate :=
  issueDataQuality thresholds (.missingIssuer instrumentId)
    ("Issuer enrichment missing for " ++ instrumentId ++ ".") instrumentId "issuer_id"

def missingLiquidityTierIssue (instrumentId : String) : IssueCandidate :=
  issueDataQuality thresholds (.missingLiquidityTier instrumentId)
    ("Liquidity tier enrichment missing for " ++ instrumentId ++ ".") instrumentId "liquidity_tier"

def issuerExposureIssue (issuerId : String) (weight cap : ℚ) : IssueCandidate where
  issueKey := (IssueKey.issuer issuerId).text
  issueId := "SUIT_ISSUER_MAX"
  dimension := .issuer
  severity := severityForConcentration weight cap
  summary := "Issuer " ++ issuerId ++ " exceeds " ++ percentText cap ++ " exposure cap."
  details := [("issuer_id", .text issuerId), ("threshold", .amount cap), ("measured", .amount weight)]
  remediation := some "Reduce issuer concentration or add diversified replacement exposure."
  approvalImplication := some (concentrationApproval (severityForConcentration weight cap))

def issuerWeights : Dict String ℚ :=
  aggregateEnrichedWeights shelfByInstrument targetState issuerBucket

def evaluateIssuerIssues : List IssueCandidate :=
  missingEnrichmentIssues shelfByInstrument targetState issuerBucket
      (fun instrumentId => [missingShelfIssue thresholds instrumentId])
      (missingIssuerIssue thresholds) ++
    ((issuerWeights shelfByInstrument targetState).filter fun item =>
      thresholds.issuerMaxWeight + epsilon < item.2).map fun item =>
        issuerExposureIssue item.1 item.2 thresholds.issuerMaxWeight

def liquidityExposureIssue (tier : LiquidityTier) (measured cap : ℚ) : IssueCandidate where
  issueKey := (IssueKey.liquidity tier).text
  issueId := "SUIT_LIQUIDITY_MAX"
  dimension := .liquidity
  severity := severityForConcentration measured cap
  summary := "Liquidity tier " ++ tier.text ++ " exceeds " ++ percentText cap ++ " exposure cap."
  details := [("liquidity_tier", .text tier.text), ("threshold", .amount cap),
    ("measured", .amount measured)]
  remediation := some "Reduce illiquid exposure or increase liquid funding assets."
  approvalImplication := some "RISK_REVIEW"

/-- `liquidity_weights.get(tier, Decimal("0"))`. -/
def liquidityWeight (tier : LiquidityTier) : ℚ :=
  (Dict.get? (aggregateEnrichedWeights shelfByInstrument targetState ShelfEntry.liquidityTier)
    tier).getD 0

def evaluateLiquidityIssues : List IssueCandidate :=
  missingEnrichmentIssues shelfByInstrument targetState ShelfEntry.liquidityTier (fun _ => [])
      (missingLiquidityTierIssue thresholds) ++
    (thresholds.maxWeightByLiquidityTier.filter fun item =>
      item.2 + epsilon < liquidityWeight shelfByInstrument targetState item.1).map fun item =>
        liquidityExposureIssue item.1 (liquidityWeight shelfByInstrument targetState item.1) item.2

end Concentration

section Governance

variable (allowRestricted : Bool) (instrumentId : String) (beforeWeight afterWeight : ℚ)

def presenceGovernanceIssue (status : ShelfStatus) (issueId remediation : String) :
    IssueCandidate where
  issueKey := (IssueKey.governance instrumentId status).text
  issueId
  dimension := .governance
  severity := .high
  summary := status.text ++ " instrument " ++ instrumentId ++ " is present in the portfolio."
  details := [("instrument_id", .text instrumentId), ("shelf_status", .text status.text),
    ("measured", .amount afterWeight)]
  remediation := some remediation
  approvalImplication := some "COMPLIANCE_REVIEW"

def governanceIncreaseDetails (status : ShelfStatus) : Dict String DetailValue :=
  [("instrument_id", .text instrumentId), ("shelf_status", .text status.text),
    ("measured_before", .amount beforeWeight), ("measured_after", .amount afterWeight)]

def allowRestrictedDetail : String × DetailValue :=
  ("allow_restricted", .text (if allowRestricted then "true" else "false"))

def restrictedSeverity : IssueSeverity := if allowRestricted then .medium else .high

/-- More of an instrument that can only be sold. -/
def sellOnlyIssue (summary remediation : String) : IssueCandidate where
  issueKey := (IssueKey.governance instrumentId .sellOnly).text
  issueId := "SUIT_GOVERNANCE_SELL_ONLY_INCREASE"
  dimension := .governance
  severity := .high
  summary
  details := governanceIncreaseDetails instrumentId beforeWeight afterWeight .sellOnly
  remediation := some remediation
  approvalImplication := some "COMPLIANCE_REVIEW"

/-- More of a restricted instrument. -/
def restrictedIssue (summary remediation : String) : IssueCandidate where
  issueKey := (IssueKey.governance instrumentId .restricted).text
  issueId := "SUIT_GOVERNANCE_RESTRICTED_INCREASE"
  dimension := .governance
  severity := restrictedSeverity allowRestricted
  summary
  details := governanceIncreaseDetails instrumentId beforeWeight afterWeight .restricted ++
    [allowRestrictedDetail allowRestricted]
  remediation := some remediation
  approvalImplication := some (concentrationApproval (restrictedSeverity allowRestricted))

def sellOnlyIncreaseIssue : IssueCandidate :=
  sellOnlyIssue instrumentId beforeWeight afterWeight
    ("SELL_ONLY instrument " ++ instrumentId ++ " increased in proposed state.")
    "Remove the increase or obtain explicit product-control approval."

def restrictedIncreaseIssue : IssueCandidate :=
  restrictedIssue allowRestricted instrumentId beforeWeight afterWeight
    ("RESTRICTED instrument " ++ instrumentId ++
      if allowRestricted then " increased under allow_restricted" else " increased in proposed state")
    "Confirm the restricted-product rationale before progressing."

def holdingIncreased : Bool := beforeWeight + epsilon < afterWeight

def governanceHoldingIssue (status : ShelfStatus) : Option IssueCandidate :=
  match status with
  | .banned =>
    if epsilon < afterWeight then
      some (presenceGovernanceIssue instrumentId afterWeight .banned "SUIT_GOVERNANCE_BANNED"
        "Remove the banned instrument from the proposal before proceeding.")
    else none
  | .suspended =>
    if epsilon < afterWeight then
      some (presenceGovernanceIssue instrumentId afterWeight .suspended "SUIT_GOVERNANCE_SUSPENDED"
        "Hold execution until the suspended instrument is removed or cleared.")
    else none
  | .sellOnly =>
    if holdingIncreased beforeWeight afterWeight then
      some (sellOnlyIncreaseIssue instrumentId beforeWeight afterWeight)
    else none
  | .restricted =>
    if holdingIncreased beforeWeight afterWeight then
      some (restrictedIncreaseIssue allowRestricted instrumentId beforeWeight afterWeight)
    else none
  | .approved => none

variable (shelfByInstrument : Dict String ShelfEntry) (beforeState targetState : SimulatedState)

def distinctSorted (texts : List String) : List String :=
  texts.dedup.insertionSort fun a b => a ≤ b

def evaluateGovernanceHoldingsIssues : List IssueCandidate :=
  (distinctSorted ((toInstrumentWeightMap beforeState ++ toInstrumentWeightMap targetState).map
    Prod.fst)).filterMap fun instrumentId =>
      (Dict.get? shelfByInstrument instrumentId).bind fun entry =>
        governanceHoldingIssue allowRestricted instrumentId
          (instrumentWeight beforeState instrumentId) (instrumentWeight targetState instrumentId)
          entry.status

end Governance

section Scan

variable (options : EngineOptions) (shelfByInstrument : Dict String ShelfEntry)
  (beforeState targetState : SimulatedState)

def evaluateCashBandIssue : List IssueCandidate :=
  let thresholds := options.suitabilityThresholds
  if toCashWeight targetState < thresholds.cashBandMinWeight - epsilon ∨
      thresholds.cashBandMaxWeight + epsilon < toCashWeight targetState then [{
    issueKey := IssueKey.cashBand.text
    issueId := "SUIT_CASH_BAND"
    dimension := .cash
    severity := .medium
    summary := "Cash weight is outside advisory suitability band."
    details := [("threshold_min", .amount thresholds.cashBandMinWeight),
      ("threshold_max", .amount thresholds.cashBandMaxWeight),
      ("measured", .amount (toCashWeight targetState))]
    remediation :=
      some "Adjust cash funding so the proposal stays within the cash suitability band."
    approvalImplication := some "RISK_REVIEW" }]
  else []

/-- The issues of a state, in the order in which the checks write them. -/
def scanStateIssues : List IssueCandidate :=
  evaluateSinglePositionIssues options.suitabilityThresholds targetState ++
    (evaluateIssuerIssues options.suitabilityThresholds shelfByInstrument targetState ++
      (evaluateLiquidityIssues options.suitabilityThresholds shelfByInstrument targetState ++
        (evaluateGovernanceHoldingsIssues options.allowRestricted shelfByInstrument beforeState
          targetState ++ evaluateCashBandIssue options targetState)))

end Scan

end LotusAdvise.Advisory

import LotusAdvise.Advisory.Suitability

/-! # The result of the suitability checks

To the issues of the state after a proposal come those of the proposed trades themselves. Each
issue key is then classified by the scans that have it.
-/

namespace LotusAdvise.Advisory

section Trades

variable (proposedTrades : List ProposedTrade)

def buyInstrumentIds : List String :=
  (proposedTrades.filter fun trade => trade.side = .buy ∧ trade.instrumentId ≠ "").map
    ProposedTrade.instrumentId

section Governance

variable (allowRestricted : Bool) (shelfByInstrument : Dict String ShelfEntry)
  (before after : SimulatedState)

def governanceTradeAttemptIssue (instrumentId : String) (status : ShelfStatus) :
    Option IssueCandidate :=
  let beforeWeight := instrumentWeight before instrumentId
  let afterWeight := instrumentWeight after instrumentId
  match status with
  | .sellOnly => some (sellOnlyIssue instrumentId beforeWeight afterWeight
      ("Proposal BUY attempts to increase SELL_ONLY instrument " ++ instrumentId ++ ".")
      "Remove the SELL_ONLY buy or obtain explicit product-control approval.")
  | .restricted => some (restrictedIssue allowRestricted instrumentId beforeWeight afterWeight
      ("Proposal BUY attempts to increase RESTRICTED instrument " ++ instrumentId ++ ".")
      "Document the restricted-product rationale before progressing.")
  | _ => none

def governanceTradeAttemptIssues : List IssueCandidate :=
  (buyInstrumentIds proposedTrades).filterMap fun instrumentId =>
    (Dict.get? shelfByInstrument instrumentId).bind fun entry =>
      governanceTradeAttemptIssue allowRestricted before after instrumentId entry.status

end Governance

section Context

/-- `_context_status_available`. -/
def contextStatusAvailable (policyContext : Option JsonObject) (statusKey : String) : Bool :=
  (policyContext.bind fun context => Dict.get? context statusKey) = some (.str "AVAILABLE")

def clientContextAvailable (policyContext : Option JsonObject) : Bool :=
  contextStatusAvailable policyContext "client_context_status"

def mandateContextAvailable (policyContext : Option JsonObject) : Bool :=
  contextStatusAvailable policyContext "mandate_context_status"

variable (upper : String → String) (shelfByInstrument : Dict String ShelfEntry)
  (policyContext : Option JsonObject) (before after : SimulatedState)

def productComplexity (entry : ShelfEntry) : String :=
  upper ((Dict.get? entry.attributes "product_complexity").getD "")

def requiresProductComplexityEvidence (entry : ShelfEntry) : Bool :=
  productComplexity upper entry ∈ ["HIGH", "COMPLEX"] ∧ clientContextAvailable policyContext = false

def productComplexityIssue (instrumentId complexity : String) : IssueCandidate where
  issueKey := (IssueKey.productComplexity instrumentId).text
  issueId := "MISSING_CLIENT_PRODUCT_COMPLEXITY_EVIDENCE"
  dimension := .product
  severity := .high
  summary := "Complex product " ++ instrumentId ++ " requires client knowledge and experience " ++
    "evidence before recommendation."
  details := [("instrument_id", .text instrumentId), ("product_complexity", .text complexity),
    ("measured_before", .amount (instrumentWeight before instrumentId)),
    ("measured_after", .amount (instrumentWeight after instrumentId))]
  classification := .unknownDueToMissingEvidence
  remediation := some "Capture client product-complexity evidence before progressing."
  approvalImplication := some "CLIENT_CONTEXT_REQUIRED"

def productComplexityIssues : List IssueCandidate :=
  (distinctSorted ((toInstrumentWeightMap after).map Prod.fst ++
    buyInstrumentIds proposedTrades)).filterMap fun instrumentId =>
      (Dict.get? shelfByInstrument instrumentId).bind fun entry =>
        if requiresProductComplexityEvidence upper policyContext entry ∧
            (instrumentId ∈ buyInstrumentIds proposedTrades ∨
              holdingIncreased (instrumentWeight before instrumentId)
                (instrumentWeight after instrumentId)) then
          some (productComplexityIssue before after instrumentId (productComplexity upper entry))
        else none

def restrictedProductMandateContextIssue (instrumentId : String) : IssueCandidate where
  issueKey := (IssueKey.mandateContext instrumentId).text
  issueId := "MISSING_MANDATE_RESTRICTED_PRODUCT_EVIDENCE"
  dimension := .product
  severity := .high
  summary :=
    "Restricted product " ++ instrumentId ++ " requires mandate context before recommendation."
  details := [("instrument_id", .text instrumentId), ("shelf_status", .text "RESTRICTED")]
  classification := .unknownDueToMissingEvidence
  remediation := some "Capture mandate context for the restricted-product recommendation."
  approvalImplication := some "MANDATE_EXCEPTION_APPROVAL"

def restrictedProductMandateContextIssues : List IssueCandidate :=
  if policyContext.isSome ∧ mandateContextAvailable policyContext = false then
    ((buyInstrumentIds proposedTrades).filter fun instrumentId =>
      (Dict.get? shelfByInstrument instrumentId).any fun entry => entry.status = .restricted).map
        restrictedProductMandateContextIssue
  else []

end Context

end Trades

section Projection

inductive StatusChange where
  | new
  | persistent
  | resolved
deriving DecidableEq

def StatusChange.rank : StatusChange → ℕ
  | new => 0
  | persistent => 1
  | resolved => 2

def StatusChange.classification : StatusChange → IssueClassification
  | new => .new
  | persistent => .persistent
  | resolved => .resolved

def IssueSeverity.rank : IssueSeverity → ℕ
  | high => 0
  | medium => 1
  | low => 2

structure SuitabilityEvidence where
  asOf : String
  portfolioSnapshotId : String
  marketDataSnapshotId : String
deriving DecidableEq

structure SuitabilityIssue where
  issueId : String
  issueKey : String
  dimension : IssueDimension
  severity : IssueSeverity
  statusChange : StatusChange
  classification : IssueClassification
  summary : String
  remediation : Option String
  approvalImplication : Option String
  details : Dict String DetailValue
  evidence : SuitabilityEvidence
  policyPackId : String
  policyVersion : String
deriving DecidableEq

def globalPrivateBankingBaselinePackId : String := "global-private-banking-baseline"

def globalPrivateBankingBaselineVersion : String := "enterprise-suitability-policy.2026-04"

def buildSuitabilityIssue (evidence : SuitabilityEvidence) (statusChange : StatusChange)
    (candidate : IssueCandidate) : SuitabilityIssue where
  issueId := candidate.issueId
  issueKey := candidate.issueKey
  dimension := candidate.dimension
  severity := candidate.severity
  statusChange
  classification :=
    if candidate.classification = .unknownDueToMissingEvidence then candidate.classification
    else statusChange.classification
  summary := candidate.summary
  remediation := candidate.remediation
  approvalImplication := candidate.approvalImplication
  details := candidate.details
  evidence
  policyPackId := globalPrivateBankingBaselinePackId
  policyVersion := globalPrivateBankingBaselineVersion

/-- The issues by their keys, where a later one replaces an earlier one. -/
def issueMap (candidates : List IssueCandidate) : Dict String IssueCandidate :=
  Dict.ofItems (candidates.map fun candidate => (candidate.issueKey, candidate))

variable (evidence : SuitabilityEvidence) (beforeIssues afterIssues : Dict String IssueCandidate)

def classifiedIssue (issueKey : String) : Option SuitabilityIssue :=
  match Dict.get? afterIssues issueKey, Dict.get? beforeIssues issueKey with
  | some candidate, some _ => some (buildSuitabilityIssue evidence .persistent candidate)
  | some candidate, none => some (buildSuitabilityIssue evidence .new candidate)
  | none, some candidate => some (buildSuitabilityIssue evidence .resolved candidate)
  | none, none => none

def issueSortKey (issue : SuitabilityIssue) : ℕ ×ₗ ℕ ×ₗ String ×ₗ String :=
  toLex (issue.statusChange.rank, toLex (issue.severity.rank,
    toLex (issue.dimension.text, issue.issueKey)))

def classifyIssues : List SuitabilityIssue :=
  ((((beforeIssues ++ afterIssues).map Prod.fst).dedup).filterMap
    (classifiedIssue evidence beforeIssues afterIssues)).insertionSort
      fun a b => issueSortKey a ≤ issueSortKey b

end Projection

section Result

variable (issues : List SuitabilityIssue)

structure SuitabilitySummary where
  newCount : ℕ
  resolvedCount : ℕ
  persistentCount : ℕ
  highestSeverityNew : Option IssueSeverity
deriving DecidableEq

def issuesWithStatus (statusChange : StatusChange) : List SuitabilityIssue :=
  issues.filter fun issue => issue.statusChange = statusChange

def highestNewIssueSeverity (newIssues : List SuitabilityIssue) : Option IssueSeverity :=
  [IssueSeverity.high, .medium, .low].find? fun severity =>
    severity ∈ newIssues.map SuitabilityIssue.severity

def suitabilitySummary : SuitabilitySummary where
  newCount := (issuesWithStatus issues .new).length
  resolvedCount := (issuesWithStatus issues .resolved).length
  persistentCount := (issuesWithStatus issues .persistent).length
  highestSeverityNew := highestNewIssueSeverity (issuesWithStatus issues .new)

def recommendedGate : String :=
  match highestNewIssueSeverity (issuesWithStatus issues .new) with
  | some .high => "COMPLIANCE_REVIEW"
  | some .medium => "RISK_REVIEW"
  | some .low => "NONE"
  | none => "NONE"

structure SuitabilityResult where
  summary : SuitabilitySummary
  issues : List SuitabilityIssue
  policyPackId : String
  policyVersion : String
  recommendedGate : String
deriving DecidableEq

variable (upper : String → String) (before after : SimulatedState) (shelf : List ShelfEntry)
  (options : EngineOptions) (portfolioSnapshotId marketDataSnapshotId : String)
  (evidenceAsOf : Option String) (proposedTrades : List ProposedTrade)
  (policyContext : Option JsonObject)

def suitabilityEvidence : SuitabilityEvidence where
  asOf :=
    match evidenceAsOf with
    | none => marketDataSnapshotId
    | some asOf => if asOf = "" then marketDataSnapshotId else asOf
  portfolioSnapshotId
  marketDataSnapshotId

def scanBefore : List IssueCandidate :=
  scanStateIssues options (shelfIndex shelf) before before

/-- The scan of the state after, and the issues of the trades after it. -/
def scanAfter : List IssueCandidate :=
  scanStateIssues options (shelfIndex shelf) before after ++
    (governanceTradeAttemptIssues proposedTrades options.allowRestricted (shelfIndex shelf) before
        after ++
      (productComplexityIssues proposedTrades upper (shelfIndex shelf) policyContext before after ++
        restrictedProductMandateContextIssues proposedTrades (shelfIndex shelf) policyContext))

def computeSuitabilityResult : SuitabilityResult :=
  let issues := classifyIssues
    (suitabilityEvidence portfolioSnapshotId marketDataSnapshotId evidenceAsOf)
    (issueMap (scanBefore before shelf options))
    (issueMap (scanAfter upper before after shelf options proposedTrades policyContext))
  { summary := suitabilitySummary issues
    issues
    policyPackId := globalPrivateBankingBaselinePackId
    policyVersion := globalPrivateBankingBaselineVersion
    recommendedGate := recommendedGate issues }

end Result

end LotusAdvise.Advisory

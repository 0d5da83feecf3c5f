import LotusAdvise.Advisory.Review
import LotusAdvise.Advisory.SuitabilityResult

/-! # The workflow gate

The gate of a proposal is the first outcome whose rule applies: blocked by a failed hard rule, a
review for new suitability issues, the consent of the client, or ready for execution.
-/

namespace LotusAdvise.Advisory

inductive Gate where
  | blocked
  | riskReviewRequired
  | complianceReviewRequired
  | clientConsentRequired
  | executionReady
deriving DecidableEq

inductive GateStep where
  | fixInput
  | riskReview
  | complianceReview
  | requestClientConsent
  | execute
deriving DecidableEq

inductive GateSource where
  | ruleEngine
  | suitability
  | dataQuality
deriving DecidableEq

def GateSource.text : GateSource → String
  | ruleEngine => "RULE_ENGINE"
  | suitability => "SUITABILITY"
  | dataQuality => "DATA_QUALITY"

structure GateReason where
  reasonCode : String
  severity : IssueSeverity
  source : GateSource
  details : Dict String String
deriving DecidableEq

structure GateDecisionSummary where
  hardFailCount : ℕ
  softFailCount : ℕ
  newHighSuitabilityCount : ℕ
  newMediumSuitabilityCount : ℕ
deriving DecidableEq

structure GateDecision where
  gate : Gate
  recommendedNextStep : GateStep
  reasons : List GateReason
  summary : GateDecisionSummary
deriving DecidableEq

section Reasons

/-- `_dq_reasons`, for one kind of missing data. -/
def dqReason (reasonCode : String) (missing : List String) : List GateReason :=
  if missing = [] then []
  else [{
    reasonCode
    severity := .high
    source := .dataQuality
    details := [("count", missing.length.repr)] }]

def dqReasons (diagnostics : Option DiagnosticsData) : List GateReason :=
  let dataQuality := (diagnostics.map DiagnosticsData.dataQuality).getD {}
  dqReason "DATA_QUALITY_MISSING_PRICE" dataQuality.priceMissing ++
    dqReason "DATA_QUALITY_MISSING_FX" dataQuality.fxMissing

def failedRules (ruleResults : List RuleResult) (severity : RuleSeverity) : List RuleResult :=
  ruleResults.filter fun rule => rule.status = .fail ∧ rule.severity = severity

def ruleReason (rule : RuleResult) : Option GateReason :=
  match rule.status, rule.severity with
  | .fail, .hard => some {
      reasonCode := "HARD_RULE_FAIL:" ++ rule.ruleId
      severity := .high
      source := .ruleEngine
      details := [("reason_code", rule.reasonCode)] }
  | .fail, .soft => some {
      reasonCode := "SOFT_RULE_FAIL:" ++ rule.ruleId
      severity := .medium
      source := .ruleEngine
      details := [("reason_code", rule.reasonCode)] }
  | _, _ => none

def newSuitabilityGateReason (issue : SuitabilityIssue) : Option GateReason :=
  let reason (reasonCode : String) : GateReason := {
    reasonCode
    severity := issue.severity
    source := .suitability
    details := [("issue_id", issue.issueId), ("issue_key", issue.issueKey)] }
  match issue.statusChange, issue.severity with
  | .new, .high => some (reason "NEW_HIGH_SUITABILITY_ISSUE")
  | .new, .medium => some (reason "NEW_MEDIUM_SUITABILITY_ISSUE")
  | _, _ => none

def suitabilityReasons (suitability : Option SuitabilityResult) : List GateReason :=
  ((suitability.map SuitabilityResult.issues).getD []).filterMap newSuitabilityGateReason

def countReasons (reasons : List GateReason) (reasonCode : String) : ℕ :=
  reasons.countP fun reason => reason.reasonCode = reasonCode

def gateReasonSortKey (reason : GateReason) : ℕ ×ₗ String ×ₗ String ×ₗ String :=
  toLex (reason.severity.rank, toLex (reason.source.text, toLex (reason.reasonCode,
    (Dict.get? reason.details "issue_key").getD
      ((Dict.get? reason.details "reason_code").getD ""))))

end Reasons

section Decision

variable (status : ProposalStatus) (ruleResults : List RuleResult)
  (suitability : Option SuitabilityResult) (diagnostics : Option DiagnosticsData)
  (options : EngineOptions) (defaultRequiresClientConsent : Bool)

def gateDecisionSummary : GateDecisionSummary where
  hardFailCount := (failedRules ruleResults .hard).length
  softFailCount := (failedRules ruleResults .soft).length
  newHighSuitabilityCount :=
    countReasons (suitabilityReasons suitability) "NEW_HIGH_SUITABILITY_ISSUE"
  newMediumSuitabilityCount :=
    countReasons (suitabilityReasons suitability) "NEW_MEDIUM_SUITABILITY_ISSUE"

def resolveGateOutcome (summary : GateDecisionSummary) : Gate × GateStep :=
  if status = .blocked ∨ 0 < summary.hardFailCount then (.blocked, .fixInput)
  else if 0 < summary.newHighSuitabilityCount then (.complianceReviewRequired, .complianceReview)
  else if 0 < summary.softFailCount ∨ 0 < summary.newMediumSuitabilityCount then
    (.riskReviewRequired, .riskReview)
  else if options.clientConsentAlreadyObtained then (.executionReady, .execute)
  else if options.workflowRequiresClientConsent ∨ defaultRequiresClientConsent then
    (.clientConsentRequired, .requestClientConsent)
  else (.executionReady, .execute)

def evaluateGateDecision : GateDecision :=
  let summary := gateDecisionSummary ruleResults suitability
  let outcome := resolveGateOutcome status options defaultRequiresClientConsent summary
  { gate := outcome.1
    recommendedNextStep := outcome.2
    reasons := (ruleResults.filterMap ruleReason ++ (suitabilityReasons suitability ++
      dqReasons diagnostics)).insertionSort fun a b => gateReasonSortKey a ≤ gateReasonSortKey b
    summary }

end Decision

end LotusAdvise.Advisory

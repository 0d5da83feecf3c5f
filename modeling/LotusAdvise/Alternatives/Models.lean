import LotusAdvise.Foundations.Json
import Mathlib.Data.Rat.Init

/-! # Proposal alternatives

A strategy seeds candidates for alternatives to a proposal. A candidate that has been evaluated is
an alternative, or is rejected with a reason.
-/

namespace LotusAdvise.Alternatives

inductive AlternativeConstructionObjective where
  | reduceConcentration | improveRiskAlignment | raiseCash | lowerTurnover
  | improveCurrencyAlignment | rebalanceToReferenceModel | avoidRestrictedProducts
  | minimizeApprovalRequirements | preserveClientPreferences | lowerCostAndFriction
deriving DecidableEq

def AlternativeConstructionObjective.text : AlternativeConstructionObjective → String
  | .reduceConcentration => "REDUCE_CONCENTRATION"
  | .improveRiskAlignment => "IMPROVE_RISK_ALIGNMENT"
  | .raiseCash => "RAISE_CASH"
  | .lowerTurnover => "LOWER_TURNOVER"
  | .improveCurrencyAlignment => "IMPROVE_CURRENCY_ALIGNMENT"
  | .rebalanceToReferenceModel => "REBALANCE_TO_REFERENCE_MODEL"
  | .avoidRestrictedProducts => "AVOID_RESTRICTED_PRODUCTS"
  | .minimizeApprovalRequirements => "MINIMIZE_APPROVAL_REQUIREMENTS"
  | .preserveClientPreferences => "PRESERVE_CLIENT_PREFERENCES"
  | .lowerCostAndFriction => "LOWER_COST_AND_FRICTION"

inductive AlternativeEvidenceRequirement where
  | restrictedProductEligibility | mandateContext | clientPreferences
deriving DecidableEq

inductive AlternativeCandidateStatus where
  | provisional | readyForSimulation
deriving DecidableEq

inductive AlternativeStatus where
  | feasible | feasibleWithReview | rejectedConstraintViolation | rejectedInsufficientEvidence
  | rejectedSimulationFailed | rejectedRiskEvidenceUnavailable | rejectedPolicyBlocked
deriving DecidableEq

structure AlternativeCandidateSeed where
  candidateId : String
  objective : AlternativeConstructionObjective
  strategyId : String
  status : AlternativeCandidateStatus := .provisional
  label : String
  summary : String
  requiredEvidence : List AlternativeEvidenceRequirement := []
  generatedIntents : List JsonObject := []
  metadata : JsonObject := []
deriving DecidableEq

structure RejectedAlternativeCandidate where
  candidateId : String
  objective : AlternativeConstructionObjective
  status : AlternativeStatus
  reasonCode : String
  summary : String
  failedConstraints : List String := []
  missingEvidence : List String := []
  remediation : Option String := none
  evidenceRefs : List String := []
deriving DecidableEq

/-- An alternative, before it is compared with others and ranked. -/
structure ProposalAlternative where
  alternativeId : String
  label : String
  objective : AlternativeConstructionObjective
  rank : Option ℤ := none
  selected : Bool := false
  status : AlternativeStatus
  constructionPolicyVersion : String
  rankingPolicyVersion : String
  intents : List JsonObject := []
  simulationResultRef : Option String := none
  riskLensRef : Option String := none
  proposalDecisionSummary : JsonObject := []
  evidenceRefs : List String := []
deriving DecidableEq

structure AlternativeMoneyConstraint where
  amount : ℚ
  currency : String
deriving DecidableEq

/-- The constraints of a request, as far as strategies read them. -/
structure ProposalAlternativesConstraints where
  cashFloor : Option AlternativeMoneyConstraint := none
  preserveHoldings : List String := []
  restrictedInstruments : List String := []
  doNotBuy : List String := []
  doNotSell : List String := []
  allowFx : Bool := true
  allowedCurrencies : List String := []
deriving DecidableEq

structure NormalizedProposalAlternativesRequest where
  requestedObjectives : List AlternativeConstructionObjective
  constraints : ProposalAlternativesConstraints
  maxAlternatives : ℕ
deriving DecidableEq

end LotusAdvise.Alternatives

import LotusAdvise.Alternatives.Models
import LotusAdvise.Foundations.Dict
import LotusAdvise.Foundations.Except

/-! # The evaluation of alternatives

Candidates are simulated in a batch. The request of a candidate is the base request with the
intents of the candidate; candidates with the same request share one evaluation, whose result is
rewritten for each of them.
-/

namespace LotusAdvise.Alternatives

inductive ProposalStatus where
  | ready | blocked | pendingReview
deriving DecidableEq

/-- The result of an evaluation, as far as candidates are classified by it. -/
structure ProposalResult where
  status : ProposalStatus
  explanation : JsonObject
  /-- The dump of the decision summary. -/
  proposalDecisionSummary : Option JsonObject
deriving DecidableEq

structure AlternativesSimulationError where
  reasonCode : String
  message : String
  details : JsonObject
deriving DecidableEq

/-- Why no request is built: for a reason that rejects the candidate, or by another exception. -/
inductive BuildError where
  | simulation (error : AlternativesSimulationError)
  | raised (exception : String)
deriving DecidableEq

structure AlternativeServices where
  /-- `ProposalSimulateRequest.model_validate`, and the dump of what is validated. -/
  validateRequest : JsonObject → Except String JsonObject
  /-- `validate_alternative_simulation_intent_payload`; the error counts what is invalid. -/
  validateIntent : JsonObject → Except ℕ JsonObject
  /-- `AlternativeDecisionSummarySnapshot.model_validate`. -/
  validateDecisionSummary : JsonObject → Except String Unit
  upper : String → String
  /-- The text of a value that is no string. -/
  str : Json → String
  /-- `dict`, of a value that is no object. -/
  dict : Json → Except String JsonObject
  /-- The digest of the text of a value in canonical form. -/
  sha256 : Json → String

def simulationAuthority : String := "lotus_core"

def riskAuthority : String := "lotus_risk"

def constructionPolicyVersion : String := "advisory-construction.2026-04"

def rankingPolicyVersion : String := "advisory-ranking.2026-04"

section Requests

variable (services : AlternativeServices) (candidate : AlternativeCandidateSeed)

def normalizedIntentType (intent : JsonObject) : String :=
  match intent.lookup "intent_type" with
  | none => services.upper ""
  | some (.str text) => services.upper text
  | some value => services.upper (services.str value)

def orNull (text : String) : Json := if text = "" then .null else .str text

def validatedCandidateSimulationIntent (intent : JsonObject) :
    Except AlternativesSimulationError JsonObject :=
  (services.validateIntent intent).mapError fun (errors : ℕ) =>
    { reasonCode := "ALTERNATIVE_INTENT_CONTRACT_INVALID"
      message := "Alternative candidate contains a generated simulation intent that does not " ++
        "match the governed advisory simulation contract."
      details := [("candidate_id", .str candidate.candidateId),
        ("intent_type", orNull (normalizedIntentType services intent)),
        ("validation_error_count", .int errors)] }

/-- The cash flows and the trades, with one more intent. -/
def appendCandidateSimulationIntent (proposed : List JsonObject × List JsonObject)
    (intent : JsonObject) :
    Except AlternativesSimulationError (List JsonObject × List JsonObject) :=
  if normalizedIntentType services intent = "CASH_FLOW" then
    (validatedCandidateSimulationIntent services candidate intent).map fun validated =>
      (proposed.1 ++ [validated], proposed.2)
  else if normalizedIntentType services intent = "SECURITY_TRADE" then
    (validatedCandidateSimulationIntent services candidate intent).map fun validated =>
      (proposed.1, proposed.2 ++ [validated])
  else .error {
    reasonCode := "ALTERNATIVE_INTENT_UNSUPPORTED"
    message := "Alternative candidate contains an unsupported intent type for " ++
      "canonical simulation."
    details := [("candidate_id", .str candidate.candidateId),
      ("intent_type", orNull (normalizedIntentType services intent))] }

def splitCandidateSimulationIntents :
    Except AlternativesSimulationError (List JsonObject × List JsonObject) :=
  if candidate.generatedIntents = [] then .error {
    reasonCode := "ALTERNATIVE_CANDIDATE_HAS_NO_INTENTS"
    message := "Alternative candidate must carry deterministic generated intents before " ++
      "canonical simulation."
    details := [("candidate_id", .str candidate.candidateId)] }
  else
    candidate.generatedIntents.foldlM (appendCandidateSimulationIntent services candidate) ([], [])

/-- The dump of the request that is built, whatever the order of its keys. -/
def buildAlternativeSimulateRequest (baseRequest : JsonObject) : Except BuildError Json :=
  match splitCandidateSimulationIntents services candidate with
  | .error error => .error (.simulation error)
  | .ok (proposedCashFlows, proposedTrades) =>
    let payload := JsonObject.set (JsonObject.set (JsonObject.set baseRequest
      "proposed_cash_flows" (.arr (proposedCashFlows.map .obj)))
      "proposed_trades" (.arr (proposedTrades.map .obj))) "alternatives_request" .null
    match services.validateRequest payload with
    | .error exception => .error (.raised exception)
    | .ok dump => .ok (Json.obj dump).canonical

def requestHash (payload : Json) : String := "sha256:" ++ services.sha256 payload

end Requests

section Classification

variable (services : AlternativeServices) (candidate : AlternativeCandidateSeed)

def rejectedCandidate (status : AlternativeStatus) (reasonCode summary : String)
    (evidenceRefs : List String) : RejectedAlternativeCandidate where
  candidateId := candidate.candidateId
  objective := candidate.objective
  status := status
  reasonCode := reasonCode
  summary := summary
  evidenceRefs := evidenceRefs

def evidenceRef (candidateId evidenceKey : String) : String :=
  "evidence://proposal-alternatives/" ++ candidateId ++ "/" ++ evidenceKey

def alternativeEvidenceRefs (candidateId requestHash : String) : List String :=
  [evidenceRef candidateId "simulation", evidenceRef candidateId "risk",
    evidenceRef candidateId "decision-summary", requestHash]

def authorityRejectionRefs (requestHash : String) : List String :=
  ["candidate:" ++ candidate.candidateId, requestHash, "proposal.explanation.authority_resolution"]

/-- `dict(explanation.get("authority_resolution", {}))`. -/
def authorityResolution (result : ProposalResult) : Except String JsonObject :=
  match result.explanation.lookup "authority_resolution" with
  | none => .ok []
  | some (.obj resolution) => .ok resolution
  | some value => services.dict value

/-- The text under a key is the given one. The text of no other value is. -/
def isText (object : JsonObject) (key text : String) : Prop := JsonObject.get object key = .str text

instance (object : JsonObject) (key text : String) : Decidable (isText object key text) :=
  inferInstanceAs (Decidable (_ = _))

def unavailableAuthorityRejection (requestHash : String) (result : ProposalResult) :
    Except String (Option RejectedAlternativeCandidate) :=
  (authorityResolution services result).map fun resolution =>
    if ¬ isText resolution "simulation_authority" simulationAuthority then
      some (rejectedCandidate candidate .rejectedSimulationFailed
        "LOTUS_CORE_SIMULATION_UNAVAILABLE"
        "Canonical Lotus Core simulation authority was unavailable for this alternative."
        (authorityRejectionRefs candidate requestHash))
    else if ¬ isText resolution "risk_authority" riskAuthority then
      some (rejectedCandidate candidate .rejectedRiskEvidenceUnavailable
        "LOTUS_RISK_ENRICHMENT_UNAVAILABLE"
        "Canonical Lotus Risk enrichment was unavailable for this alternative."
        (authorityRejectionRefs candidate requestHash))
    else none

def alternativeStatus (result : ProposalResult) (proposalDecisionSummary : JsonObject) :
    AlternativeStatus :=
  if isText proposalDecisionSummary "decision_status" "BLOCKED_REMEDIATION_REQUIRED" ∨
      isText proposalDecisionSummary "decision_status" "INSUFFICIENT_EVIDENCE" then
    .rejectedPolicyBlocked
  else if result.status = .ready then .feasible
  else .feasibleWithReview

/-- An alternative or a rejected candidate. -/
abbrev CandidateResult := ProposalAlternative ⊕ RejectedAlternativeCandidate

def classifyCandidateResult (requestHash : String) (result : ProposalResult) :
    Except String CandidateResult :=
  let proposalDecisionSummary := result.proposalDecisionSummary.getD []
  match unavailableAuthorityRejection services candidate requestHash result with
  | .error exception => .error exception
  | .ok (some rejection) => .ok (.inr rejection)
  | .ok none => (services.validateDecisionSummary proposalDecisionSummary).map fun _ => .inl {
      alternativeId := candidate.candidateId
      label := candidate.label
      objective := candidate.objective
      status := alternativeStatus result proposalDecisionSummary
      constructionPolicyVersion
      rankingPolicyVersion
      intents := candidate.generatedIntents
      simulationResultRef := some (evidenceRef candidate.candidateId "simulation")
      riskLensRef := some (evidenceRef candidate.candidateId "risk")
      proposalDecisionSummary
      evidenceRefs := alternativeEvidenceRefs candidate.candidateId requestHash }

end Classification

section Batch

structure AlternativeSimulationRecord where
  candidateId : String
  requestHash : String
  proposalResult : ProposalResult
deriving DecidableEq

structure AlternativesBatchEvaluation where
  alternatives : List ProposalAlternative := []
  rejectedCandidates : List RejectedAlternativeCandidate := []
  simulationRecords : List AlternativeSimulationRecord := []
deriving DecidableEq

/-- The variables of the loop over the candidates. -/
structure BatchState where
  evaluation : AlternativesBatchEvaluation := {}
  cachedResults : Dict String CandidateResult := []
  cachedRecords : Dict String AlternativeSimulationRecord := []
  /-- The request hashes with which the evaluator has been called. -/
  evaluated : List String := []

/-- A result as it is reported for a candidate. -/
def rewrittenResult (candidate : AlternativeCandidateSeed) (requestHash : String) :
    CandidateResult → CandidateResult
  | .inl alternative => .inl { alternative with
      alternativeId := candidate.candidateId
      label := candidate.label
      objective := candidate.objective
      intents := candidate.generatedIntents
      simulationResultRef := some (evidenceRef candidate.candidateId "simulation")
      riskLensRef := some (evidenceRef candidate.candidateId "risk")
      evidenceRefs := alternativeEvidenceRefs candidate.candidateId requestHash }
  | .inr rejected => .inr { rejected with
      candidateId := candidate.candidateId
      objective := candidate.objective
      evidenceRefs := ["candidate:" ++ candidate.candidateId, requestHash] }

def reportResult (evaluation : AlternativesBatchEvaluation) :
    CandidateResult → AlternativesBatchEvaluation
  | .inl alternative => { evaluation with alternatives := evaluation.alternatives ++ [alternative] }
  | .inr rejected =>
    { evaluation with rejectedCandidates := evaluation.rejectedCandidates ++ [rejected] }

def appendCandidateOutcome (evaluation : AlternativesBatchEvaluation)
    (candidate : AlternativeCandidateSeed) (requestHash : String) (result : CandidateResult)
    (simulationRecord : Option AlternativeSimulationRecord) : AlternativesBatchEvaluation :=
  let reported := reportResult evaluation (rewrittenResult candidate requestHash result)
  match simulationRecord with
  | none => reported
  | some record => { reported with
      simulationRecords :=
        reported.simulationRecords ++ [{ record with candidateId := candidate.candidateId }] }

/-- The rejection of a candidate whose request cannot be built. -/
def buildRejection (candidate : AlternativeCandidateSeed) (error : AlternativesSimulationError) :
    RejectedAlternativeCandidate :=
  rejectedCandidate candidate .rejectedConstraintViolation error.reasonCode error.message
    ["candidate:" ++ candidate.candidateId]

/-- The rejection of a candidate beyond the limit. -/
def overflowRejection (candidate : AlternativeCandidateSeed) : RejectedAlternativeCandidate :=
  rejectedCandidate candidate .rejectedConstraintViolation "ALTERNATIVE_CANDIDATE_LIMIT_EXCEEDED"
    "Alternative candidate exceeded the first-implementation bounded candidate limit."
    ["candidate:" ++ candidate.candidateId]

variable (services : AlternativeServices) (evaluate : Json → Except String ProposalResult)
  (baseRequest : JsonObject)

/-- One round of the loop over the candidates. -/
def evaluateCandidate (state : BatchState) (candidate : AlternativeCandidateSeed) :
    Except String BatchState :=
  match buildAlternativeSimulateRequest services candidate baseRequest with
  | .error (.simulation error) => .ok { state with
      evaluation := reportResult state.evaluation (.inr (buildRejection candidate error)) }
  | .error (.raised exception) => .error exception
  | .ok payload =>
    let hash := requestHash services payload
    match Dict.get? state.cachedResults hash with
    | some result => .ok { state with
        evaluation := appendCandidateOutcome state.evaluation candidate hash result
          (Dict.get? state.cachedRecords hash) }
    | none => do
      let proposalResult ← evaluate payload
      let record := { candidateId := candidate.candidateId, requestHash := hash, proposalResult }
      let result ← classifyCandidateResult services candidate hash proposalResult
      return {
        evaluation := appendCandidateOutcome state.evaluation candidate hash result (some record)
        cachedResults := Dict.set state.cachedResults hash result
        cachedRecords := Dict.set state.cachedRecords hash record
        evaluated := state.evaluated ++ [hash] }

/-- `evaluate_alternative_candidates_batch`. The evaluator reads the payload of a request. -/
def evaluateAlternativeCandidatesBatch (request : NormalizedProposalAlternativesRequest)
    (candidates : List AlternativeCandidateSeed) : Except String BatchState :=
  ((candidates.take request.maxAlternatives).foldlM
      (evaluateCandidate services evaluate baseRequest) {}).map fun state =>
    { state with
      evaluation := (candidates.drop request.maxAlternatives).foldl
        (fun evaluation candidate => reportResult evaluation (.inr (overflowRejection candidate)))
        state.evaluation }

end Batch

end LotusAdvise.Alternatives

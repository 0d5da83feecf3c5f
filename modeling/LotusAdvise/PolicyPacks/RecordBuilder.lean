import LotusAdvise.Foundations.Dict
import LotusAdvise.PolicyPacks.ReceiptIdentity
import Mathlib.Data.List.Infix

/-! # Building an evaluation record

The record of a finalized evaluation: what the rule results require, the hashes of what was
evaluated, and the identifier, which is derived from the proposal version, the policy-pack
version and the evidence.
-/

namespace LotusAdvise.PolicyPacks

def policyEvaluationPersistenceContractVersion : String := "rfc0025.policy-evaluation-persistence.v1"

/-- The truthy values, each at its first occurrence. -/
def unique (values : List String) : List String :=
  (values.filter fun value => value ≠ "").eraseDups

/-- `d.get(key, {})` where an object is expected; what is no object has no `get`. -/
def objectAt (d : JsonObject) (key : String) : Except PolicyPackError JsonObject :=
  match d.lookup key with
  | none => .ok []
  | some (.obj items) => .ok items
  | some _ => .error (.attributeError "get")

/-- `d.get(key, {})` of an object below another one. -/
def valueBelow (d : JsonObject) (outer key : String) : Except PolicyPackError Json :=
  (objectAt d outer).map fun items => (items.lookup key).getD (.obj [])

def portfolioIdOf (portfolio : Json) : Option String :=
  match portfolio with
  | .obj items =>
    match JsonObject.get items "portfolio_id" with
    | .str s => if Text.strip s = "" then none else some (Text.strip s)
    | _ => none
  | _ => none

def portfolioIdFromEvidence (evidenceBundle : JsonObject) :
    Except PolicyPackError (Option String) :=
  (valueBelow evidenceBundle "inputs" "portfolio_snapshot").map portfolioIdOf

section Requirements

variable (evaluation : PolicyPackEvaluationResponse)

def sourceRefs : List String :=
  unique (evaluation.ruleResults.flatMap fun result =>
    result.sourceAuthorityRefs ++ result.evidenceRefs)

def sourceGaps : List String :=
  unique (evaluation.applicability.missingEvidence ++
    evaluation.ruleResults.flatMap PolicyRuleEvaluationResult.missingEvidence)

def requiredActions : List String :=
  unique (evaluation.ruleResults.flatMap PolicyRuleEvaluationResult.requiredActions)

def approvalDependencies : List String :=
  unique ((requiredActions evaluation).filter fun action =>
    ["REVIEW_", "SUPERVISORY_", "POLICY_STEWARD_"].any fun mark => mark.toList <+: action.toList)

def disclosureRequirements : List String :=
  unique ((evaluation.ruleResults.flatMap fun result => result.missingEvidence.filter fun item =>
      "advisor_reviewed_disclosure".toList <+: item.toList) ++
    (requiredActions evaluation).filter fun action => "DISCLOSURE".toList <:+: action.toList)

def consentRequirements : List String :=
  unique ((evaluation.ruleResults.flatMap fun result => result.missingEvidence.filter fun item =>
      "client_consent".toList <+: item.toList) ++
    (requiredActions evaluation).filter fun action => "CONSENT".toList <:+: action.toList)

end Requirements

section Builder

variable {Catalog : Type} (services : PolicyServices Catalog)

def policyEvaluationHash (evaluation : PolicyPackEvaluationResponse)
    (sourceEvidenceHash policyContentHash : String) : String :=
  services.hashCanonicalPayload
    [("contract_version", .str policyEvaluationPersistenceContractVersion),
      ("policy_evaluation", .obj evaluation.dump), ("policy_content_hash", .str policyContentHash),
      ("source_evidence_hash", .str sourceEvidenceHash)]

/-- The first twenty digits of the digest of what identifies an evaluation. -/
def evaluationIdOf (proposalId proposalVersionId policyPackId policyVersion
    sourceEvidenceHash : String) : String :=
  let identityHash := services.sha256 (Json.obj
    [("proposal_id", .str proposalId), ("proposal_version_id", .str proposalVersionId),
      ("policy_pack_id", .str policyPackId), ("policy_version", .str policyVersion),
      ("source_evidence_hash", .str sourceEvidenceHash)]).canonical
  "pev_" ++ String.ofList (identityHash.toList.take 20)

def buildPolicyEvaluationRecord (evaluation : PolicyPackEvaluationResponse)
    (evidenceBundle : JsonObject) (proposalId proposalVersionId createdBy sourceEvidenceHash
    policyContentHash idempotencyKey : String) (reason : JsonObject)
    (observedTraceId : Option String) (generatedAt : UtcDateTime) :
    Except PolicyPackError PolicyEvaluationRecord := do
  let portfolioId ← (← portfolioIdFromEvidence evidenceBundle).elim
    (.error (.validation "POLICY_EVALUATION_PORTFOLIO_ID_REQUIRED")) .ok
  let evaluationHash := policyEvaluationHash services evaluation sourceEvidenceHash policyContentHash
  let receiptIdentity ← buildPolicyEvaluationReceiptIdentity services evidenceBundle proposalId
    proposalVersionId portfolioId reason observedTraceId generatedAt.time
  return {
    evaluationId := evaluationIdOf services proposalId proposalVersionId
      evaluation.policyPack.policyPackId evaluation.policyPack.policyVersion sourceEvidenceHash
    proposalId
    proposalVersionId
    portfolioId
    policyPackId := evaluation.policyPack.policyPackId
    policyVersion := evaluation.policyPack.policyVersion
    generatedAt := generatedAt.isoformat
    createdBy
    evaluationStatus := evaluation.evaluationStatus
    policyContentHash
    sourceEvidenceHash
    evaluationHash
    ruleResultHashes := evaluation.ruleResults.foldl
      (fun hashes result =>
        Dict.set hashes result.ruleId (services.hashCanonicalPayload result.dump)) []
    evaluationJson := evaluation.dump
    sourceRefs := sourceRefs evaluation
    sourceGaps := sourceGaps evaluation
    approvalDependencies := approvalDependencies evaluation
    disclosureRequirements := disclosureRequirements evaluation
    consentRequirements := consentRequirements evaluation
    replayMetadataJson :=
      [("persistence_contract_version", .str policyEvaluationPersistenceContractVersion),
        ("policy_evaluation_contract_version", .str evaluation.contractVersion),
        ("policy_pack_id", .str evaluation.policyPack.policyPackId),
        ("policy_version", .str evaluation.policyPack.policyVersion),
        ("policy_content_hash", .str policyContentHash),
        ("source_evidence_hash", .str sourceEvidenceHash),
        ("evaluation_hash", .str evaluationHash),
        ("source_refs", .ofTexts (sourceRefs evaluation)),
        ("source_gaps", .ofTexts (sourceGaps evaluation)),
        ("receipt_identity", .obj receiptIdentity.dump),
        ("as_of_date", .str receiptIdentity.asOfDate), ("idempotency_key", .str idempotencyKey),
        ("creation_reason", .obj (replaySafeReason reason)),
        ("replay_policy", .str "PIN_POLICY_VERSION_AND_COMPARE_SOURCE_HASHES")] }

/-- What the records of an evaluation are built with: its identifier, and no event in its lists. -/
theorem build_spec {services : PolicyServices Catalog} {evaluation : PolicyPackEvaluationResponse}
    {evidenceBundle reason : JsonObject} {proposalId proposalVersionId createdBy sourceEvidenceHash
      policyContentHash idempotencyKey : String} {observedTraceId : Option String}
    {generatedAt : UtcDateTime} {record : PolicyEvaluationRecord}
    (h : buildPolicyEvaluationRecord services evaluation evidenceBundle proposalId proposalVersionId
      createdBy sourceEvidenceHash policyContentHash idempotencyKey reason observedTraceId
      generatedAt = .ok record) :
    record.reviewEventsJson = [] ∧ record.signOffEventsJson = [] ∧
      record.reportArchiveRefsJson = [] := by
  obtain ⟨portfolio, -, h⟩ := bind_eq_ok.mp h
  obtain ⟨portfolioId, -, h⟩ := bind_eq_ok.mp h
  obtain ⟨identity, -, h⟩ := bind_eq_ok.mp h
  cases h
  exact ⟨rfl, rfl, rfl⟩

end Builder

end LotusAdvise.PolicyPacks

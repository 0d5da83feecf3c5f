import LotusAdvise.Foundations.Except
import LotusAdvise.PolicyPacks.Records

/-! # Authority for audit events

Review events may be appended by anyone; the other types belong to a command, which proves
its authority by the fields of the reason and by the hash of the evaluation.
-/

namespace LotusAdvise.PolicyPacks

inductive PolicyEvaluationEventCommand where
  | signOffDecision
  | reportPackage
  | aiEvidence
deriving DecidableEq

structure PolicyEvaluationEventAuthority where
  eventType : PolicyEvaluationEventType
  command : PolicyEvaluationEventCommand
  contractField : String
  requiredReasonFields : List String
deriving DecidableEq

def policySignOffEventAuthority : PolicyEvaluationEventAuthority where
  eventType := .signOffRecorded
  command := .signOffDecision
  contractField := "workflow_contract_version"
  requiredReasonFields :=
    ["workflow_contract_version", "decision", "source_evaluation_hash", "client_ready_publication"]

def policyReportPackageEventAuthority : PolicyEvaluationEventAuthority where
  eventType := .reportArchiveRecorded
  command := .reportPackage
  contractField := "policy_report_package_contract_version"
  requiredReasonFields :=
    ["policy_report_package_contract_version", "policy_report_package_request_hash",
      "report_package_status", "source_evaluation_hash", "report_request_id",
      "policy_sign_off_package", "client_ready_publication"]

def policyAiEvidenceEventAuthority : PolicyEvaluationEventAuthority where
  eventType := .aiEvidenceRecorded
  command := .aiEvidence
  contractField := "policy_ai_contract_version"
  requiredReasonFields :=
    ["policy_ai_contract_version", "policy_ai_request_hash", "ai_status", "source_evaluation_hash",
      "requested_actions", "human_review_required", "authoritative_for_policy_status",
      "client_ready_publication", "lineage"]

def validateAuthorityReason (reason : JsonObject) (evaluationHash : String)
    (authority : PolicyEvaluationEventAuthority) : Except PolicyPackError Unit := do
  require (∀ field ∈ authority.requiredReasonFields, field ∈ reason.map Prod.fst)
    (.validation "POLICY_EVALUATION_PRIVILEGED_EVENT_REASON_INCOMPLETE")
  require (JsonObject.get reason "source_evaluation_hash" = .str evaluationHash)
    (.validation "POLICY_EVALUATION_PRIVILEGED_EVENT_HASH_MISMATCH")
  require (authority.contractField ∈ reason.map Prod.fst)
    (.validation "POLICY_EVALUATION_PRIVILEGED_EVENT_CONTRACT_MISSING")

/-- Every event type but the review is privileged, and finalizations are never appended. -/
def validatePolicyEvaluationEventAuthority (eventType : PolicyEvaluationEventType)
    (reason : JsonObject) (evaluationHash : String)
    (authority : Option PolicyEvaluationEventAuthority) : Except PolicyPackError Unit :=
  if eventType = .reviewRecorded then .ok ()
  else if eventType = .finalized then
    .error (.validation "POLICY_EVALUATION_FINALIZED_EVENT_REQUIRES_FINALIZE_COMMAND")
  else
    match authority.filter fun authority => authority.eventType = eventType with
    | none => .error (.validation "POLICY_EVALUATION_PRIVILEGED_EVENT_REQUIRES_COMMAND")
    | some authority => validateAuthorityReason reason evaluationHash authority

theorem eventType_ne_finalized {eventType : PolicyEvaluationEventType} {reason : JsonObject}
    {evaluationHash : String} {authority : Option PolicyEvaluationEventAuthority} {u : Unit}
    (h : validatePolicyEvaluationEventAuthority eventType reason evaluationHash authority = .ok u) :
    eventType ≠ .finalized := by
  rintro rfl
  cases h

end LotusAdvise.PolicyPacks

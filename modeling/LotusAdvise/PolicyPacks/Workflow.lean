import LotusAdvise.PolicyPacks.CatalogDefinitions
import LotusAdvise.PolicyPacks.EvaluationStore

/-! # The sign-off workflow of an evaluation

The workflow is projected from a record and its audit events whenever it is read: what the
approved sign-offs satisfy, whether the reviews have resolved a material conflict, and the
status of the sign-off. An approval is accepted by a checker only, with everything that the
record requires.
-/

namespace LotusAdvise.PolicyPacks

/-- What the workflow uses besides the services of the evaluations: `str` of a value that is no
text. -/
structure WorkflowServices (Catalog : Type) extends PolicyServices Catalog where
  str : Json → String

/-- `str(value)`. -/
def WorkflowServices.text {Catalog : Type} (services : WorkflowServices Catalog) : Json → String
  | .str s => s
  | j => services.str j

inductive PolicyEvaluationRequirementStatus where
  | open
  | satisfied
deriving DecidableEq

inductive PolicyEvaluationSignOffStatus where
  | readyForSignOff
  | signedOff
  | pendingReview
  | blocked
deriving DecidableEq

inductive PolicyEvaluationSignOffDecision where
  | approveForPolicySignOff
  | requestMoreEvidence
  | rejectPolicySignOff
deriving DecidableEq

def PolicyEvaluationSignOffDecision.text : PolicyEvaluationSignOffDecision → String
  | .approveForPolicySignOff => "APPROVE_FOR_POLICY_SIGN_OFF"
  | .requestMoreEvidence => "REQUEST_MORE_EVIDENCE"
  | .rejectPolicySignOff => "REJECT_POLICY_SIGN_OFF"

structure PolicyEvaluationSignOffDecisionRequest where
  actorId : String
  decision : PolicyEvaluationSignOffDecision
  sourceEvaluationHash : String
  resolvedApprovalDependencies : List String := []
  satisfiedDisclosureRequirements : List String := []
  satisfiedConsentRequirements : List String := []
  conflictReviewOutcome : Option String := none
  reason : JsonObject := []

structure PolicyEvaluationRequirementProjection where
  requirementId : String
  requirementType : String
  status : PolicyEvaluationRequirementStatus
  ownerRole : String
  reviewSla : String
  dueAt : Option String
  reasonCodes : List String
deriving DecidableEq

inductive ConflictStatus where
  | satisfied
  | blocked
deriving DecidableEq

structure ConflictPosture where
  status : ConflictStatus
  reasonCodes : List String
  blockers : List String
  reviewOutcome : Option String
deriving DecidableEq

structure SlaPosture where
  overdue : Bool
  openRequirementCount : ℕ
  overdueRequirementIds : List String
  asOf : String
deriving DecidableEq

structure PolicyEvaluationWorkflowMetadata where
  evaluationId : String
  proposalId : String
  proposalVersionId : String
  portfolioId : String
  policyPackId : String
  policyVersion : String
  asOfDate : String
  generatedAt : String
  evaluationHash : String
  sourceEvidenceHash : String
  policyContentHash : String
  dataQualityStatus : String
  sourceGaps : List String
  scopeIdentity : PolicyEvaluationReceiptScopeIdentity
  observedCorrelationIdHash : String
  observedTraceIdHash : String
deriving DecidableEq

structure PolicyEvaluationWorkflowReplayMetadata where
  sourceRefs : List String
  replayPolicy : Json
  receiptIdentity : PolicyEvaluationReceiptIdentity
deriving DecidableEq

structure PolicyEvaluationWorkflowResponse where
  evaluationId : String
  proposalId : String
  proposalVersionId : String
  evaluationStatus : PolicyEvaluationStatus
  approvalDependencies : List PolicyEvaluationRequirementProjection
  disclosureRequirements : List PolicyEvaluationRequirementProjection
  consentRequirements : List PolicyEvaluationRequirementProjection
  conflictPosture : ConflictPosture
  slaPosture : SlaPosture
  signOffStatus : PolicyEvaluationSignOffStatus
  signOffBlockers : List String
  latestSignOffEvent : Option PolicyEvaluationAuditEvent
  clientReadyPublication : String
  metadata : PolicyEvaluationWorkflowMetadata
  replayMetadata : PolicyEvaluationWorkflowReplayMetadata
deriving DecidableEq

def clientReadyPublicationPosture : String := "BLOCKED"

def policyWorkflowContractVersion : String := "rfc0025.policy-sign-off-workflow.v1"

/-- `part in text`. -/
def occursIn (part text : String) : Bool := part.toList <:+: text.toList

section Conflicts

variable {Catalog : Type} (services : WorkflowServices Catalog)

def conflictResolutionOutcome : String := "NO_MATERIAL_CONFLICT_REMAINING"

/-- The texts below a key of a rule result. -/
def textsAt (result : JsonObject) (key : String) : Except PolicyPackError (List String) :=
  match result.lookup key with
  | none => .ok []
  | some value => (listOf value).map fun items => items.map services.text

def conflictRuleResults (record : PolicyEvaluationRecord) :
    Except PolicyPackError (List JsonObject) := do
  let ruleResults ← (record.evaluationJson.lookup "rule_results").elim (.ok []) listOf
  return ruleResults.filterMap fun
    | .obj result =>
      if occursIn "CONFLICT" (services.text ((result.lookup "rule_id").getD (.str ""))) then
        some result
      else none
    | _ => none

def conflictEvidenceFromRecord (record : PolicyEvaluationRecord) :
    Except PolicyPackError (List String × List String) := do
  let results ← conflictRuleResults services record
  let evidence ← results.mapM fun result => do
    let reasonCodes ← textsAt services result "reason_codes"
    let blockers ← textsAt services result "required_actions"
    return (reasonCodes, blockers)
  return (evidence.flatMap Prod.fst, evidence.flatMap Prod.snd)

/-- The outcomes of the conflict reviews, whoever recorded them in whichever event. -/
def conflictReviewOutcomes (events : List PolicyEvaluationAuditEvent) : List String :=
  (events.map fun event => JsonObject.get event.reasonJson "conflict_review_outcome").filter
    Json.truthy |>.map services.text

def materialConflictResolved (outcomes : List String) : Bool :=
  conflictResolutionOutcome ∈ outcomes

def materialConflictBlocksWorkflow (reasonCodes blockers : List String) : Bool :=
  (reasonCodes.any fun code => occursIn "MATERIAL_CONFLICT" code) ||
    blockers.any fun blocker =>
      blocker ∈ ["SUPERVISORY_CONFLICT_REVIEW", "REVIEW_CONFLICT_OF_INTEREST"]

def conflictPostureForWorkflow (record : PolicyEvaluationRecord)
    (events : List PolicyEvaluationAuditEvent) : Except PolicyPackError ConflictPosture := do
  let (reasonCodes, blockers) ← conflictEvidenceFromRecord services record
  let outcomes := conflictReviewOutcomes services events
  let blocked := materialConflictBlocksWorkflow reasonCodes blockers
  return if materialConflictResolved outcomes then
    { status := .satisfied
      reasonCodes := unique reasonCodes
      blockers := []
      reviewOutcome := some conflictResolutionOutcome }
  else
    { status := if blocked then .blocked else .satisfied
      reasonCodes := unique reasonCodes
      blockers := if blocked then unique blockers else []
      reviewOutcome := outcomes.getLast? }

end Conflicts

section SignOffs

variable {Catalog : Type} (services : WorkflowServices Catalog)

def isSignOffRecordedEvent (event : PolicyEvaluationAuditEvent) : Bool :=
  event.eventType = .signOffRecorded

def latestSignOffEvent (events : List PolicyEvaluationAuditEvent) :
    Option PolicyEvaluationAuditEvent :=
  (events.filter isSignOffRecordedEvent).getLast?

def isApprovedSignOffEvent (event : PolicyEvaluationAuditEvent) : Bool :=
  isSignOffRecordedEvent event ∧ JsonObject.get event.reasonJson "decision" =
    .str PolicyEvaluationSignOffDecision.approveForPolicySignOff.text

def signOffReasonValues (event : PolicyEvaluationAuditEvent) (key : String) : List String :=
  match JsonObject.get event.reasonJson key with
  | .arr items => items.map services.text
  | _ => []

def approvedSignOffValues (events : List PolicyEvaluationAuditEvent) (key : String) :
    List String :=
  (events.filter isApprovedSignOffEvent).flatMap fun event => signOffReasonValues services event key

end SignOffs

section Requirements

variable {Catalog : Type} (services : WorkflowServices Catalog) (now : UtcDateTime)

def ownerRole (requirementId : String) : String :=
  if "SUPERVISORY_".toList <+: requirementId.toList then "SUPERVISOR"
  else if "POLICY_STEWARD_".toList <+: requirementId.toList then "POLICY_STEWARD"
  else if occursIn "DISCLOSURE" requirementId then "INVESTMENT_COUNSELLOR"
  else if occursIn "CONFLICT" requirementId then "SUPERVISOR"
  else "ADVISOR"

def reviewSlaForRequirement (requirementId ownerRole : String) : String :=
  if ownerRole = "SUPERVISOR" ∨ occursIn "CONFLICT" requirementId then "P2D" else "P1D"

/-- A naive moment is in UTC. -/
def parseDatetime (value : String) : Except PolicyPackError DateTime :=
  match services.datetimeFromIsoformat value with
  | none => .error (.valueError ("Invalid isoformat string: '" ++ value ++ "'"))
  | some parsed => .ok parsed.orUtc

def addDays (days : ℕ) (t : DateTime) : Except PolicyPackError DateTime :=
  (t.addDays? days).elim (.error (.overflowError "date value out of range")) .ok

def dueAtForRequirement (generatedAt reviewSla : String) :
    Except PolicyPackError (Option String) := do
  let generated ← parseDatetime services generatedAt
  if reviewSla = "P2D" then (addDays 2 generated).map fun due => some due.isoformat
  else if reviewSla = "P1D" then (addDays 1 generated).map fun due => some due.isoformat
  else return none

def isOverdue : Option String → Except PolicyPackError Bool
  | none => .ok false
  | some dueAt => do
    let due ← parseDatetime services dueAt
    (due.lt? now.time).elim
      (.error (.typeError "can't compare offset-naive and offset-aware datetimes")) .ok

def requirementProjection (requirementType ownerRole generatedAt : String)
    (satisfiedValues : List String) (requirementId : String) :
    Except PolicyPackError PolicyEvaluationRequirementProjection := do
  let reviewSla := reviewSlaForRequirement requirementId ownerRole
  let dueAt ← dueAtForRequirement services generatedAt reviewSla
  let overdue ← isOverdue services now dueAt
  let satisfied := requirementId ∈ satisfiedValues
  return {
    requirementId
    requirementType
    status := if satisfied then .satisfied else .open
    ownerRole
    reviewSla
    dueAt
    reasonCodes :=
      if satisfied then ["POLICY_REQUIREMENT_SATISFIED"]
      else if overdue then ["POLICY_REQUIREMENT_OVERDUE"]
      else ["POLICY_REQUIREMENT_OPEN"] }

def approvalRequirementProjections (record : PolicyEvaluationRecord)
    (satisfiedValues : List String) :
    Except PolicyPackError (List PolicyEvaluationRequirementProjection) :=
  record.approvalDependencies.mapM fun item => requirementProjection services now "approval"
    (ownerRole item) record.generatedAt satisfiedValues item

def fixedOwnerRequirementProjections (requirementIds : List String)
    (requirementType ownerRole generatedAt : String) (satisfiedValues : List String) :
    Except PolicyPackError (List PolicyEvaluationRequirementProjection) :=
  requirementIds.mapM
    (requirementProjection services now requirementType ownerRole generatedAt satisfiedValues)

def openRequirements (requirements : List PolicyEvaluationRequirementProjection) :
    List PolicyEvaluationRequirementProjection :=
  requirements.filter fun requirement => requirement.status ≠ .satisfied

def openRequirementBlockers (requirements : List PolicyEvaluationRequirementProjection) :
    List String :=
  (openRequirements requirements).map fun requirement =>
    Text.upper requirement.requirementType ++ "_REQUIREMENT_OPEN:" ++ requirement.requirementId

def conflictPostureBlockers (posture : ConflictPosture) : List String :=
  if posture.status = .blocked then posture.blockers else []

def evaluationStatusBlockers (evaluationStatus : PolicyEvaluationStatus) : List String :=
  if evaluationStatus = .blocked then ["BLOCKED_POLICY_EVALUATION_CANNOT_BE_SIGNED_OFF"] else []

def workflowBlockers (record : PolicyEvaluationRecord)
    (requirements : List PolicyEvaluationRequirementProjection) (posture : ConflictPosture) :
    List String :=
  unique (openRequirementBlockers requirements ++ conflictPostureBlockers posture ++
    evaluationStatusBlockers record.evaluationStatus)

def signOffHasBlockingConflict (blockers : List String)
    (evaluationStatus : PolicyEvaluationStatus) : Bool :=
  evaluationStatus = .blocked ∨ blockers.any (occursIn "CONFLICT")

def signOffStatus (blockers : List String) (latestSignOff : Option PolicyEvaluationAuditEvent)
    (evaluationStatus : PolicyEvaluationStatus) : PolicyEvaluationSignOffStatus :=
  if latestSignOff.any isApprovedSignOffEvent then .signedOff
  else if signOffHasBlockingConflict blockers evaluationStatus then .blocked
  else if blockers ≠ [] then .pendingReview
  else .readyForSignOff

def slaPosture (requirements : List PolicyEvaluationRequirementProjection) :
    Except PolicyPackError SlaPosture := do
  let open_ := openRequirements requirements
  let overdue ← filterOk (fun requirement => isOverdue services now requirement.dueAt) open_
  return {
    overdue := !overdue.isEmpty
    openRequirementCount := open_.length
    overdueRequirementIds := overdue.map fun requirement => requirement.requirementId
    asOf := now.isoformat }

end Requirements

section Projection

variable {Catalog : Type} (services : WorkflowServices Catalog)

def workflowLineageMetadata (record : PolicyEvaluationRecord) :
    Except PolicyPackError PolicyEvaluationWorkflowMetadata := do
  let receiptIdentity ← receiptIdentityFromRecord services.toPolicyServices record
  return {
    evaluationId := record.evaluationId
    proposalId := record.proposalId
    proposalVersionId := record.proposalVersionId
    portfolioId := record.portfolioId
    policyPackId := record.policyPackId
    policyVersion := record.policyVersion
    asOfDate := receiptIdentity.asOfDate
    generatedAt := record.generatedAt
    evaluationHash := record.evaluationHash
    sourceEvidenceHash := record.sourceEvidenceHash
    policyContentHash := record.policyContentHash
    dataQualityStatus := if record.sourceGaps = [] then "complete" else "incomplete"
    sourceGaps := record.sourceGaps
    scopeIdentity := receiptIdentity.scopeIdentity
    observedCorrelationIdHash := receiptIdentity.observedCorrelationIdHash
    observedTraceIdHash := receiptIdentity.observedTraceIdHash }

def workflowReplayMetadata (record : PolicyEvaluationRecord) :
    Except PolicyPackError PolicyEvaluationWorkflowReplayMetadata := do
  let receiptIdentity ← receiptIdentityFromRecord services.toPolicyServices record
  return {
    sourceRefs := record.sourceRefs
    replayPolicy := (record.replayMetadataJson.lookup "replay_policy").getD
      (.str "EXACT_SOURCE_HASH_MATCH")
    receiptIdentity }

def buildPolicyEvaluationWorkflowProjection (record : PolicyEvaluationRecord)
    (events : List PolicyEvaluationAuditEvent) (now : UtcDateTime) :
    Except PolicyPackError PolicyEvaluationWorkflowResponse := do
  let latestSignOff := latestSignOffEvent events
  let conflictPosture ← conflictPostureForWorkflow services record events
  let approvalDependencies ← approvalRequirementProjections services now record
    (approvedSignOffValues services events "resolved_approval_dependencies")
  let disclosureRequirements ← fixedOwnerRequirementProjections services now
    record.disclosureRequirements "disclosure" "INVESTMENT_COUNSELLOR" record.generatedAt
    (approvedSignOffValues services events "satisfied_disclosure_requirements")
  let consentRequirements ← fixedOwnerRequirementProjections services now
    record.consentRequirements "consent" "ADVISOR" record.generatedAt
    (approvedSignOffValues services events "satisfied_consent_requirements")
  let requirements := approvalDependencies ++ disclosureRequirements ++ consentRequirements
  let blockers := workflowBlockers record requirements conflictPosture
  let slaPosture ← slaPosture services now requirements
  let metadata ← workflowLineageMetadata services record
  let replayMetadata ← workflowReplayMetadata services record
  return {
    evaluationId := record.evaluationId
    proposalId := record.proposalId
    proposalVersionId := record.proposalVersionId
    evaluationStatus := record.evaluationStatus
    approvalDependencies
    disclosureRequirements
    consentRequirements
    conflictPosture
    slaPosture
    signOffStatus := signOffStatus blockers latestSignOff record.evaluationStatus
    signOffBlockers := blockers
    latestSignOffEvent := latestSignOff
    clientReadyPublication := clientReadyPublicationPosture
    metadata
    replayMetadata }

end Projection

section Decisions

variable (record : PolicyEvaluationRecord) (workflow : PolicyEvaluationWorkflowResponse)
  (payload : PolicyEvaluationSignOffDecisionRequest)

def isPolicySignOffApproval : Bool := payload.decision = .approveForPolicySignOff

def isMakerCheckerViolation : Bool :=
  payload.actorId = record.createdBy ∧ isPolicySignOffApproval payload

/-- What is required and not satisfied, in the order of the texts. -/
def missingRequirementBlockers (recordValues payloadValues : List String) (blockerPrefix : String) :
    List String :=
  ((recordValues.filter fun value => value ∉ payloadValues).eraseDups.insertionSort
    fun a b => a ≤ b).map fun item => blockerPrefix ++ ":" ++ item

def approvalBlockers : List String :=
  missingRequirementBlockers record.approvalDependencies payload.resolvedApprovalDependencies
      "APPROVAL_DEPENDENCY_OPEN" ++
    missingRequirementBlockers record.disclosureRequirements
      payload.satisfiedDisclosureRequirements "DISCLOSURE_REQUIREMENT_OPEN" ++
    missingRequirementBlockers record.consentRequirements payload.satisfiedConsentRequirements
      "CONSENT_REQUIREMENT_OPEN"

def requiresConflictReviewOutcome : Bool :=
  workflow.conflictPosture.status = .blocked ∧
    payload.conflictReviewOutcome ≠ some conflictResolutionOutcome

def workflowPostureBlockers : List String :=
  (if requiresConflictReviewOutcome workflow payload then ["CONFLICT_REVIEW_OUTCOME_REQUIRED"]
    else []) ++ evaluationStatusBlockers record.evaluationStatus

def validatePolicySignOffDecision : Except PolicyPackError Unit := do
  require (isMakerCheckerViolation record payload = false)
    (.validation "POLICY_EVALUATION_SIGN_OFF_REQUIRES_MAKER_CHECKER")
  if isPolicySignOffApproval payload then
    require (approvalBlockers record payload ++ workflowPostureBlockers record workflow payload = [])
      (.validation "POLICY_EVALUATION_SIGN_OFF_REQUIREMENTS_OPEN")

end Decisions

end LotusAdvise.PolicyPacks

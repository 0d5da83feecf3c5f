import LotusAdvise.Foundations.Json

/-! # Policy evaluation records and their audit events

A finalized evaluation is kept with the audit events attached to it: a record has one list
for the review events, one for the sign-off events and one for the report and archive
references, in the order in which they were attached.
-/

namespace LotusAdvise.PolicyPacks

/-- The exceptions a command can end with, and the texts they carry. -/
inductive PolicyPackError where
  | notFound (detail : String)
  | validation (detail : String)
  | idempotencyConflict (detail : String)
  | attributeError (name : String)
  | keyError (key : String)
  | typeError (detail : String)
  | valueError (detail : String)
  | overflowError (detail : String)
  | stopIteration
  | integrity (constraint : String)
deriving DecidableEq

inductive PolicyPackActivationState where
  | draft
  | active
  | superseded
  | disabled
deriving DecidableEq

def PolicyPackActivationState.text : PolicyPackActivationState → String
  | .draft => "DRAFT"
  | .active => "ACTIVE"
  | .superseded => "SUPERSEDED"
  | .disabled => "DISABLED"

inductive PolicyEvaluationStatus where
  | ready
  | pendingReview
  | blocked
  | notApplicable
deriving DecidableEq

def PolicyEvaluationStatus.text : PolicyEvaluationStatus → String
  | .ready => "READY"
  | .pendingReview => "PENDING_REVIEW"
  | .blocked => "BLOCKED"
  | .notApplicable => "NOT_APPLICABLE"

inductive PolicyApplicabilityStatus where
  | applicable
  | notApplicable
  | blocked
deriving DecidableEq

def PolicyApplicabilityStatus.text : PolicyApplicabilityStatus → String
  | .applicable => "APPLICABLE"
  | .notApplicable => "NOT_APPLICABLE"
  | .blocked => "BLOCKED"

structure PolicyPackSummary where
  policyPackId : String
  policyVersion : String
  policyFamily : String
  displayName : String
  activationState : PolicyPackActivationState
  referencePosture : String
  makerCheckerRequired : Bool
  contentHash : String
deriving DecidableEq

structure PolicyPackApplicabilityResult where
  status : PolicyApplicabilityStatus
  matchedSelectors : List (String × String)
  missingEvidence : List String
  reasonCodes : List String
deriving DecidableEq

structure PolicyRuleEvaluationResult where
  ruleId : String
  status : PolicyEvaluationStatus
  severity : String
  outcome : String
  evidenceRefs : List String
  sourceAuthorityRefs : List String
  missingEvidence : List String
  reasonCodes : List String
  requiredActions : List String
deriving DecidableEq

structure PolicyPackEvaluationResponse where
  contractVersion : String
  policyPack : PolicyPackSummary
  evaluationStatus : PolicyEvaluationStatus
  applicability : PolicyPackApplicabilityResult
  sourcePosture : JsonObject
  ruleResults : List PolicyRuleEvaluationResult
  supportability : JsonObject
deriving DecidableEq

inductive PolicyEvaluationEventType where
  | finalized
  | reviewRecorded
  | signOffRecorded
  | reportArchiveRecorded
  | aiEvidenceRecorded
deriving DecidableEq

def PolicyEvaluationEventType.text : PolicyEvaluationEventType → String
  | .finalized => "POLICY_EVALUATION_FINALIZED"
  | .reviewRecorded => "POLICY_EVALUATION_REVIEW_RECORDED"
  | .signOffRecorded => "POLICY_EVALUATION_SIGN_OFF_RECORDED"
  | .reportArchiveRecorded => "POLICY_EVALUATION_REPORT_ARCHIVE_RECORDED"
  | .aiEvidenceRecorded => "POLICY_EVALUATION_AI_EVIDENCE_RECORDED"

structure PolicyEvaluationAuditEvent where
  eventId : String
  evaluationId : String
  proposalId : String
  proposalVersionId : String
  eventType : PolicyEvaluationEventType
  actorId : String
  occurredAt : String
  contentHash : String
  idempotencyKey : Option String
  reasonJson : JsonObject
deriving DecidableEq

structure PolicyEvaluationRecord where
  evaluationId : String
  proposalId : String
  proposalVersionId : String
  portfolioId : String
  policyPackId : String
  policyVersion : String
  generatedAt : String
  createdBy : String
  evaluationStatus : PolicyEvaluationStatus
  policyContentHash : String
  sourceEvidenceHash : String
  evaluationHash : String
  ruleResultHashes : List (String × String)
  evaluationJson : JsonObject
  sourceRefs : List String
  sourceGaps : List String
  approvalDependencies : List String
  disclosureRequirements : List String
  consentRequirements : List String
  reviewEventsJson : List JsonObject := []
  signOffEventsJson : List JsonObject := []
  reportArchiveRefsJson : List JsonObject := []
  replayMetadataJson : JsonObject
deriving DecidableEq

/-- The outcome of a finalization: a created record, a replayed event, or neither. -/
structure PolicyEvaluationPersistenceResult where
  record : PolicyEvaluationRecord
  created : Bool
  replayed : Bool
  auditEvent : PolicyEvaluationAuditEvent
deriving DecidableEq

section Dump

def PolicyPackSummary.dump (summary : PolicyPackSummary) : JsonObject :=
  [("policy_pack_id", .str summary.policyPackId), ("policy_version", .str summary.policyVersion),
    ("policy_family", .str summary.policyFamily), ("display_name", .str summary.displayName),
    ("activation_state", .str summary.activationState.text),
    ("reference_posture", .str summary.referencePosture),
    ("maker_checker_required", .bool summary.makerCheckerRequired),
    ("content_hash", .str summary.contentHash)]

def PolicyPackApplicabilityResult.dump (result : PolicyPackApplicabilityResult) : JsonObject :=
  [("status", .str result.status.text),
    ("matched_selectors", .obj (result.matchedSelectors.map fun (k, v) => (k, .str v))),
    ("missing_evidence", .ofTexts result.missingEvidence),
    ("reason_codes", .ofTexts result.reasonCodes)]

def PolicyRuleEvaluationResult.dump (result : PolicyRuleEvaluationResult) : JsonObject :=
  [("rule_id", .str result.ruleId), ("status", .str result.status.text),
    ("severity", .str result.severity), ("outcome", .str result.outcome),
    ("evidence_refs", .ofTexts result.evidenceRefs),
    ("source_authority_refs", .ofTexts result.sourceAuthorityRefs),
    ("missing_evidence", .ofTexts result.missingEvidence),
    ("reason_codes", .ofTexts result.reasonCodes),
    ("required_actions", .ofTexts result.requiredActions)]

def PolicyPackEvaluationResponse.dump (evaluation : PolicyPackEvaluationResponse) : JsonObject :=
  [("contract_version", .str evaluation.contractVersion),
    ("policy_pack", .obj evaluation.policyPack.dump),
    ("evaluation_status", .str evaluation.evaluationStatus.text),
    ("applicability", .obj evaluation.applicability.dump),
    ("source_posture", .obj evaluation.sourcePosture),
    ("rule_results", .arr (evaluation.ruleResults.map fun result => .obj result.dump)),
    ("supportability", .obj evaluation.supportability)]

def PolicyEvaluationAuditEvent.dump (event : PolicyEvaluationAuditEvent) : JsonObject :=
  [("event_id", .str event.eventId), ("evaluation_id", .str event.evaluationId),
    ("proposal_id", .str event.proposalId), ("proposal_version_id", .str event.proposalVersionId),
    ("event_type", .str event.eventType.text), ("actor_id", .str event.actorId),
    ("occurred_at", .str event.occurredAt), ("content_hash", .str event.contentHash),
    ("idempotency_key", .ofText? event.idempotencyKey), ("reason_json", .obj event.reasonJson)]

end Dump

/-- `attach_policy_evaluation_event`: finalizations and AI evidence are in no list of the record. -/
def attachPolicyEvaluationEvent (record : PolicyEvaluationRecord)
    (event : PolicyEvaluationAuditEvent) : PolicyEvaluationRecord :=
  match event.eventType with
  | .reviewRecorded =>
    { record with reviewEventsJson := record.reviewEventsJson ++ [event.dump] }
  | .signOffRecorded =>
    { record with signOffEventsJson := record.signOffEventsJson ++ [event.dump] }
  | .reportArchiveRecorded =>
    { record with reportArchiveRefsJson := record.reportArchiveRefsJson ++ [event.dump] }
  | .finalized => record
  | .aiEvidenceRecorded => record

/-- The dumps of the events of one type. -/
def payloads (type : PolicyEvaluationEventType) (log : List PolicyEvaluationAuditEvent) :
    List JsonObject :=
  (log.filter fun event => event.eventType = type).map PolicyEvaluationAuditEvent.dump

/-- The lists of a record are exactly the events of their types in a log, in its order. -/
structure PolicyEvaluationRecord.Follows (record : PolicyEvaluationRecord)
    (log : List PolicyEvaluationAuditEvent) : Prop where
  reviews : record.reviewEventsJson = payloads .reviewRecorded log
  signOffs : record.signOffEventsJson = payloads .signOffRecorded log
  reportArchives : record.reportArchiveRefsJson = payloads .reportArchiveRecorded log

section Follows

variable {record other : PolicyEvaluationRecord} {event : PolicyEvaluationAuditEvent}
  {log : List PolicyEvaluationAuditEvent} {type : PolicyEvaluationEventType}

theorem payloads_append (log rest : List PolicyEvaluationAuditEvent) :
    payloads type (log ++ rest) = payloads type log ++ payloads type rest := by
  rw [payloads, List.filter_append, List.map_append, payloads, payloads]

theorem payloads_singleton :
    payloads type [event] = if event.eventType = type then [event.dump] else [] := by
  unfold payloads
  by_cases h : event.eventType = type <;> simp [h]

@[simp] theorem attach_evaluationId :
    (attachPolicyEvaluationEvent record event).evaluationId = record.evaluationId := by
  unfold attachPolicyEvaluationEvent
  split <;> rfl

@[simp] theorem attach_evaluationHash :
    (attachPolicyEvaluationEvent record event).evaluationHash = record.evaluationHash := by
  unfold attachPolicyEvaluationEvent
  split <;> rfl

/-- An attached event changes nothing but the lists. -/
theorem exists_attach_eq (record : PolicyEvaluationRecord) (event : PolicyEvaluationAuditEvent) :
    ∃ reviewEventsJson signOffEventsJson reportArchiveRefsJson,
      attachPolicyEvaluationEvent record event =
        { record with reviewEventsJson, signOffEventsJson, reportArchiveRefsJson } := by
  unfold attachPolicyEvaluationEvent
  split <;> exact ⟨_, _, _, rfl⟩

/-- A record that follows a log follows it further when an event is attached. -/
theorem PolicyEvaluationRecord.Follows.attach (h : record.Follows log) :
    (attachPolicyEvaluationEvent record event).Follows (log ++ [event]) := by
  obtain ⟨hreviews, hsignOffs, hreports⟩ := h
  unfold attachPolicyEvaluationEvent
  split <;>
    · next htype =>
      constructor <;> simp [payloads_append, payloads_singleton, htype, *]

/-- A record with empty lists follows a log of finalizations. -/
theorem follows_of_finalized (hreviews : record.reviewEventsJson = [])
    (hsignOffs : record.signOffEventsJson = []) (hreports : record.reportArchiveRefsJson = [])
    (hlog : ∀ event ∈ log, event.eventType = .finalized) : record.Follows log := by
  have hnone : ∀ type, type ≠ .finalized → payloads type log = [] := by
    intro type htype
    rw [payloads, List.filter_eq_nil_iff.mpr, List.map_nil]
    intro event hevent
    simp [hlog event hevent, htype.symm]
  constructor
  · rw [hreviews, hnone _ (by decide)]
  · rw [hsignOffs, hnone _ (by decide)]
  · rw [hreports, hnone _ (by decide)]

end Follows

end LotusAdvise.PolicyPacks

import LotusAdvise.PolicyPacks.EvaluationView

/-! # Sign-offs

An evaluation is reported as signed off when its last sign-off event is an approval. Only an
accepted decision appends such an event, so that behind every sign-off there is the approval
of a checker that covers what the record requires; but the outcome of a conflict review is
read from every event, also from those that the creator of the record has recorded.
-/

namespace LotusAdvise.PolicyPacks

open Runs

section Spec

variable {Catalog : Type} {services : WorkflowServices Catalog} {record : PolicyEvaluationRecord}
  {events : List PolicyEvaluationAuditEvent} {now : UtcDateTime}
  {workflow : PolicyEvaluationWorkflowResponse} {posture : ConflictPosture}
  {payload : PolicyEvaluationSignOffDecisionRequest}

/-- The record carries evidence of a material conflict. -/
def hasMaterialConflict (services : WorkflowServices Catalog) (record : PolicyEvaluationRecord) :
    Bool :=
  match conflictEvidenceFromRecord services record with
  | .ok (reasonCodes, blockers) => materialConflictBlocksWorkflow reasonCodes blockers
  | .error _ => false

/-- The event says that no material conflict remains. -/
def ResolvesConflict (services : WorkflowServices Catalog) (event : PolicyEvaluationAuditEvent) :
    Prop :=
  event.conflictReviewOutcome.truthy = true ∧
    services.text event.conflictReviewOutcome = conflictResolutionOutcome

instance (event : PolicyEvaluationAuditEvent) : Decidable (ResolvesConflict services event) :=
  inferInstanceAs (Decidable (_ ∧ _))

theorem resolution_mem_outcomes :
    conflictResolutionOutcome ∈ conflictReviewOutcomes services events ↔
      ∃ event ∈ events, ResolvesConflict services event := by
  simp only [conflictReviewOutcomes, List.mem_map, List.mem_filter, ResolvesConflict,
    PolicyEvaluationAuditEvent.conflictReviewOutcome]
  constructor
  · rintro ⟨outcome, ⟨⟨event, hevent, rfl⟩, htruthy⟩, htext⟩
    exact ⟨event, hevent, htruthy, htext⟩
  · rintro ⟨event, hevent, htruthy, htext⟩
    exact ⟨_, ⟨⟨event, hevent, rfl⟩, htruthy⟩, htext⟩

/-- A conflict blocks the workflow until some event says that none remains. -/
theorem posture_blocked_iff (h : conflictPostureForWorkflow services record events = .ok posture) :
    posture.status = .blocked ↔ hasMaterialConflict services record = true ∧
      ¬ ∃ event ∈ events, ResolvesConflict services event := by
  obtain ⟨⟨reasonCodes, blockers⟩, hevidence, h⟩ := bind_eq_ok.mp h
  obtain rfl := Except.ok.inj h
  rw [← resolution_mem_outcomes, hasMaterialConflict, hevidence]
  dsimp only [materialConflictResolved]
  by_cases hresolved : conflictResolutionOutcome ∈ conflictReviewOutcomes services events
  · simp [hresolved]
  · by_cases hblocks : materialConflictBlocksWorkflow reasonCodes blockers = true
    · simp [hresolved, hblocks]
    · simp [hresolved, hblocks]

theorem projection_spec
    (h : buildPolicyEvaluationWorkflowProjection services record events now = .ok workflow) :
    conflictPostureForWorkflow services record events = .ok workflow.conflictPosture ∧
      (workflow.signOffStatus = .signedOff ↔
        ((latestSignOffEvent events).any isApprovedSignOffEvent) = true) := by
  obtain ⟨posture, hposture, h⟩ := bind_eq_ok.mp h
  obtain ⟨approvals, -, h⟩ := bind_eq_ok.mp h
  obtain ⟨disclosures, -, h⟩ := bind_eq_ok.mp h
  obtain ⟨consents, -, h⟩ := bind_eq_ok.mp h
  obtain ⟨sla, -, h⟩ := bind_eq_ok.mp h
  obtain ⟨metadata, -, h⟩ := bind_eq_ok.mp h
  obtain ⟨replayMetadata, -, h⟩ := bind_eq_ok.mp h
  obtain rfl := Except.ok.inj h
  refine ⟨hposture, ?_⟩
  dsimp only
  unfold signOffStatus
  split
  · next happroved => simp [happroved]
  · next happroved =>
    refine ⟨fun heq => ?_, fun h => absurd h happroved⟩
    split at heq
    · cases heq
    · split at heq <;> cases heq

theorem missingRequirementBlockers_eq_nil {recordValues payloadValues : List String}
    {blockerPrefix : String} :
    missingRequirementBlockers recordValues payloadValues blockerPrefix = [] ↔
      ∀ value ∈ recordValues, value ∈ payloadValues := by
  have hsort : ∀ values : List String, values.insertionSort (fun a b => a ≤ b) = [] ↔ values = [] :=
    fun values => by rw [← List.length_eq_zero_iff, List.length_insertionSort,
      List.length_eq_zero_iff]
  rw [missingRequirementBlockers, List.map_eq_nil_iff, hsort, List.eq_nil_iff_forall_not_mem]
  simp

/-- What the checks of an approval ask for. -/
theorem validate_spec (h : validatePolicySignOffDecision record workflow payload = .ok ())
    (happroval : payload.decision = .approveForPolicySignOff) :
    payload.actorId ≠ record.createdBy ∧
      ((∀ item ∈ record.approvalDependencies, item ∈ payload.resolvedApprovalDependencies) ∧
        (∀ item ∈ record.disclosureRequirements,
          item ∈ payload.satisfiedDisclosureRequirements) ∧
        ∀ item ∈ record.consentRequirements, item ∈ payload.satisfiedConsentRequirements) ∧
      record.evaluationStatus ≠ .blocked ∧
      (workflow.conflictPosture.status = .blocked →
        payload.conflictReviewOutcome = some conflictResolutionOutcome) := by
  obtain ⟨_, hmaker, h⟩ := bind_eq_ok.mp h
  have happroval : isPolicySignOffApproval payload = true := by
    simp [isPolicySignOffApproval, happroval]
  rw [happroval] at h
  have hmaker := require_eq_ok.mp hmaker
  have hblockers := require_eq_ok.mp h
  rw [List.append_eq_nil_iff, approvalBlockers, List.append_eq_nil_iff, List.append_eq_nil_iff,
    missingRequirementBlockers_eq_nil, missingRequirementBlockers_eq_nil,
    missingRequirementBlockers_eq_nil, workflowPostureBlockers, List.append_eq_nil_iff] at hblockers
  obtain ⟨⟨⟨happrovals, hdisclosures⟩, hconsents⟩, hconflict, hstatus⟩ := hblockers
  refine ⟨fun heq => ?_, ⟨happrovals, hdisclosures, hconsents⟩, fun heq => ?_, fun hblocked => ?_⟩
  · simp [isMakerCheckerViolation, heq, happroval] at hmaker
  · simp [evaluationStatusBlockers, heq] at hstatus
  · by_contra hne
    simp [requiresConflictReviewOutcome, hblocked, hne] at hconflict

end Spec

section Soundness

variable {Catalog S : Type} (services : WorkflowServices Catalog)
  (repository : PolicyEvaluationRepository Catalog S)

/-- The state after a call; one that fails leaves it as it was. -/
def callStep (s : S) (call : PolicyEvaluationCall × WorkflowDrawn Catalog) : Option S :=
  match runCall services repository s call.2 call.1 with
  | .ok (_, s') => some s'
  | .error _ => some s

/-- What is behind a sign-off: an event that is the approval of a checker, which names the
evaluation and covers what its record requires, and a resolution of the material conflict that
does not come from the creator of the record. -/
structure SignedOffBy (record : PolicyEvaluationRecord) (events : List PolicyEvaluationAuditEvent)
    (event : PolicyEvaluationAuditEvent) : Prop where
  recorded : event ∈ events
  approved : isApprovedSignOffEvent event = true
  checker : event.actorId ≠ record.createdBy
  approvalDependencies : ∀ item ∈ record.approvalDependencies,
    item ∈ signOffReasonValues services event "resolved_approval_dependencies"
  disclosureRequirements : ∀ item ∈ record.disclosureRequirements,
    item ∈ signOffReasonValues services event "satisfied_disclosure_requirements"
  consentRequirements : ∀ item ∈ record.consentRequirements,
    item ∈ signOffReasonValues services event "satisfied_consent_requirements"
  evaluationHash : JsonObject.get event.reasonJson "source_evaluation_hash" =
    .str record.evaluationHash
  status : record.evaluationStatus ≠ .blocked
  conflict : hasMaterialConflict services record = true →
    ∃ event ∈ events, ResolvesConflict services event ∧ event.actorId ≠ record.createdBy

/-- Whenever the workflow of an evaluation reports a sign-off, an event is behind it. -/
def SignOffsSound (s : S) : Prop :=
  ∀ evaluationId now workflow,
    getPolicyEvaluationWorkflow services repository s evaluationId now = .ok workflow →
    workflow.signOffStatus = .signedOff →
    ∃ record events event, repository.getRecord s evaluationId = .ok record ∧
      repository.listEvents s evaluationId = .ok events ∧ SignedOffBy services record events event

/-- A decision that approves the evaluation, up to its conflict review. -/
def PolicyEvaluationSignOffDecisionRequest.ApprovesAll
    (payload : PolicyEvaluationSignOffDecisionRequest) (record : PolicyEvaluationRecord) : Prop :=
  payload.decision = .approveForPolicySignOff ∧
    payload.sourceEvaluationHash = record.evaluationHash ∧ payload.actorId ≠ record.createdBy ∧
    approvalBlockers record payload = [] ∧ record.evaluationStatus ≠ .blocked

instance (payload : PolicyEvaluationSignOffDecisionRequest) (record : PolicyEvaluationRecord) :
    Decidable (payload.ApprovesAll record) :=
  inferInstanceAs (Decidable (_ ∧ _))

/-- A new approval that resolves no conflict itself does not rest on a resolution that only the
creator of the record has recorded. -/
def ResolvedByChecker (view : EvaluationView) : PolicyEvaluationCall → Prop
  | .signOffDecision evaluationId payload idempotencyKey =>
    ∀ record ∈ view.record evaluationId, payload.ApprovesAll record →
      (∀ key ∈ Proposals.normalizeOptionalIdempotencyKey idempotencyKey, view.bound key = false) →
      payload.conflictReviewOutcome ≠ some conflictResolutionOutcome →
      hasMaterialConflict services record = true →
      (∃ event ∈ view.log evaluationId, ResolvesConflict services event) →
      ∃ event ∈ view.log evaluationId,
        ResolvesConflict services event ∧ event.actorId ≠ record.createdBy
  | _ => True

instance (view : EvaluationView) (call : PolicyEvaluationCall) :
    Decidable (ResolvedByChecker services view call) := by
  unfold ResolvedByChecker
  cases call with
  | signOffDecision evaluationId payload idempotencyKey =>
    refine decidable_of_iff (∀ record ∈ view.record evaluationId, ¬ (payload.ApprovesAll record ∧
      (∀ key ∈ Proposals.normalizeOptionalIdempotencyKey idempotencyKey, view.bound key = false) ∧
      payload.conflictReviewOutcome ≠ some conflictResolutionOutcome ∧
      hasMaterialConflict services record = true ∧
      (∃ event ∈ view.log evaluationId, ResolvesConflict services event) ∧
      ¬ ∃ event ∈ view.log evaluationId,
        ResolvesConflict services event ∧ event.actorId ≠ record.createdBy)) ?_
    refine forall₂_congr fun record _ => ?_
    simp only [not_and, not_not]
  | _ => infer_instance

end Soundness

section Steps

variable {Catalog S : Type} {services : WorkflowServices Catalog}
  {repository : PolicyEvaluationRepository Catalog S} {inv : S → Prop} {view : S → EvaluationView}
  {s s' : S} {drawn : WorkflowDrawn Catalog} {record : PolicyEvaluationRecord}
  {events : List PolicyEvaluationAuditEvent} {event : PolicyEvaluationAuditEvent}

theorem SignedOffBy.perm (h : SignedOffBy services record events event)
    {events' : List PolicyEvaluationAuditEvent} (hperm : events.Perm events') :
    SignedOffBy services record events' event := by
  refine { h with recorded := hperm.mem_iff.mp h.recorded, conflict := fun hconflict => ?_ }
  obtain ⟨resolution, hresolution, hresolves⟩ := h.conflict hconflict
  exact ⟨resolution, hperm.mem_iff.mp hresolution, hresolves⟩

theorem SignedOffBy.append (h : SignedOffBy services record events event)
    (later : PolicyEvaluationAuditEvent) :
    SignedOffBy services record (events ++ [later]) event := by
  refine { h with recorded := List.mem_append_left _ h.recorded, conflict := fun hconflict => ?_ }
  obtain ⟨resolution, hresolution, hresolves⟩ := h.conflict hconflict
  exact ⟨resolution, List.mem_append_left _ hresolution, hresolves⟩

/-- An attached event takes nothing away from a sign-off. -/
theorem SignedOffBy.attach (h : SignedOffBy services record events event)
    (later : PolicyEvaluationAuditEvent) :
    SignedOffBy services (attachPolicyEvaluationEvent record later) events event := by
  obtain ⟨_, _, _, heq⟩ := exists_attach_eq record later
  rw [heq]
  exact { h with }

/-- A report package records no outcome of a conflict review. -/
theorem reportPackageEvent_spec {evaluationId : String}
    {payload : PolicyEvaluationReportPackageRequest} {idempotencyKey : Option String}
    {request : AppendEventRequest}
    (h : reportPackageEvent services repository s evaluationId payload idempotencyKey drawn =
      .ok (.inr request)) :
    request.eventType = .reportArchiveRecorded ∧
      JsonObject.get request.reason "conflict_review_outcome" = .null := by
  obtain ⟨record, -, h⟩ := bind_eq_ok.mp h
  obtain ⟨_, -, h⟩ := bind_eq_ok.mp h
  obtain ⟨_, -, h⟩ := bind_eq_ok.mp h
  obtain ⟨_, -, h⟩ := bind_eq_ok.mp h
  obtain ⟨workflow, -, h⟩ := bind_eq_ok.mp h
  obtain ⟨_, -, h⟩ := bind_eq_ok.mp h
  obtain ⟨events, -, h⟩ := bind_eq_ok.mp h
  obtain ⟨replayed, -, h⟩ := bind_eq_ok.mp h
  split at h
  · cases h
  · obtain ⟨report, -, h⟩ := bind_eq_ok.mp h
    cases h
    exact ⟨rfl, rfl⟩

/-- AI evidence records no outcome of a conflict review. -/
theorem aiEvidenceEvent_spec {evaluationId : String}
    {payload : PolicyEvaluationAiEvidenceRequest} {idempotencyKey : Option String}
    {request : AppendEventRequest}
    (h : aiEvidenceEvent services repository s evaluationId payload idempotencyKey drawn =
      .ok (.inr request)) :
    request.eventType = .aiEvidenceRecorded ∧
      JsonObject.get request.reason "conflict_review_outcome" = .null := by
  obtain ⟨record, -, h⟩ := bind_eq_ok.mp h
  obtain ⟨_, -, h⟩ := bind_eq_ok.mp h
  obtain ⟨requestedActions, -, h⟩ := bind_eq_ok.mp h
  obtain ⟨events, -, h⟩ := bind_eq_ok.mp h
  obtain ⟨replayed, -, h⟩ := bind_eq_ok.mp h
  split at h
  · cases h
  · obtain ⟨workflow, -, h⟩ := bind_eq_ok.mp h
    obtain ⟨answer, -, h⟩ := bind_eq_ok.mp h
    cases h
    exact ⟨rfl, rfl⟩

theorem signOffDecisionEvent_spec {evaluationId : String}
    {payload : PolicyEvaluationSignOffDecisionRequest} {idempotencyKey : Option String}
    {now : UtcDateTime} {request : AppendEventRequest}
    (h : signOffDecisionEvent services repository s evaluationId payload idempotencyKey now =
      .ok request) :
    ∃ record events before, repository.getRecord s evaluationId = .ok record ∧
      repository.listEvents s evaluationId = .ok events ∧
      payload.sourceEvaluationHash = record.evaluationHash ∧
      buildPolicyEvaluationWorkflowProjection services record events now = .ok before ∧
      validatePolicySignOffDecision record before payload = .ok () ∧
      request.evaluationId = evaluationId ∧ request.eventType = payload.eventType ∧
      request.actorId = payload.actorId ∧ request.reason = payload.reasonJson ∧
      request.idempotencyKey = Proposals.normalizeOptionalIdempotencyKey idempotencyKey := by
  obtain ⟨record, hrecord, h⟩ := bind_eq_ok.mp h
  obtain ⟨_, hhash, h⟩ := bind_eq_ok.mp h
  obtain ⟨events, hevents, h⟩ := bind_eq_ok.mp h
  obtain ⟨before, hbefore, h⟩ := bind_eq_ok.mp h
  obtain ⟨_, hvalid, h⟩ := bind_eq_ok.mp h
  cases h
  exact ⟨record, events, before, hrecord, hevents, require_eq_ok.mp hhash, hbefore, hvalid, rfl, rfl,
    rfl, rfl, rfl⟩

/-- Only a decision records a sign-off. -/
theorem signOffDecision_of_prepareCall {call : PolicyEvaluationCall} {request : AppendEventRequest}
    (h : prepareCall services repository s drawn call = .ok (some (.appendEvent request)))
    (htype : request.eventType = .signOffRecorded) :
    ∃ evaluationId payload idempotencyKey, call = .signOffDecision evaluationId payload idempotencyKey ∧
      signOffDecisionEvent services repository s evaluationId payload idempotencyKey
        drawn.now = .ok request := by
  cases call with
  | finalize finalization =>
    dsimp only [prepareCall] at h
    split at h <;> cases h
  | reviewEvent evaluationId actorId reason idempotencyKey =>
    cases h
    cases htype
  | signOffDecision evaluationId payload idempotencyKey =>
    obtain ⟨request', hevent, heq⟩ := map_eq_ok.mp h
    cases heq
    exact ⟨evaluationId, payload, idempotencyKey, rfl, hevent⟩
  | reportPackage evaluationId payload idempotencyKey =>
    obtain ⟨prepared, hevent, heq⟩ := map_eq_ok.mp h
    split at heq
    · cases heq
    · cases heq
      rw [(reportPackageEvent_spec hevent).1] at htype
      cases htype
  | aiEvidence evaluationId payload idempotencyKey =>
    obtain ⟨prepared, hevent, heq⟩ := map_eq_ok.mp h
    split at heq
    · cases heq
    · cases heq
      rw [(aiEvidenceEvent_spec hevent).1] at htype
      cases htype

theorem key?_of_normalized {request : AppendEventRequest} {idempotencyKey : Option String}
    (h : request.idempotencyKey = Proposals.normalizeOptionalIdempotencyKey idempotencyKey) :
    request.key? = Proposals.normalizeOptionalIdempotencyKey idempotencyKey := by
  rw [AppendEventRequest.key?, h]
  exact Proposals.presentKey_normalize idempotencyKey

theorem approvesAll_of_valid {workflow : PolicyEvaluationWorkflowResponse}
    {payload : PolicyEvaluationSignOffDecisionRequest}
    (h : validatePolicySignOffDecision record workflow payload = .ok ())
    (happroval : payload.decision = .approveForPolicySignOff)
    (hhash : payload.sourceEvaluationHash = record.evaluationHash) :
    payload.ApprovesAll record := by
  obtain ⟨hchecker, ⟨happrovals, hdisclosures, hconsents⟩, hstatus, -⟩ := validate_spec h happroval
  refine ⟨happroval, hhash, hchecker, ?_, hstatus⟩
  simp only [approvalBlockers, List.append_eq_nil_iff, missingRequirementBlockers_eq_nil]
  exact ⟨⟨happrovals, hdisclosures⟩, hconsents⟩

theorem signOffReasonValues_ofTexts {key : String} {values : List String}
    (h : JsonObject.get event.reasonJson key = .ofTexts values) :
    signOffReasonValues services event key = values := by
  unfold signOffReasonValues
  rw [h]
  exact (List.map_map).trans (List.map_id' values)

/-- An approval that passes its checks is behind a sign-off as soon as its event is recorded. -/
theorem signedOffBy_of_decision (hshows : repository.Shows inv view) (hs : inv s)
    {evaluationId : String} {payload : PolicyEvaluationSignOffDecisionRequest}
    {idempotencyKey : Option String} {now : UtcDateTime} {request : AppendEventRequest}
    (h : signOffDecisionEvent services repository s evaluationId payload idempotencyKey now =
      .ok request)
    (htype : request.eventType = .signOffRecorded)
    (hcondition : ResolvedByChecker services (view s)
      (.signOffDecision evaluationId payload idempotencyKey))
    (hstored : (view s).record evaluationId = some record)
    (hfree : ∀ key ∈ request.key?, (view s).bound key = false) (hrecorded : event.RecordedFor request) :
    SignedOffBy services record ((view s).log evaluationId ++ [event]) event := by
  obtain ⟨record', events, before, hrecord, hevents, hhash, hbefore, hvalid, hid, heventType, hactor,
    hreason, hkey⟩ := signOffDecisionEvent_spec h
  obtain rfl : record' = record :=
    Option.some.inj ((hshows.getRecord s _ _ hs hrecord).symm.trans hstored)
  have hperm := hshows.listEvents s _ _ hs hevents
  have happroval : payload.decision = .approveForPolicySignOff := by
    by_contra hne
    rw [heventType, PolicyEvaluationSignOffDecisionRequest.eventType, if_neg hne] at htype
    cases htype
  obtain ⟨hchecker, ⟨happrovals, hdisclosures, hconsents⟩, hstatus, hposture⟩ :=
    validate_spec hvalid happroval
  have hget : ∀ key, key ≠ "idempotency_request_hash" → key ≠ "persistence_contract_version" →
      JsonObject.get event.reasonJson key = JsonObject.get payload.reasonJson key := by
    intro key hkey hkey'
    rw [hrecorded.reason key hkey hkey', hreason]
  have hvalues : ∀ key values, key ≠ "idempotency_request_hash" →
      key ≠ "persistence_contract_version" →
      JsonObject.get payload.reasonJson key = .ofTexts values →
      signOffReasonValues services event key = values := by
    intro key values hkey hkey' hpayload
    exact signOffReasonValues_ofTexts ((hget key hkey hkey').trans hpayload)
  refine
    { recorded := List.mem_append_right _ (List.mem_singleton_self _)
      approved := ?_
      checker := ?_
      approvalDependencies := ?_
      disclosureRequirements := ?_
      consentRequirements := ?_
      evaluationHash := ?_
      status := hstatus
      conflict := fun hconflict => ?_ }
  · have hdecision := hget "decision" (by decide) (by decide)
    rw [show JsonObject.get payload.reasonJson "decision" = .str payload.decision.text from rfl,
      happroval] at hdecision
    rw [isApprovedSignOffEvent, isSignOffRecordedEvent, decide_eq_true_eq, decide_eq_true_eq,
      hrecorded.eventType]
    exact ⟨htype, hdecision⟩
  · rwa [hrecorded.actorId, hactor]
  · rwa [hvalues "resolved_approval_dependencies" _ (by decide) (by decide) rfl]
  · rwa [hvalues "satisfied_disclosure_requirements" _ (by decide) (by decide) rfl]
  · rwa [hvalues "satisfied_consent_requirements" _ (by decide) (by decide) rfl]
  · rw [hget _ (by decide) (by decide), ← hhash]
    rfl
  · by_cases houtcome : payload.conflictReviewOutcome = some conflictResolutionOutcome
    · refine ⟨event, List.mem_append_right _ (List.mem_singleton_self _), ?_, ?_⟩
      · have hresolves := hget "conflict_review_outcome" (by decide) (by decide)
        rw [show JsonObject.get payload.reasonJson "conflict_review_outcome" =
          .ofText? payload.conflictReviewOutcome from rfl, houtcome] at hresolves
        unfold ResolvesConflict PolicyEvaluationAuditEvent.conflictReviewOutcome
        rw [hresolves]
        exact ⟨rfl, rfl⟩
      · rwa [hrecorded.actorId, hactor]
    · -- without an outcome of its own the approval needs a posture that is not blocked
      have hresolved : ∃ event ∈ (view s).log evaluationId, ResolvesConflict services event := by
        by_contra hnone
        refine houtcome (hposture ((posture_blocked_iff (projection_spec hbefore).1).mpr
          ⟨hconflict, fun ⟨resolution, hresolution, hresolves⟩ => ?_⟩))
        exact hnone ⟨resolution, hperm.mem_iff.mp hresolution, hresolves⟩
      rw [key?_of_normalized hkey] at hfree
      obtain ⟨resolution, hresolution, hresolves⟩ :=
        hcondition record' hstored (approvesAll_of_valid hvalid happroval hhash) hfree houtcome
          hconflict hresolved
      exact ⟨resolution, List.mem_append_left _ hresolution, hresolves⟩

/-- Each sign-off event of an evaluation is behind a sign-off of its record. -/
def EvaluationView.SignOffsBacked (services : WorkflowServices Catalog) (view : EvaluationView) :
    Prop :=
  ∀ evaluationId record, view.record evaluationId = some record →
    ∀ event ∈ view.log evaluationId, event.eventType = .signOffRecorded →
      SignedOffBy services record (view.log evaluationId) event

/-- Another evaluation keeps its record and its events. -/
theorem EvaluationView.SignOffsBacked.update {stored : EvaluationView} {bound : String → Bool}
    (h : stored.SignOffsBacked services) {evaluationId : String}
    (hnew : ∀ event ∈ events, event.eventType = .signOffRecorded →
      SignedOffBy services record events event) :
    EvaluationView.SignOffsBacked services
      { record := Function.update stored.record evaluationId (some record)
        log := Function.update stored.log evaluationId events
        bound } := by
  intro other record' hrecord event hevent htype
  dsimp only at hrecord hevent ⊢
  by_cases heq : other = evaluationId
  · subst heq
    rw [Function.update_self] at hrecord hevent ⊢
    obtain rfl := Option.some.inj hrecord
    exact hnew event hevent htype
  · rw [Function.update_of_ne heq] at hrecord hevent ⊢
    exact h other record' hrecord event hevent htype

theorem runCall_eq_ok {call : PolicyEvaluationCall} {answer? : Option PolicyEvaluationAnswer}
    (h : runCall services repository s drawn call = .ok (answer?, s')) :
    s' = s ∨ ∃ command answer,
      prepareCall services repository s drawn call = .ok (some command) ∧
      repository.run s drawn.toDrawn command = .ok (answer, s') := by
  obtain ⟨command?, hprepare, h⟩ := bind_eq_ok.mp h
  split at h
  · cases h
    exact .inl rfl
  · next command =>
    obtain ⟨⟨answer, after⟩, hrun, h⟩ := bind_eq_ok.mp h
    cases h
    exact .inr ⟨command, answer, hprepare, hrun⟩

theorem signOffsBacked_of_call (hshows : repository.Shows inv view) {call : PolicyEvaluationCall}
    {answer? : Option PolicyEvaluationAnswer} (hs : inv s)
    (hbacked : (view s).SignOffsBacked services)
    (h : runCall services repository s drawn call = .ok (answer?, s'))
    (hcondition : ResolvedByChecker services (view s) call) :
    inv s' ∧ (view s').SignOffsBacked services := by
  rcases runCall_eq_ok h with rfl | ⟨command, answer, hprepare, hrun⟩
  · exact ⟨hs, hbacked⟩
  · obtain ⟨hs', hchange⟩ := hshows.run s _ command answer s' hs hrun
    refine ⟨hs', ?_⟩
    generalize view s' = after at hchange
    cases hchange with
    | unchanged command bound => exact hbacked
    | finalized request record events bound all =>
      refine hbacked.update fun event hevent htype => ?_
      rw [(all event hevent).1] at htype
      cases htype
    | appended request record event bound stored authorized free recorded =>
      refine hbacked.update fun other hother htype => SignedOffBy.attach ?_ event
      rcases List.mem_append.mp hother with hearlier | hnew
      · exact (hbacked _ record stored other hearlier htype).append event
      · obtain rfl := List.mem_singleton.mp hnew
        rw [recorded.eventType] at htype
        obtain ⟨evaluationId, payload, idempotencyKey, rfl, hevent⟩ :=
          signOffDecision_of_prepareCall hprepare htype
        obtain ⟨_, _, _, _, _, _, _, _, hid, -⟩ := signOffDecisionEvent_spec hevent
        rw [hid] at stored ⊢
        exact signedOffBy_of_decision hshows hs hevent htype hcondition stored free recorded

/-- What the workflow of an evaluation reports is what its events say. -/
theorem signOffsSound_of_backed (hshows : repository.Shows inv view) (hs : inv s)
    (hbacked : (view s).SignOffsBacked services) : SignOffsSound services repository s := by
  intro evaluationId now workflow hworkflow hsignedOff
  obtain ⟨record, hrecord, h⟩ := bind_eq_ok.mp hworkflow
  obtain ⟨events, hevents, h⟩ := bind_eq_ok.mp h
  obtain ⟨event, hlatest, happroved⟩ := (Option.any_eq_true _ _).mp
    ((projection_spec h).2.mp hsignedOff)
  obtain ⟨hevent, htype⟩ := List.mem_filter.mp (List.mem_of_getLast? hlatest)
  have hperm := hshows.listEvents s evaluationId events hs hevents
  have hbacking := hbacked evaluationId record (hshows.getRecord s _ _ hs hrecord) event
    (hperm.mem_iff.mp hevent) (of_decide_eq_true htype)
  exact ⟨record, events, event, hrecord, hevents, hbacking.perm hperm.symm⟩

end Steps

section Runs

variable {Catalog S : Type} {services : WorkflowServices Catalog}
  {repository : PolicyEvaluationRepository Catalog S} {inv : S → Prop} {view : S → EvaluationView}

theorem signOffsSound_run (hshows : repository.Shows inv view) {s : S} (hs : inv s)
    (hbacked : (view s).SignOffsBacked services)
    {calls : List (PolicyEvaluationCall × WorkflowDrawn Catalog)}
    (h : EveryStep (callStep services repository)
      (fun s call _ => ResolvedByChecker services (view s) call.1) s calls) :
    EveryState (callStep services repository) (SignOffsSound services repository) s calls := by
  have keep : ∀ s call s', (inv s ∧ (view s).SignOffsBacked services) →
      callStep services repository s call = some s' → ResolvedByChecker services (view s) call.1 →
      (inv s' ∧ (view s').SignOffsBacked services) ∧ SignOffsSound services repository s' := by
    rintro s ⟨call, drawn⟩ s' ⟨hs, hbacked⟩ hstep hcondition
    have hkept : inv s' ∧ (view s').SignOffsBacked services := by
      unfold callStep at hstep
      split at hstep
      · next hcall =>
        obtain rfl := Option.some.inj hstep
        exact signOffsBacked_of_call hshows hs hbacked hcall hcondition
      · obtain rfl := Option.some.inj hstep
        exact ⟨hs, hbacked⟩
    exact ⟨hkept, signOffsSound_of_backed hshows hkept.1 hkept.2⟩
  exact ⟨signOffsSound_of_backed hshows hs hbacked, h.of_invariant keep ⟨hs, hbacked⟩⟩

end Runs

namespace ConflictSample

/-! A policy pack that finds a material conflict in every bundle, and calls on its evaluation. -/

/-- The texts of an object. -/
def digest : Json → String
  | .obj items => items.foldl (fun digest kv =>
    match kv.2 with
    | .str s => digest ++ s
    | _ => digest) ""
  | _ => ""

def conflictReview : PolicyRuleEvaluationResult where
  ruleId := "SG_CONFLICT_REVIEW"
  status := .pendingReview
  severity := "HIGH"
  outcome := "CONFLICT_AND_DISCLOSURE_REVIEW_REQUIRED"
  evidenceRefs := []
  sourceAuthorityRefs := []
  missingEvidence := []
  reasonCodes := ["MATERIAL_CONFLICT_REQUIRES_SUPERVISORY_REVIEW"]
  requiredActions := ["SUPERVISORY_CONFLICT_REVIEW"]

def generatedAt : DateTime := (Sample.moment 0).time

def services : WorkflowServices Unit :=
  { Sample.services with
    sha256 := digest
    datetimeFromIsoformat text := (generatedAt :: (generatedAt.addDays? 2).toList).find?
      fun t => t.isoformat = text
    evaluatePolicyPackVersion _ _ policyPackId policyVersion := .ok
      { contractVersion := "rfc0025.policy-evaluation-engine.v1"
        policyPack := Sample.summary policyPackId policyVersion
        evaluationStatus := .pendingReview
        applicability := ⟨.applicable, [], [], ["POLICY_PACK_APPLIES_TO_PROPOSAL_CONTEXT"]⟩
        sourcePosture := []
        ruleResults := [conflictReview]
        supportability := [] }
    str _ := "" }

def drawn : WorkflowDrawn Unit :=
  { Sample.drawnAt 0 with
    now := Sample.moment 1
    report := .error .stopIteration
    draft := .error .stopIteration }

def request : FinalizeRequest where
  evidenceBundle := Sample.evidenceBundle
  policyPackId := "SG_REFERENCE"
  policyVersion := "2026.05"
  proposalId := "pp_001"
  proposalVersionId := "ppv_001"
  createdBy := "advisor_1"
  idempotencyKey := "finalize pp_001"
  reason := [("trusted_principal", Sample.principal "advisor_1")]

def evaluationId : String := request.evaluationId services.toPolicyServices

def evaluationHash : String :=
  ((request.buildRecord services.toPolicyServices (Sample.drawnAt 0)).toOption.map
    PolicyEvaluationRecord.evaluationHash).getD ""

def finalize : PolicyEvaluationCall × WorkflowDrawn Unit := (.finalize request, drawn)

def review (actorId outcome : String) : PolicyEvaluationCall × WorkflowDrawn Unit :=
  (.reviewEvent evaluationId actorId [("conflict_review_outcome", .str outcome)] none, drawn)

def signOff (decision : PolicyEvaluationSignOffDecision) (conflictReviewOutcome : Option String) :
    PolicyEvaluationCall × WorkflowDrawn Unit :=
  (.signOffDecision evaluationId
    { actorId := "compliance_1"
      decision
      sourceEvaluationHash := evaluationHash
      resolvedApprovalDependencies := ["SUPERVISORY_CONFLICT_REVIEW"]
      conflictReviewOutcome } none, drawn)

abbrev inMemory : PolicyEvaluationRepository Unit PolicyEvaluationRecordStore :=
  inMemoryRepository services.toPolicyServices

/-- The status that a run of calls ends in, and whether a material conflict has been resolved by
nobody but the creator of the record. -/
def outcomeOf (calls : List (PolicyEvaluationCall × WorkflowDrawn Unit)) :
    Option (PolicyEvaluationSignOffStatus × Bool) := do
  let store ← run (callStep services inMemory) .empty calls
  let workflow ← (getPolicyEvaluationWorkflow services inMemory store evaluationId
    drawn.now).toOption
  let record ← (inMemory.getRecord store evaluationId).toOption
  let events ← (inMemory.listEvents store evaluationId).toOption
  return (workflow.signOffStatus, hasMaterialConflict services record ∧
    ∀ event ∈ events, ResolvesConflict services event → event.actorId = record.createdBy)

end ConflictSample

end LotusAdvise.PolicyPacks

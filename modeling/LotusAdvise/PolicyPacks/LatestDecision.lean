import LotusAdvise.PolicyPacks.SignOff

/-! # The latest decision

A decision that does not approve is recorded as a review, and a conflict counts as resolved
once any event says so. The workflow therefore reflects the latest decision and the latest
outcome of a conflict review only in runs in which nothing is withdrawn: no approved
evaluation is rejected later, and no resolved conflict is reported again.
-/

namespace LotusAdvise.PolicyPacks

open Runs

/-- The latest decision on each evaluation that was accepted: its event has been recorded. -/
abbrev LatestDecisions := String → Option PolicyEvaluationSignOffDecision

def LatestDecisions.after (decisions : LatestDecisions) (view view' : EvaluationView) :
    PolicyEvaluationCall → LatestDecisions
  | .signOffDecision evaluationId payload _ =>
    if view'.log evaluationId = view.log evaluationId then decisions
    else Function.update decisions evaluationId (some payload.decision)
  | _ => decisions

section Rules

variable {Catalog S : Type} (services : WorkflowServices Catalog)
  (repository : PolicyEvaluationRepository Catalog S) (view : S → EvaluationView)

/-- A call, and what it makes the latest decisions. -/
def decisionStep (s : S × LatestDecisions) (call : PolicyEvaluationCall × WorkflowDrawn Catalog) :
    Option (S × LatestDecisions) :=
  (callStep services repository s.1 call).map fun s' =>
    (s', s.2.after (view s.1) (view s') call.1)

/-- The latest outcome of a conflict review says that none remains. -/
def LatestResolves (events : List PolicyEvaluationAuditEvent) : Prop :=
  (conflictReviewOutcomes services events).getLast? = some conflictResolutionOutcome

instance (events : List PolicyEvaluationAuditEvent) : Decidable (LatestResolves services events) :=
  inferInstanceAs (Decidable (_ = _))

/-- An evaluation is reported as signed off only if the latest decision approves it, and its
material conflict as satisfied only if the latest outcome resolves it. -/
def ReflectsLatest (s : S × LatestDecisions) : Prop :=
  ∀ evaluationId now workflow,
    getPolicyEvaluationWorkflow services repository s.1 evaluationId now = .ok workflow →
    (workflow.signOffStatus = .signedOff → s.2 evaluationId = some .approveForPolicySignOff) ∧
      ∀ record, repository.getRecord s.1 evaluationId = .ok record →
        hasMaterialConflict services record = true → workflow.conflictPosture.status = .satisfied →
        LatestResolves services ((view s.1).log evaluationId)

/-- The outcome, recorded under a free key, does not report a conflict that has been resolved. -/
def KeepsResolution (view : EvaluationView) (evaluationId : String) (outcome : Json)
    (idempotencyKey : Option String) (record : PolicyEvaluationRecord) : Prop :=
  (∀ key ∈ Proposals.normalizeOptionalIdempotencyKey idempotencyKey, view.bound key = false) →
    hasMaterialConflict services record = true → outcome.truthy = true →
    services.text outcome ≠ conflictResolutionOutcome →
    ∀ event ∈ view.log evaluationId, ¬ ResolvesConflict services event

instance (view : EvaluationView) (evaluationId : String) (outcome : Json)
    (idempotencyKey : Option String) (record : PolicyEvaluationRecord) :
    Decidable (KeepsResolution services view evaluationId outcome idempotencyKey record) :=
  inferInstanceAs (Decidable (_ → _))

/-- A decision that its checks, apart from those of the conflict review, let pass. -/
def PolicyEvaluationSignOffDecisionRequest.Passes
    (payload : PolicyEvaluationSignOffDecisionRequest) (record : PolicyEvaluationRecord) : Prop :=
  payload.sourceEvaluationHash = record.evaluationHash ∧
    (payload.decision = .approveForPolicySignOff → payload.ApprovesAll record)

instance (payload : PolicyEvaluationSignOffDecisionRequest) (record : PolicyEvaluationRecord) :
    Decidable (payload.Passes record) :=
  inferInstanceAs (Decidable (_ ∧ _))

/-- The decision, recorded under a free key, withdraws no approval. -/
def KeepsApproval (view : EvaluationView) (evaluationId : String)
    (payload : PolicyEvaluationSignOffDecisionRequest) (idempotencyKey : Option String) : Prop :=
  (∀ key ∈ Proposals.normalizeOptionalIdempotencyKey idempotencyKey, view.bound key = false) →
    payload.decision ≠ .approveForPolicySignOff →
    ∀ event ∈ view.log evaluationId, isApprovedSignOffEvent event = false

instance (view : EvaluationView) (evaluationId : String)
    (payload : PolicyEvaluationSignOffDecisionRequest) (idempotencyKey : Option String) :
    Decidable (KeepsApproval view evaluationId payload idempotencyKey) :=
  inferInstanceAs (Decidable (_ → _))

/-- Neither a decision nor an outcome of the call withdraws what has been recorded before. -/
def WithdrawsNothing (view : EvaluationView) : PolicyEvaluationCall → Prop
  | .reviewEvent evaluationId _ reason idempotencyKey =>
    ∀ record ∈ view.record evaluationId, KeepsResolution services view evaluationId
      (JsonObject.get reason "conflict_review_outcome") idempotencyKey record
  | .signOffDecision evaluationId payload idempotencyKey =>
    ∀ record ∈ view.record evaluationId, payload.Passes record →
      KeepsResolution services view evaluationId (.ofText? payload.conflictReviewOutcome)
        idempotencyKey record ∧ KeepsApproval view evaluationId payload idempotencyKey
  | _ => True

instance (view : EvaluationView) (call : PolicyEvaluationCall) :
    Decidable (WithdrawsNothing services view call) := by
  unfold WithdrawsNothing
  refine PolicyEvaluationCall.casesOn call ?_ ?_ ?_ ?_ ?_ <;> intros <;> infer_instance

end Rules

section Outcomes

variable {Catalog S : Type} {services : WorkflowServices Catalog}
  {repository : PolicyEvaluationRepository Catalog S} {drawn : WorkflowDrawn Catalog} {s : S}
  {events : List PolicyEvaluationAuditEvent} {event : PolicyEvaluationAuditEvent}

theorem conflictReviewOutcomes_concat :
    conflictReviewOutcomes services (events ++ [event]) = conflictReviewOutcomes services events ++
      if event.conflictReviewOutcome.truthy then [services.text event.conflictReviewOutcome]
      else [] := by
  unfold conflictReviewOutcomes
  rw [List.map_append, List.filter_append, List.map_append]
  congr 1
  unfold PolicyEvaluationAuditEvent.conflictReviewOutcome
  by_cases htruthy : (JsonObject.get event.reasonJson "conflict_review_outcome").truthy <;>
    simp [htruthy]

/-- A resolution stays the latest outcome as long as no further event reports a conflict. -/
theorem latestResolves_concat
    (h : conflictResolutionOutcome ∈ conflictReviewOutcomes services events →
      LatestResolves services events)
    (hkeeps : event.conflictReviewOutcome.truthy = true →
      services.text event.conflictReviewOutcome ≠ conflictResolutionOutcome →
      ∀ other ∈ events, ¬ ResolvesConflict services other)
    (hresolved : conflictResolutionOutcome ∈ conflictReviewOutcomes services (events ++ [event])) :
    LatestResolves services (events ++ [event]) := by
  unfold LatestResolves at h ⊢
  rw [conflictReviewOutcomes_concat] at hresolved ⊢
  by_cases htruthy : event.conflictReviewOutcome.truthy = true
  · rw [if_pos htruthy] at hresolved ⊢
    rw [List.getLast?_concat]
    by_contra hne
    have hother : services.text event.conflictReviewOutcome ≠ conflictResolutionOutcome :=
      fun heq => hne (congrArg some heq)
    rcases List.mem_append.mp hresolved with hold | hnew
    · obtain ⟨other, hmem, hresolves⟩ := resolution_mem_outcomes.mp hold
      exact hkeeps htruthy hother other hmem hresolves
    · exact hother (List.mem_singleton.mp hnew).symm
  · rw [if_neg htruthy, List.append_nil] at hresolved ⊢
    exact h hresolved

end Outcomes

/-- What the events of the evaluations say about the latest decisions on them. -/
structure UpToDate {Catalog : Type} (services : WorkflowServices Catalog) (view : EvaluationView)
    (decisions : LatestDecisions) : Prop where
  approvals : ∀ evaluationId, ∀ event ∈ view.log evaluationId, isApprovedSignOffEvent event = true →
    decisions evaluationId = some .approveForPolicySignOff
  resolutions : ∀ evaluationId record, view.record evaluationId = some record →
    hasMaterialConflict services record = true →
    conflictResolutionOutcome ∈ conflictReviewOutcomes services (view.log evaluationId) →
    LatestResolves services (view.log evaluationId)
  finalizations : ∀ evaluationId, ∀ event ∈ view.log evaluationId, event.eventType = .finalized →
    event.conflictReviewOutcome = .null

section Changes

variable {Catalog : Type} {services : WorkflowServices Catalog} {view : EvaluationView}
  {decisions : LatestDecisions} {record : PolicyEvaluationRecord}
  {event : PolicyEvaluationAuditEvent} {evaluationId : String} {bound : String → Bool}

theorem hasMaterialConflict_attach : hasMaterialConflict services
    (attachPolicyEvaluationEvent record event) = hasMaterialConflict services record := by
  obtain ⟨_, _, _, heq⟩ := exists_attach_eq record event
  rw [heq]
  rfl

/-- A finalized evaluation has neither decisions nor outcomes. -/
theorem UpToDate.finalized (h : UpToDate services view decisions)
    {events : List PolicyEvaluationAuditEvent}
    (all : ∀ event ∈ events, event.eventType = .finalized ∧
      (event ∈ view.log evaluationId ∨ event.conflictReviewOutcome = .null)) :
    UpToDate services
      { record := Function.update view.record evaluationId (some record)
        log := Function.update view.log evaluationId events
        bound } decisions := by
  have hnone : ∀ event ∈ events, event.conflictReviewOutcome = .null := by
    intro event hevent
    rcases all event hevent with ⟨htype, hold | hnull⟩
    · exact h.finalizations evaluationId event hold htype
    · exact hnull
  constructor
  · intro other event hevent happroved
    dsimp only at hevent
    rw [Function.update_apply] at hevent
    split at hevent
    · rw [isApprovedSignOffEvent, decide_eq_true_eq, isSignOffRecordedEvent, (all event hevent).1]
        at happroved
      cases happroved.1
    · exact h.approvals other event hevent happroved
  · intro other record' hrecord hconflict hresolved
    dsimp only at hrecord hresolved ⊢
    rw [Function.update_apply] at hrecord hresolved ⊢
    split at hresolved
    · obtain ⟨event, hevent, htruthy, -⟩ := resolution_mem_outcomes.mp hresolved
      rw [hnone event hevent] at htruthy
      cases htruthy
    · next hne =>
      rw [if_neg hne] at hrecord ⊢
      exact h.resolutions other record' hrecord hconflict hresolved
  · intro other event hevent htype
    dsimp only at hevent
    rw [Function.update_apply] at hevent
    split at hevent
    · exact hnone event hevent
    · exact h.finalizations other event hevent htype

theorem UpToDate.resolutions_append (h : UpToDate services view decisions)
    (stored : view.record evaluationId = some record)
    (hkeeps : hasMaterialConflict services record = true →
      event.conflictReviewOutcome.truthy = true →
      services.text event.conflictReviewOutcome ≠ conflictResolutionOutcome →
      ∀ other ∈ view.log evaluationId, ¬ ResolvesConflict services other)
    (other : String) (record' : PolicyEvaluationRecord)
    (hrecord : Function.update view.record evaluationId
      (some (attachPolicyEvaluationEvent record event)) other = some record')
    (hconflict : hasMaterialConflict services record' = true)
    (hresolved : conflictResolutionOutcome ∈ conflictReviewOutcomes services
      (Function.update view.log evaluationId (view.log evaluationId ++ [event]) other)) :
    LatestResolves services
      (Function.update view.log evaluationId (view.log evaluationId ++ [event]) other) := by
  by_cases heq : other = evaluationId
  · subst heq
    rw [Function.update_self] at hrecord hresolved ⊢
    obtain rfl := Option.some.inj hrecord
    rw [hasMaterialConflict_attach] at hconflict
    exact latestResolves_concat (h.resolutions other record stored hconflict) (hkeeps hconflict)
      hresolved
  · rw [Function.update_of_ne heq] at hrecord hresolved ⊢
    exact h.resolutions other record' hrecord hconflict hresolved

theorem UpToDate.finalizations_append (h : UpToDate services view decisions)
    (hnew : event.eventType = .finalized → event.conflictReviewOutcome = .null)
    (other : String) (other' : PolicyEvaluationAuditEvent)
    (hmem : other' ∈ Function.update view.log evaluationId (view.log evaluationId ++ [event]) other)
    (htype : other'.eventType = .finalized) : other'.conflictReviewOutcome = .null := by
  rw [Function.update_apply] at hmem
  split at hmem
  · next heq =>
    rcases List.mem_append.mp hmem with hearlier | hlast
    · exact h.finalizations evaluationId other' hearlier htype
    · obtain rfl := List.mem_singleton.mp hlast
      exact hnew htype
  · exact h.finalizations other other' hmem htype

end Changes

section Steps

variable {Catalog S : Type} {services : WorkflowServices Catalog}
  {repository : PolicyEvaluationRepository Catalog S} {inv : S → Prop} {view : S → EvaluationView}
  {s s' : S} {drawn : WorkflowDrawn Catalog} {record : PolicyEvaluationRecord}
  {event : PolicyEvaluationAuditEvent} {call : PolicyEvaluationCall} {request : AppendEventRequest}

/-- What a decision that is recorded has passed. -/
theorem passes_of_decision (hshows : repository.Shows inv view) (hs : inv s) {evaluationId : String}
    {payload : PolicyEvaluationSignOffDecisionRequest} {idempotencyKey : Option String}
    {now : UtcDateTime}
    (h : signOffDecisionEvent services repository s evaluationId payload idempotencyKey now =
      .ok request)
    (hstored : (view s).record evaluationId = some record) : payload.Passes record := by
  obtain ⟨record', events, before, hrecord, -, hhash, -, hvalid, -⟩ := signOffDecisionEvent_spec h
  obtain rfl : record' = record :=
    Option.some.inj ((hshows.getRecord s _ _ hs hrecord).symm.trans hstored)
  exact ⟨hhash, fun happroval => approvesAll_of_valid hvalid happroval hhash⟩

theorem conflictReviewOutcome_of_recorded (h : event.RecordedFor request) :
    event.conflictReviewOutcome = JsonObject.get request.reason "conflict_review_outcome" :=
  h.reason _ (by decide) (by decide)

/-- The outcome that a call records reports no conflict that has been resolved. -/
theorem keeps_of_prepareCall (hshows : repository.Shows inv view) (hs : inv s)
    (h : prepareCall services repository s drawn call = .ok (some (.appendEvent request)))
    (hcondition : WithdrawsNothing services (view s) call)
    (hstored : (view s).record request.evaluationId = some record)
    (hfree : ∀ key ∈ request.key?, (view s).bound key = false) (hrecorded : event.RecordedFor request)
    (hconflict : hasMaterialConflict services record = true)
    (htruthy : event.conflictReviewOutcome.truthy = true)
    (hother : services.text event.conflictReviewOutcome ≠ conflictResolutionOutcome) :
    ∀ other ∈ (view s).log request.evaluationId, ¬ ResolvesConflict services other := by
  rw [conflictReviewOutcome_of_recorded hrecorded] at htruthy hother
  cases call with
  | finalize finalization =>
    dsimp only [prepareCall] at h
    split at h <;> cases h
  | reviewEvent evaluationId actorId reason idempotencyKey =>
    cases h
    rw [key?_of_normalized rfl] at hfree
    exact hcondition record hstored hfree hconflict htruthy hother
  | signOffDecision evaluationId payload idempotencyKey =>
    obtain ⟨request', hevent, heq⟩ := map_eq_ok.mp h
    cases heq
    obtain ⟨_, _, _, -, -, -, -, -, hid, -, -, hreason, hkey⟩ := signOffDecisionEvent_spec hevent
    rw [hid] at hstored ⊢
    rw [hreason] at htruthy hother
    rw [key?_of_normalized hkey] at hfree
    exact (hcondition record hstored (passes_of_decision hshows hs hevent hstored)).1 hfree hconflict
      htruthy hother
  | reportPackage evaluationId payload idempotencyKey =>
    obtain ⟨prepared, hevent, heq⟩ := map_eq_ok.mp h
    split at heq
    · cases heq
    · cases heq
      rw [(reportPackageEvent_spec hevent).2] at htruthy
      cases htruthy
  | aiEvidence evaluationId payload idempotencyKey =>
    obtain ⟨prepared, hevent, heq⟩ := map_eq_ok.mp h
    split at heq
    · cases heq
    · cases heq
      rw [(aiEvidenceEvent_spec hevent).2] at htruthy
      cases htruthy

theorem eventType_of_approved (h : isApprovedSignOffEvent event = true) :
    event.eventType = .signOffRecorded := by
  rw [isApprovedSignOffEvent, decide_eq_true_eq] at h
  exact of_decide_eq_true h.1

theorem decisions_after_of_ne {decisions : LatestDecisions} {before after : EvaluationView}
    (h : ∀ evaluationId payload idempotencyKey,
      call ≠ .signOffDecision evaluationId payload idempotencyKey) :
    decisions.after before after call = decisions := by
  cases call with
  | signOffDecision evaluationId payload idempotencyKey => exact absurd rfl (h _ _ _)
  | finalize | reviewEvent | reportPackage | aiEvidence => rfl

theorem decisions_after_of_eq {decisions : LatestDecisions} {before after : EvaluationView}
    (h : after.log = before.log) : decisions.after before after call = decisions := by
  cases call with
  | signOffDecision evaluationId payload idempotencyKey =>
    rw [LatestDecisions.after, h, if_pos rfl]
  | finalize | reviewEvent | reportPackage | aiEvidence => rfl

/-- When a decision is recorded beside an approval, it approves itself. -/
theorem approves_of_recorded (hshows : repository.Shows inv view) (hs : inv s) {evaluationId : String}
    {payload : PolicyEvaluationSignOffDecisionRequest} {idempotencyKey : Option String}
    {now : UtcDateTime}
    (h : signOffDecisionEvent services repository s evaluationId payload idempotencyKey now =
      .ok request)
    (hcondition : WithdrawsNothing services (view s)
      (.signOffDecision evaluationId payload idempotencyKey))
    (hstored : (view s).record evaluationId = some record)
    (hfree : ∀ key ∈ request.key?, (view s).bound key = false) (hrecorded : event.RecordedFor request)
    {other : PolicyEvaluationAuditEvent} (hother : other ∈ (view s).log evaluationId ++ [event])
    (happroved : isApprovedSignOffEvent other = true) :
    payload.decision = .approveForPolicySignOff := by
  obtain ⟨_, _, _, -, -, -, -, -, -, htype, -, -, hkey⟩ := signOffDecisionEvent_spec h
  rw [key?_of_normalized hkey] at hfree
  by_contra hne
  rcases List.mem_append.mp hother with hearlier | hnew
  · have hkeeps := (hcondition record hstored (passes_of_decision hshows hs h hstored)).2 hfree hne
    rw [hkeeps other hearlier] at happroved
    cases happroved
  · rw [List.mem_singleton.mp hnew] at happroved
    have heventType := eventType_of_approved happroved
    rw [hrecorded.eventType, htype, PolicyEvaluationSignOffDecisionRequest.eventType,
      if_neg hne] at heventType
    cases heventType

theorem approvals_of_append (hshows : repository.Shows inv view) (hs : inv s)
    {decisions : LatestDecisions} (hcurrent : UpToDate services (view s) decisions)
    (h : prepareCall services repository s drawn call = .ok (some (.appendEvent request)))
    (hcondition : WithdrawsNothing services (view s) call)
    (hstored : (view s).record request.evaluationId = some record)
    (hfree : ∀ key ∈ request.key?, (view s).bound key = false) (hrecorded : event.RecordedFor request)
    {after : EvaluationView}
    (hlog : after.log = Function.update (view s).log request.evaluationId
      ((view s).log request.evaluationId ++ [event])) :
    ∀ evaluationId, ∀ other ∈ after.log evaluationId, isApprovedSignOffEvent other = true →
      decisions.after (view s) after call evaluationId = some .approveForPolicySignOff := by
  intro evaluationId other hother happroved
  by_cases hdecision : ∃ evaluationId payload idempotencyKey,
      call = .signOffDecision evaluationId payload idempotencyKey
  · obtain ⟨decided, payload, idempotencyKey, rfl⟩ := hdecision
    obtain ⟨request', hevent, heq⟩ := map_eq_ok.mp h
    cases heq
    obtain ⟨_, _, _, -, -, -, -, -, hid, -⟩ := signOffDecisionEvent_spec hevent
    rw [hid] at hstored hlog
    have hgrown : after.log decided ≠ (view s).log decided := by
      rw [hlog, Function.update_self]
      simp
    rw [LatestDecisions.after, if_neg hgrown]
    rw [hlog] at hother
    by_cases heq : evaluationId = decided
    · subst heq
      rw [Function.update_self] at hother ⊢
      rw [approves_of_recorded hshows hs hevent hcondition hstored hfree hrecorded hother happroved]
    · rw [Function.update_of_ne heq] at hother ⊢
      exact hcurrent.approvals evaluationId other hother happroved
  · rw [decisions_after_of_ne fun decided payload idempotencyKey heq =>
      hdecision ⟨decided, payload, idempotencyKey, heq⟩]
    rw [hlog, Function.update_apply] at hother
    split at hother
    · next heq =>
      rcases List.mem_append.mp hother with hearlier | hnew
      · rw [heq]
        exact hcurrent.approvals _ other hearlier happroved
      · -- only a decision records an approval
        rw [List.mem_singleton.mp hnew] at happroved
        have heventType := eventType_of_approved happroved
        rw [hrecorded.eventType] at heventType
        obtain ⟨decided, payload, idempotencyKey, heq, -⟩ :=
          signOffDecision_of_prepareCall h heventType
        exact absurd ⟨decided, payload, idempotencyKey, heq⟩ hdecision
    · exact hcurrent.approvals evaluationId other hother happroved

theorem finalize_of_prepareCall {finalization : FinalizeRequest}
    (h : prepareCall services repository s drawn call = .ok (some (.finalize finalization))) :
    ∀ evaluationId payload idempotencyKey,
      call ≠ .signOffDecision evaluationId payload idempotencyKey := by
  rintro evaluationId payload idempotencyKey rfl
  obtain ⟨request, -, heq⟩ := map_eq_ok.mp h
  cases heq

/-- A call that withdraws nothing keeps the events up to date with the latest decisions. -/
theorem upToDate_of_call (hshows : repository.Shows inv view) (hs : inv s)
    {decisions : LatestDecisions} (hcurrent : UpToDate services (view s) decisions)
    {answer? : Option PolicyEvaluationAnswer}
    (h : runCall services repository s drawn call = .ok (answer?, s'))
    (hcondition : WithdrawsNothing services (view s) call) :
    inv s' ∧ UpToDate services (view s') (decisions.after (view s) (view s') call) := by
  rcases runCall_eq_ok h with rfl | ⟨command, answer, hprepare, hrun⟩
  · rw [decisions_after_of_eq rfl]
    exact ⟨hs, hcurrent⟩
  · obtain ⟨hs', hchange⟩ := hshows.run s _ command answer s' hs hrun
    refine ⟨hs', ?_⟩
    generalize view s' = after at hchange ⊢
    cases hchange with
    | unchanged command bound =>
      rw [show decisions.after (view s) { view s with bound } call = decisions from
        decisions_after_of_eq rfl]
      exact { hcurrent with }
    | finalized finalization record events bound all =>
      rw [decisions_after_of_ne (finalize_of_prepareCall hprepare)]
      exact hcurrent.finalized all
    | appended request record event bound stored authorized free recorded =>
      exact
        { approvals := approvals_of_append hshows hs hcurrent hprepare hcondition stored free recorded
            rfl
          resolutions := hcurrent.resolutions_append stored fun hconflict htruthy hother =>
            keeps_of_prepareCall hshows hs hprepare hcondition stored free recorded hconflict htruthy
              hother
          finalizations := hcurrent.finalizations_append fun htype => by
            rw [recorded.eventType] at htype
            exact absurd htype (eventType_ne_finalized authorized) }

theorem reflectsLatest_of_upToDate (hshows : repository.Shows inv view) (hs : inv s)
    {decisions : LatestDecisions} (hcurrent : UpToDate services (view s) decisions) :
    ReflectsLatest services repository view (s, decisions) := by
  intro evaluationId now workflow hworkflow
  obtain ⟨record, hrecord, h⟩ := bind_eq_ok.mp hworkflow
  obtain ⟨events, hevents, h⟩ := bind_eq_ok.mp h
  have hperm := hshows.listEvents s evaluationId events hs hevents
  obtain ⟨hposture, hsignOff⟩ := projection_spec h
  constructor
  · intro hsignedOff
    obtain ⟨event, hlatest, happroved⟩ := (Option.any_eq_true _ _).mp (hsignOff.mp hsignedOff)
    have hevent := (List.mem_filter.mp (List.mem_of_getLast? hlatest)).1
    exact hcurrent.approvals evaluationId event (hperm.mem_iff.mp hevent) happroved
  · intro record' hrecord' hconflict hsatisfied
    obtain rfl := Except.ok.inj (hrecord.symm.trans hrecord')
    refine hcurrent.resolutions evaluationId record (hshows.getRecord s _ _ hs hrecord) hconflict
      (resolution_mem_outcomes.mpr ?_)
    by_contra hnone
    have hblocked := (posture_blocked_iff hposture).mpr
      ⟨hconflict, fun ⟨event, hevent, hresolves⟩ =>
        hnone ⟨event, hperm.mem_iff.mp hevent, hresolves⟩⟩
    rw [hsatisfied] at hblocked
    cases hblocked

end Steps

section Runs

variable {Catalog S : Type} {services : WorkflowServices Catalog}
  {repository : PolicyEvaluationRepository Catalog S} {inv : S → Prop} {view : S → EvaluationView}

theorem reflectsLatest_run (hshows : repository.Shows inv view) {s : S} (hs : inv s)
    {decisions : LatestDecisions} (hcurrent : UpToDate services (view s) decisions)
    {calls : List (PolicyEvaluationCall × WorkflowDrawn Catalog)}
    (h : EveryStep (decisionStep services repository view)
      (fun s call _ => WithdrawsNothing services (view s.1) call.1) (s, decisions) calls) :
    EveryState (decisionStep services repository view) (ReflectsLatest services repository view)
      (s, decisions) calls := by
  have keep : ∀ (s : S × LatestDecisions) (call : PolicyEvaluationCall × WorkflowDrawn Catalog) s',
      (inv s.1 ∧ UpToDate services (view s.1) s.2) →
      decisionStep services repository view s call = some s' →
      WithdrawsNothing services (view s.1) call.1 →
      (inv s'.1 ∧ UpToDate services (view s'.1) s'.2) ∧
        ReflectsLatest services repository view s' := by
    rintro ⟨s, decisions⟩ ⟨call, drawn⟩ s' ⟨hs, hcurrent⟩ hstep hcondition
    obtain ⟨after, hcall, rfl⟩ := Option.map_eq_some_iff.mp hstep
    have hkept : inv after ∧
        UpToDate services (view after) (decisions.after (view s) (view after) call) := by
      unfold callStep at hcall
      split at hcall
      · next hrun =>
        obtain rfl := Option.some.inj hcall
        exact upToDate_of_call hshows hs hcurrent hrun hcondition
      · obtain rfl := Option.some.inj hcall
        rw [decisions_after_of_eq rfl]
        exact ⟨hs, hcurrent⟩
    exact ⟨hkept, reflectsLatest_of_upToDate hshows hkept.1 hkept.2⟩
  exact ⟨reflectsLatest_of_upToDate hshows hs hcurrent, h.of_invariant keep ⟨hs, hcurrent⟩⟩

theorem upToDate_of_empty {view : EvaluationView} (hrecord : ∀ id, view.record id = none)
    (hlog : ∀ id, view.log id = []) : UpToDate services view fun _ => none := by
  constructor
  · intro evaluationId event hevent
    rw [hlog] at hevent
    cases hevent
  · intro evaluationId record h
    rw [hrecord] at h
    cases h
  · intro evaluationId event hevent
    rw [hlog] at hevent
    cases hevent

end Runs

namespace ConflictSample

abbrev decisionsStep := decisionStep services inMemory PolicyEvaluationRecordStore.view

/-- The status that a run of calls ends in with the latest decision, and for a material conflict the
status of its posture with whether the latest outcome resolves it. -/
def latestOf (calls : List (PolicyEvaluationCall × WorkflowDrawn Unit)) :
    Option ((PolicyEvaluationSignOffStatus × Option PolicyEvaluationSignOffDecision) ×
      Bool × ConflictStatus × Bool) := do
  let (store, decisions) ← run decisionsStep (.empty, fun _ => none) calls
  let workflow ← (getPolicyEvaluationWorkflow services inMemory store evaluationId
    drawn.now).toOption
  let record ← (inMemory.getRecord store evaluationId).toOption
  return ((workflow.signOffStatus, decisions evaluationId), hasMaterialConflict services record,
    workflow.conflictPosture.status, LatestResolves services (store.view.log evaluationId))

/-- A run after which the workflow does not reflect the latest decision, or the latest outcome. -/
theorem not_reflectsLatest_of_latestOf {calls : List (PolicyEvaluationCall × WorkflowDrawn Unit)}
    {status : PolicyEvaluationSignOffStatus} {latest : Option PolicyEvaluationSignOffDecision}
    {conflict : ConflictStatus} {resolves : Bool}
    (h : latestOf calls = some ((status, latest), true, conflict, resolves))
    (hignored : (status = .signedOff ∧ latest ≠ some .approveForPolicySignOff) ∨
      (conflict = .satisfied ∧ resolves = false)) :
    ¬ EveryState decisionsStep (ReflectsLatest services inMemory PolicyEvaluationRecordStore.view)
      (.empty, fun _ => none) calls := by
  intro hreflects
  unfold latestOf at h
  obtain ⟨⟨store, decisions⟩, hstore, h⟩ := Option.bind_eq_some_iff.mp h
  obtain ⟨workflow, hworkflow, h⟩ := Option.bind_eq_some_iff.mp h
  obtain ⟨record, hrecord, h⟩ := Option.bind_eq_some_iff.mp h
  have h := Option.some.inj h
  rw [Prod.mk.injEq, Prod.mk.injEq, Prod.mk.injEq, Prod.mk.injEq] at h
  obtain ⟨⟨rfl, rfl⟩, hconflict, rfl, rfl⟩ := h
  obtain ⟨hdecision, houtcome⟩ :=
    hreflects.of_run hstore _ _ _ (toOption_eq_some.mp hworkflow)
  rcases hignored with ⟨hsignedOff, hlatest⟩ | ⟨hsatisfied, hresolves⟩
  · exact hlatest (hdecision hsignedOff)
  · exact of_decide_eq_false hresolves
      (houtcome record (toOption_eq_some.mp hrecord) hconflict hsatisfied)

def approval : PolicyEvaluationCall × WorkflowDrawn Unit :=
  signOff .approveForPolicySignOff (some conflictResolutionOutcome)

end ConflictSample

end LotusAdvise.PolicyPacks

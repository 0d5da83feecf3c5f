import LotusAdvise.Proposals.Records

/-! # Workflow rules

The tables of allowed transitions, approvals and execution updates, and the functions
that look commands up in them. `Move` collects every state change the tables allow.
-/

namespace LotusAdvise.Proposals

def terminalStates : List ProposalWorkflowState := [.executed, .rejected, .cancelled, .expired]

def transitionMap :
    List ((ProposalWorkflowState × ProposalWorkflowEventType) × ProposalWorkflowState) :=
  [((.draft, .submittedForRiskReview), .riskReview),
    ((.draft, .submittedForComplianceReview), .complianceReview),
    ((.riskReview, .riskApproved), .awaitingClientConsent),
    ((.riskReview, .rejected), .rejected),
    ((.complianceReview, .complianceApproved), .awaitingClientConsent),
    ((.complianceReview, .rejected), .rejected),
    ((.awaitingClientConsent, .clientConsentRecorded), .executionReady),
    ((.awaitingClientConsent, .rejected), .rejected),
    ((.executionReady, .executionRequested), .executionReady),
    ((.executionReady, .executed), .executed),
    ((.executionReady, .expired), .expired)]

def executionStatusEventTypes : List ProposalWorkflowEventType :=
  [.executionRequested, .executionAccepted, .executionPartiallyExecuted, .executionRejected,
    .executionCancelled, .executionExpired, .executed]

def executionUpdateEventMap :
    ProposalExecutionUpdateStatus → ProposalWorkflowEventType × ProposalWorkflowState
  | .accepted => (.executionAccepted, .executionReady)
  | .partiallyExecuted => (.executionPartiallyExecuted, .executionReady)
  | .rejected => (.executionRejected, .rejected)
  | .cancelled => (.executionCancelled, .cancelled)
  | .expired => (.executionExpired, .expired)
  | .executed => (.executed, .executed)

def executionStatusByEventType :
    List (ProposalWorkflowEventType × ProposalExecutionHandoffStatus) :=
  [(.executionRequested, .requested), (.executionAccepted, .accepted),
    (.executionPartiallyExecuted, .partiallyExecuted), (.executionRejected, .rejected),
    (.executionCancelled, .cancelled), (.executionExpired, .expired), (.executed, .executed)]

def executionStateCorrelationByStatus : List (ProposalExecutionHandoffStatus × String) :=
  [(.requested, "EXECUTION_REQUESTED_EVENT"),
    (.accepted, "EXECUTION_REQUESTED_AND_ACCEPTED_EVENTS"),
    (.partiallyExecuted, "EXECUTION_REQUESTED_AND_PARTIAL_EXECUTION_EVENTS"),
    (.executed, "EXECUTION_REQUESTED_AND_EXECUTED_EVENTS"),
    (.rejected, "EXECUTION_REQUESTED_AND_REJECTED_EVENTS"),
    (.cancelled, "EXECUTION_REQUESTED_AND_CANCELLED_EVENTS"),
    (.expired, "EXECUTION_REQUESTED_AND_EXPIRED_EVENTS")]

def approvalTransitionRules : List (ProposalApprovalType ×
    (ProposalWorkflowState × ProposalWorkflowEventType × ProposalWorkflowState)) :=
  [(.risk, .riskReview, .riskApproved, .awaitingClientConsent),
    (.compliance, .complianceReview, .complianceApproved, .awaitingClientConsent),
    (.clientConsent, .awaitingClientConsent, .clientConsentRecorded, .executionReady)]

def resolveTransitionState (currentState : ProposalWorkflowState)
    (eventType : ProposalWorkflowEventType) : Except String ProposalWorkflowState :=
  if eventType = .cancelled ∧ currentState ∉ terminalStates then .ok .cancelled
  else
    match transitionMap.lookup (currentState, eventType) with
    | none => .error "INVALID_TRANSITION"
    | some nextState => .ok nextState

def resolveApprovalTransition (currentState : ProposalWorkflowState)
    (approvalType : ProposalApprovalType) (approved : Bool) :
    Except String (ProposalWorkflowEventType × ProposalWorkflowState) :=
  match approvalTransitionRules.lookup approvalType with
  | none => .error "INVALID_APPROVAL_TYPE"
  | some (requiredState, approvedEventType, approvedNextState) =>
    if currentState ≠ requiredState then .error "INVALID_APPROVAL_STATE"
    else if !approved then .ok (.rejected, .rejected)
    else .ok (approvedEventType, approvedNextState)

def resolveExecutionUpdateEvent (updateStatus : ProposalExecutionUpdateStatus) :
    ProposalWorkflowEventType × ProposalWorkflowState := executionUpdateEventMap updateStatus

def executionStatusForEvent (eventType : ProposalWorkflowEventType) :
    ProposalExecutionHandoffStatus :=
  (executionStatusByEventType.lookup eventType).getD .notRequested

def executionStateCorrelation (handoffStatus : ProposalExecutionHandoffStatus) : String :=
  (executionStateCorrelationByStatus.lookup handoffStatus).getD "NO_EXECUTION_EVENTS_RECORDED"

/-- The state changes of the transition table and of a cancellation. -/
inductive Transition :
    ProposalWorkflowState → ProposalWorkflowEventType → ProposalWorkflowState → Prop where
  | submitForRiskReview : Transition .draft .submittedForRiskReview .riskReview
  | submitForComplianceReview :
    Transition .draft .submittedForComplianceReview .complianceReview
  | approveRisk : Transition .riskReview .riskApproved .awaitingClientConsent
  | approveCompliance :
    Transition .complianceReview .complianceApproved .awaitingClientConsent
  | consent : Transition .awaitingClientConsent .clientConsentRecorded .executionReady
  | reject {state : ProposalWorkflowState}
    (review : state ∈ [.riskReview, .complianceReview, .awaitingClientConsent]) :
    Transition state .rejected .rejected
  | handOff : Transition .executionReady .executionRequested .executionReady
  | execute : Transition .executionReady .executed .executed
  | expire : Transition .executionReady .expired .expired
  | cancel {state : ProposalWorkflowState} (active : state ∉ terminalStates) :
    Transition state .cancelled .cancelled

theorem transition_of_resolve {state next : ProposalWorkflowState}
    {eventType : ProposalWorkflowEventType}
    (h : resolveTransitionState state eventType = .ok next) : Transition state eventType next := by
  unfold resolveTransitionState at h
  split at h
  · next hc =>
    obtain ⟨rfl, hs⟩ := hc
    cases h
    exact .cancel hs
  · split at h
    · cases h
    · next n hn =>
      cases h
      cases state <;> cases eventType <;> cases hn <;> first
        | exact .reject (by decide)
        | constructor

/-- An approval records an event that the transition table allows as well. -/
theorem transition_of_resolveApproval {state next : ProposalWorkflowState}
    {approvalType : ProposalApprovalType} {approved : Bool}
    {eventType : ProposalWorkflowEventType}
    (h : resolveApprovalTransition state approvalType approved = .ok (eventType, next)) :
    Transition state eventType next ∧ state ≠ next := by
  cases approvalType <;> cases approved <;> cases state <;>
    simp [resolveApprovalTransition, approvalTransitionRules] at h <;>
    obtain ⟨rfl, rfl⟩ := h <;> refine ⟨?_, by decide⟩ <;> first
      | exact .reject (by decide)
      | constructor

/-- The tables never leave a terminal state. -/
theorem Transition.active {state next : ProposalWorkflowState}
    {eventType : ProposalWorkflowEventType} (h : Transition state eventType next) :
    state ∉ terminalStates := by
  cases h with
  | cancel active => exact active
  | reject review =>
    simp only [List.mem_cons, List.not_mem_nil, or_false] at review
    rcases review with rfl | rfl | rfl <;> decide
  | _ => decide

/-- A state change that keeps the state is the request for execution. -/
theorem Transition.eq_of_self {state : ProposalWorkflowState}
    {eventType : ProposalWorkflowEventType} (h : Transition state eventType state) :
    state = .executionReady ∧ eventType = .executionRequested := by
  cases h with
  | handOff => exact ⟨rfl, rfl⟩
  | reject review => exact absurd review (by decide)
  | cancel active => exact absurd active (by decide)

theorem Transition.eventType_ne {state next : ProposalWorkflowState}
    {eventType : ProposalWorkflowEventType} (h : Transition state eventType next) :
    eventType ≠ .created ∧ eventType ≠ .newVersionCreated := by
  cases h <;> exact ⟨nofun, nofun⟩

end LotusAdvise.Proposals

import LotusAdvise.Foundations.Pairing
import LotusAdvise.Proposals.InMemory

/-! # Approval evidence

An approved decision is stored twice: as an event, and as an approval record for audit.
The approval command writes both. A generic transition to an approval event writes the
event alone.
-/

namespace LotusAdvise.Proposals

open Interleaving Runs

/-- The type of the approval that an event of this type records. -/
def approvalRecordedBy : ProposalWorkflowEventType → Option ProposalApprovalType
  | .riskApproved => some .risk
  | .complianceApproved => some .compliance
  | .clientConsentRecorded => some .clientConsent
  | _ => none

/-- What identifies an approved decision: its type, the version it is about, and its time. -/
abbrev ApprovedDecision := ProposalApprovalType × Option ℤ × DateTime

def ProposalWorkflowEventRecord.approvedDecision? (event : ProposalWorkflowEventRecord) :
    Option ApprovedDecision :=
  (approvalRecordedBy event.eventType).map fun approvalType =>
    (approvalType, event.relatedVersionNo, event.occurredAt)

def ProposalApprovalRecordData.approvedDecision? (approval : ProposalApprovalRecordData) :
    Option ApprovedDecision :=
  if approval.approved then
    some (approval.approvalType, approval.relatedVersionNo, approval.occurredAt)
  else none

/-- The decision that a request records when it is accepted at the given time. -/
def ProposalApprovalRequest.approvedDecision? (payload : ProposalApprovalRequest)
    (occurredAt : DateTime) : Option ApprovedDecision :=
  if payload.approved then some (payload.approvalType, payload.relatedVersionNo, occurredAt)
  else none

/-- For every proposal, approval events and approved approval records correspond one to one. -/
def ApprovalEvidence (store : InMemoryStore) : Prop :=
  ∀ proposalId, Paired ProposalWorkflowEventRecord.approvedDecision?
    ProposalApprovalRecordData.approvedDecision? (store.events proposalId)
    (store.approvals proposalId)

/-- A command that records something is no generic transition to an approval event, and records no
approved decision with the type, version and time of an earlier one. -/
def RecordsDecisionOnce (store : InMemoryStore) (call : Call) (_ : InMemoryStore) : Prop :=
  FindsNoReplay store call.command →
    match call.command with
    | .transition _ payload _ => approvalRecordedBy payload.eventType = none
    | .approval proposalId payload _ =>
      ∀ decision ∈ payload.approvedDecision? call.generated.now,
        ∀ event ∈ store.events proposalId, event.approvedDecision? ≠ some decision
    | _ => True

/-- The table of approvals records an approval event exactly for an approved decision. -/
theorem approvalRecordedBy_of_resolve {state next : ProposalWorkflowState}
    {approvalType : ProposalApprovalType} {approved : Bool}
    {eventType : ProposalWorkflowEventType}
    (h : resolveApprovalTransition state approvalType approved = .ok (eventType, next)) :
    approvalRecordedBy eventType = if approved then some approvalType else none := by
  cases approvalType <;> cases approved <;> cases state <;>
    simp [resolveApprovalTransition, approvalTransitionRules] at h <;>
    obtain ⟨rfl, rfl⟩ := h <;> rfl

/-- What the event and the approval of a transition say about approved decisions. -/
inductive RecordsEvidence (call : Call) (event : ProposalWorkflowEventRecord) :
    Option ProposalApprovalRecordData → Prop where
  | transition {proposalId : String} {payload : ProposalStateTransitionRequest}
    {idempotencyKey : Option String}
    (command : call.command = .transition proposalId payload idempotencyKey)
    (eventType : event.eventType = payload.eventType) : RecordsEvidence call event none
  | approval {proposalId : String} {payload : ProposalApprovalRequest}
    {idempotencyKey : Option String} {approval : ProposalApprovalRecordData}
    (command : call.command = .approval proposalId payload idempotencyKey)
    (decided : event.approvedDecision? = payload.approvedDecision? call.generated.now)
    (paired : event.approvedDecision? = approval.approvedDecision?) :
    RecordsEvidence call event (some approval)
  | other (unpaired : call.command.kind ≠ .transition ∧ call.command.kind ≠ .approval)
    (undecided : event.approvedDecision? = none) : RecordsEvidence call event none

section Inversion

variable {S : Type} {config : ServiceConfig} {services : Services}
  {repository : ProposalRepository S} {store : S} {call : Call} {proposal next : ProposalRecord}
  {event : ProposalWorkflowEventRecord} {approval : Option ProposalApprovalRecordData}
  {response : ProposalResponse}

theorem approvedDecision?_of_eventType (h : approvalRecordedBy event.eventType = none) :
    event.approvedDecision? = none := by
  rw [ProposalWorkflowEventRecord.approvedDecision?, h]
  rfl

theorem recordsEvidence_of_decide (h : decideCommand config services repository store call =
    .ok (transitionPlan proposal next event approval response)) :
    RecordsEvidence call event approval := by
  obtain ⟨command, generated⟩ := call
  cases command with
  | create arguments =>
    obtain ⟨_, _, ⟨_, _, _, _, _, hout⟩ | ⟨_, _, _, _, hout⟩⟩ := createProposalCommand_eq_ok h <;>
      cases hout
  | createVersion =>
    obtain ⟨_, _, _, _, _, hout⟩ := createProposalVersion_eq_ok h
    cases hout
  | transition proposalId payload idempotencyKey =>
    obtain ⟨_, _, ⟨_, _, hout⟩ | ⟨_, hout⟩⟩ := transitionProposalState_eq_ok h
    · cases hout
    · obtain ⟨_, _, _, hout⟩ := recordStateTransition_eq_ok hout
      obtain ⟨_, rfl, rfl⟩ := transitionPlan_inj hout
      exact .transition rfl rfl
  | approval proposalId payload idempotencyKey =>
    obtain ⟨current, _, ⟨_, _, hout⟩ | ⟨_, hout⟩⟩ := recordProposalApproval_eq_ok h
    · simp only [bind_eq_ok] at hout
      obtain ⟨found, _, hout⟩ := hout
      cases found <;> cases hout
    · obtain ⟨eventType, toState, _, hresolved, hout⟩ := recordApprovalTransition_resolved hout
      obtain ⟨_, rfl, rfl⟩ := transitionPlan_inj hout
      have hrecorded := approvalRecordedBy_of_resolve hresolved
      have hdecided : ∀ key hash, (buildApprovalTransitionEvent generated.eventId current payload
          eventType toState generated.now key hash).approvedDecision? =
            payload.approvedDecision? generated.now := by
        intro key hash
        simp only [ProposalWorkflowEventRecord.approvedDecision?, buildApprovalTransitionEvent,
          hrecorded, ProposalApprovalRequest.approvedDecision?]
        cases payload.approved <;> rfl
      exact .approval rfl (hdecided _ _) (hdecided _ _)
  | executionHandoff =>
    obtain ⟨_, _, ⟨_, _, hout⟩ | ⟨_, hout⟩⟩ := requestProposalExecutionHandoff_eq_ok h
    · cases hout
    · obtain ⟨_, _, hout⟩ := recordExecutionHandoff_eq_ok hout
      obtain ⟨_, rfl, rfl⟩ := transitionPlan_inj hout
      exact .other ⟨nofun, nofun⟩ rfl
  | executionUpdate _ payload =>
    obtain ⟨_, _, _, _, _, ⟨_, _, hout⟩ | ⟨_, hout⟩⟩ := recordProposalExecutionUpdate_eq_ok h
    · simp only [bind_eq_ok] at hout
      obtain ⟨_, _, hout⟩ := hout
      cases hout
    · obtain ⟨_, _, _, hout⟩ := recordExecutionUpdateEvent_eq_ok hout
      obtain ⟨_, rfl, rfl⟩ := transitionPlan_inj hout
      refine .other ⟨nofun, nofun⟩ (approvedDecision?_of_eventType ?_)
      cases hstatus : payload.updateStatus <;>
        simp [buildExecutionUpdateEvent, executionUpdateEventMap, approvalRecordedBy]
  | narrativeReview =>
    obtain ⟨_, _, _, _, _, _, ⟨_, _, hout⟩ | ⟨_, hout⟩⟩ := recordNarrativeReview_eq_ok h
    · cases hout
    · obtain ⟨_, rfl, rfl⟩ := transitionPlan_inj (Except.ok.inj hout).symm
      exact .other ⟨nofun, nofun⟩ rfl
  | reportRequest =>
    obtain ⟨_, _, _, _, _, _, hout⟩ := recordProposalReportRequest_eq_ok h
    obtain ⟨_, rfl, rfl⟩ := transitionPlan_inj hout
    exact .other ⟨nofun, nofun⟩ rfl

end Inversion

section Runs

variable {config : ServiceConfig} {services : Services} {store store' : InMemoryStore}
  {call : Call}

/-- When one proposal changes, the evidence is about that proposal. -/
theorem ApprovalEvidence.changed_iff (h : ApprovalEvidence store) (proposalId : String)
    (hothers : ∀ other, other ≠ proposalId → store'.events other = store.events other ∧
      store'.approvals other = store.approvals other) :
    ApprovalEvidence store' ↔ Paired ProposalWorkflowEventRecord.approvedDecision?
      ProposalApprovalRecordData.approvedDecision? (store'.events proposalId)
      (store'.approvals proposalId) := by
  constructor
  · intro h'
    exact h' proposalId
  · intro h' other
    by_cases hother : other = proposalId
    · rwa [hother]
    · obtain ⟨hevents, happrovals⟩ := hothers other hother
      rw [hevents, happrovals]
      exact h other

theorem ApprovalEvidence.transitioned_iff (h : ApprovalEvidence store) {next : ProposalRecord}
    {event : ProposalWorkflowEventRecord} {approval : Option ProposalApprovalRecordData}
    (happroval : ∀ a ∈ approval, a.proposalId = event.proposalId) :
    ApprovalEvidence (store.transitioned next event approval) ↔
      Paired ProposalWorkflowEventRecord.approvedDecision?
        ProposalApprovalRecordData.approvedDecision? (store.events event.proposalId ++ [event])
        (store.approvals event.proposalId ++ approval.toList) := by
  have happend : ∀ proposalId, (store.transitioned next event approval).approvals proposalId =
      store.approvals proposalId ++
        if proposalId = event.proposalId then approval.toList else [] := by
    intro proposalId
    rw [InMemoryStore.transitioned_approvals]
    cases approval with
    | none => simp
    | some a => simp [List.filter_singleton, happroval a rfl, eq_comm]
  rw [h.changed_iff event.proposalId, happend, if_pos rfl,
    InMemoryStore.transitioned_events, Function.update_self]
  intro other hother
  rw [happend, if_neg hother, List.append_nil, InMemoryStore.transitioned_events,
    Function.update_of_ne hother]
  exact ⟨rfl, rfl⟩

theorem ApprovalEvidence.created (h : ApprovalEvidence store) {proposal : ProposalRecord}
    {version : ProposalVersionRecord} {event : ProposalWorkflowEventRecord}
    {idempotency : ProposalIdempotencyRecord} (hevent : event.approvedDecision? = none) :
    ApprovalEvidence (store.created proposal version event idempotency) := by
  rw [h.changed_iff event.proposalId, InMemoryStore.created_events,
    Function.update_self]
  · exact (h event.proposalId).concat_left_iff.mpr hevent
  · intro other hother
    rw [InMemoryStore.created_events, Function.update_of_ne hother]
    exact ⟨rfl, rfl⟩

/-- An accepted command keeps the evidence exactly when it records its decision once. -/
theorem ApprovalEvidence.accept_iff (h : ApprovalEvidence store) (hids : IdsMatch store)
    (haccept : (inMemoryLifecycle config services).accept store call = some store') :
    ApprovalEvidence store' ↔ RecordsDecisionOnce store call store' := by
  unfold RecordsDecisionOnce
  cases accepted_of_accept hids haccept with
  | replay decided =>
    exact iff_of_true h fun hnone => absurd hnone (not_findsNoReplay_of_reply decided)
  | create command records =>
    refine iff_of_true (h.created (approvedDecision?_of_eventType ?_)) fun _ => ?_
    · rw [records.eventType]
      rfl
    · rw [command]
      trivial
  | @version proposal next version event _ _ _ _ command found records =>
    have hset : ApprovalEvidence (store.setVersion version) := h
    refine iff_of_true ?_ fun _ => ?_
    · rw [hset.transitioned_iff (by simp), Option.toList_none, List.append_nil]
      refine (hset event.proposalId).concat_left_iff.mpr (approvedDecision?_of_eventType ?_)
      rw [records.eventType]
      rfl
    · rw [command]
      trivial
  | @move proposal next event approval response command decided found records keyed =>
    have hnone : FindsNoReplay store call.command := findsNoReplay_of_write decided
    have happroval : ∀ a ∈ approval, a.proposalId = event.proposalId := by
      intro a ha
      rw [records.approvalId a ha, records.eventProposalId]
    rw [h.transitioned_iff happroval, forall_prop_of_true hnone]
    cases recordsEvidence_of_decide decided with
    | transition hcommand heventType =>
      rw [Option.toList_none, List.append_nil, (h event.proposalId).concat_left_iff, hcommand,
        ProposalWorkflowEventRecord.approvedDecision?, heventType, Option.map_eq_none_iff]
    | approval hcommand hdecided hpaired =>
      rw [hcommand] at command ⊢
      obtain rfl := Option.some.inj command
      rw [Option.toList_some, (h event.proposalId).concat_iff hpaired, records.eventProposalId,
        hdecided]
    | other hunpaired hundecided =>
      rw [Option.toList_none, List.append_nil, (h event.proposalId).concat_left_iff]
      refine iff_of_true hundecided ?_
      split
      · next hcommand => exact absurd (congrArg ProposalCommand.kind hcommand) hunpaired.1
      · next hcommand => exact absurd (congrArg ProposalCommand.kind hcommand) hunpaired.2
      · trivial

/-- In a run of accepted commands every approval event has its one approval record, and every
approved record its one event, exactly when each command records its decision once. -/
theorem approval_evidence_iff (config : ServiceConfig) (services : Services) (calls : List Call) :
    EveryState (inMemoryLifecycle config services).accept ApprovalEvidence .empty calls ↔
      EveryStep (inMemoryLifecycle config services).accept RecordsDecisionOnce .empty calls := by
  have hempty : ApprovalEvidence .empty := fun _ => Paired.nil
  refine everyState_iff_of_invariant (I := fun store => ApprovalEvidence store ∧ IdsMatch store)
    (fun _ _ _ hs hstep hq => ⟨(hs.1.accept_iff hs.2 hstep).mpr hq, idsMatch_of_accept hs.2 hstep⟩)
    (fun _ _ _ hs hstep => hs.1.accept_iff hs.2 hstep) ⟨hempty, fun _ _ hp => ?_⟩ hempty
  cases hp

/-- A risk approval is recorded through a generic transition. -/
def approvedByTransition : List Call :=
  [Sample.call 0 0 (Sample.create "key-1"),
    Sample.call 1 1 (Sample.transition "pp_000" .submittedForRiskReview [] none),
    Sample.call 2 2 (Sample.transition "pp_000" .riskApproved [] none)]

theorem approval_evidence_approvedByTransition : ∃ store,
    run (inMemoryLifecycle Sample.config Sample.services).accept .empty approvedByTransition =
      some store ∧ ¬ ApprovalEvidence store := by
  have hview : (run (inMemoryLifecycle Sample.config Sample.services).accept .empty
      approvedByTransition).map (fun store =>
        ((store.events "pp_000").filterMap (·.approvedDecision?), store.approvals "pp_000")) =
      some ([(.risk, none, Sample.clock 2)], []) := by decide +kernel
  obtain ⟨store, hrun, hview⟩ := Option.map_eq_some_iff.mp hview
  obtain ⟨hevents, happrovals⟩ := Prod.mk.inj hview
  refine ⟨store, hrun, fun hevidence => ?_⟩
  have hperm := (paired_iff.mp (hevidence "pp_000")).1
  rw [hevents, happrovals] at hperm
  exact absurd hperm.length_eq (by decide)

end Runs

end LotusAdvise.Proposals

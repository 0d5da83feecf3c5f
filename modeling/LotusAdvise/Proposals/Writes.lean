import LotusAdvise.Proposals.ReplaySearch

/-! # What a command may write

One inversion for each command, over any repository: a command that decides to write has
found what it needed and writes exactly this. The invariants of the stores are case
analyses over `Planned`.
-/

namespace LotusAdvise.Proposals

open Interleaving

variable {S : Type} {config : ServiceConfig} {services : Services}
  {repository : ProposalRepository S} {store : S} {generated : Generated}

theorem loadProposal_eq_ok {proposalId : String} {proposal : ProposalRecord} :
    loadProposal repository store proposalId = .ok proposal ↔
      repository.getProposal store proposalId = some proposal := by
  unfold loadProposal
  split <;> simp [*]

theorem validateExecutionUpdateHandoffIdentity_eq_ok {handoffEvent : ProposalWorkflowEventRecord}
    {payload : ProposalExecutionUpdateRequest} :
    validateExecutionUpdateHandoffIdentity handoffEvent payload = .ok () ↔
      JsonObject.get handoffEvent.reasonJson "execution_request_id" =
          .str payload.executionRequestId ∧
        JsonObject.get handoffEvent.reasonJson "execution_provider" =
          .str payload.executionProvider := by
  simp only [validateExecutionUpdateHandoffIdentity, bind_eq_ok, require_eq_ok]
  exact ⟨fun ⟨_, hid, hprovider⟩ => ⟨hid, hprovider⟩, fun ⟨hid, hprovider⟩ => ⟨(), hid, hprovider⟩⟩

theorem loadVersion_eq_ok {proposalId : String} {versionNo : ℕ} {version : ProposalVersionRecord} :
    loadVersion repository store proposalId versionNo = .ok version ↔
      repository.getVersion store proposalId versionNo = some version := by
  unfold loadVersion
  split <;> simp [*]

/-- The state changes each command can record. -/
inductive Move : ProposalCommand → ProposalWorkflowState → ProposalWorkflowEventType →
    ProposalWorkflowState → Prop where
  | transition {proposalId : String} {payload : ProposalStateTransitionRequest}
    {idempotencyKey : Option String} {state next : ProposalWorkflowState}
    (allowed : Transition state payload.eventType next) :
    Move (.transition proposalId payload idempotencyKey) state payload.eventType next
  | approval {proposalId : String} {payload : ProposalApprovalRequest}
    {idempotencyKey : Option String} {state next : ProposalWorkflowState}
    {eventType : ProposalWorkflowEventType}
    (allowed : Transition state eventType next) (changed : state ≠ next) :
    Move (.approval proposalId payload idempotencyKey) state eventType next
  | executionHandoff {proposalId : String} {payload : ProposalExecutionHandoffRequest}
    {idempotencyKey : Option String} :
    Move (.executionHandoff proposalId payload idempotencyKey) .executionReady .executionRequested
      .executionReady
  | executionUpdate {proposalId : String} {payload : ProposalExecutionUpdateRequest}
    {state : ProposalWorkflowState} (active : state ∉ terminalStates) :
    Move (.executionUpdate proposalId payload) state (executionUpdateEventMap payload.updateStatus).1
      (executionUpdateEventMap payload.updateStatus).2
  | narrativeReview {proposalId : String} {versionNo : ℕ}
    {payload : ProposalNarrativeReviewRequest} {idempotencyKey : Option String}
    {state : ProposalWorkflowState} :
    Move (.narrativeReview proposalId versionNo payload idempotencyKey) state .narrativeReviewed
      state
  | reportRequest {proposalId : String} {report : ProposalReportResponse} {requestedBy : String}
    {relatedVersionNo : ℤ} {includeExecutionSummary includeReviewedNarrative : Bool}
    {proposalNarrativePackage : Option JsonObject} {state : ProposalWorkflowState} :
    Move (.reportRequest proposalId report requestedBy relatedVersionNo includeExecutionSummary
      includeReviewedNarrative proposalNarrativePackage) state .reportRequested state

/-- Only a creation and a new version open a new episode of the log. -/
theorem Move.eventType_ne {command : ProposalCommand} {state next : ProposalWorkflowState}
    {eventType : ProposalWorkflowEventType} (h : Move command state eventType next) :
    eventType ≠ .created ∧ eventType ≠ .newVersionCreated := by
  cases h with
  | transition allowed => exact allowed.eventType_ne
  | approval allowed changed => exact allowed.eventType_ne
  | @executionUpdate _ payload _ _ =>
    cases payload.updateStatus <;> exact ⟨nofun, nofun⟩
  | _ => exact ⟨nofun, nofun⟩

/-- A command that can leave the state as it is cannot change it. -/
theorem Move.eq_of_self {command : ProposalCommand} {state next : ProposalWorkflowState}
    {eventType other : ProposalWorkflowEventType} (h : Move command state eventType state)
    (hother : Move command state other next) : next = state := by
  cases h with
  | transition allowed =>
    obtain ⟨rfl, htype⟩ := allowed.eq_of_self
    cases hother with
    | transition allowed =>
      rw [htype] at allowed
      cases allowed
      rfl
  | approval allowed changed => exact absurd rfl changed
  | executionHandoff => cases hother; rfl
  | executionUpdate active => cases hother; rfl
  | narrativeReview => cases hother; rfl
  | reportRequest => cases hother; rfl

theorem Move.narrativeReviewed {proposalId : String} {versionNo : ℕ}
    {payload : ProposalNarrativeReviewRequest} {idempotencyKey : Option String}
    {state next : ProposalWorkflowState} {eventType : ProposalWorkflowEventType}
    (h : Move (.narrativeReview proposalId versionNo payload idempotencyKey) state eventType next) :
    eventType = .narrativeReviewed := by
  cases h
  rfl

/-- How the aggregate, the event and the approval of a transition relate to the aggregate read. -/
structure RecordsMove (call : Call) (proposal next : ProposalRecord)
    (event : ProposalWorkflowEventRecord) (approval : Option ProposalApprovalRecordData) :
    Prop where
  nextId : next.proposalId = proposal.proposalId
  nextVersionNo : next.currentVersionNo = proposal.currentVersionNo
  nextState : next.currentState = event.toState
  eventId : event.eventId = call.generated.eventId
  eventProposalId : event.proposalId = proposal.proposalId
  fromState : event.fromState = some proposal.currentState
  approvalId : ∀ a ∈ approval, a.proposalId = proposal.proposalId
  move : Move call.command proposal.currentState event.eventType event.toState

/-- How the version, the event and the aggregate of a new version relate to the aggregate read. -/
structure RecordsVersion (call : Call) (proposal next : ProposalRecord)
    (version : ProposalVersionRecord) (event : ProposalWorkflowEventRecord) : Prop where
  active : proposal.currentState ∉ terminalStates
  versionId : version.proposalVersionId = call.generated.proposalVersionId
  versionProposalId : version.proposalId = proposal.proposalId
  versionNo : version.versionNo = proposal.currentVersionNo + 1
  nextId : next.proposalId = proposal.proposalId
  nextVersionNo : next.currentVersionNo = proposal.currentVersionNo + 1
  nextState : next.currentState = .draft
  eventProposalId : event.proposalId = proposal.proposalId
  eventId : event.eventId = call.generated.eventId
  eventType : event.eventType = .newVersionCreated
  fromState : event.fromState = some proposal.currentState
  toState : event.toState = .draft
  relatedVersionNo : event.relatedVersionNo = some (proposal.currentVersionNo + 1 : ℤ)

/-- The records of a creation. -/
structure RecordsCreation (call : Call) (proposal : ProposalRecord)
    (version : ProposalVersionRecord) (event : ProposalWorkflowEventRecord)
    (idempotency : ProposalIdempotencyRecord) : Prop where
  proposalId : proposal.proposalId = call.generated.proposalId
  currentState : proposal.currentState = .draft
  currentVersionNo : proposal.currentVersionNo = 1
  versionId : version.proposalVersionId = call.generated.proposalVersionId
  versionProposalId : version.proposalId = call.generated.proposalId
  versionNo : version.versionNo = 1
  eventId : event.eventId = call.generated.eventId
  eventProposalId : event.proposalId = call.generated.proposalId
  eventType : event.eventType = .created
  fromState : event.fromState = none
  toState : event.toState = .draft
  relatedVersionNo : event.relatedVersionNo = some 1
  idempotencyProposalId : idempotency.proposalId = call.generated.proposalId
  idempotencyVersionNo : idempotency.proposalVersionNo = 1

/-- A write that moves the aggregate it expects, and nothing else. -/
def transitionPlan (proposal next : ProposalRecord) (event : ProposalWorkflowEventRecord)
    (approval : Option ProposalApprovalRecordData) (response : ProposalResponse) :
    Outcome RepositoryWrite ProposalResponse :=
  .write (.transitionProposal next event approval (some proposal.currentState)
    (some proposal.currentVersionNo)) [] response

theorem transitionPlan_inj {proposal other next next' : ProposalRecord}
    {event event' : ProposalWorkflowEventRecord} {approval approval' : Option ProposalApprovalRecordData}
    {response response' : ProposalResponse}
    (h : transitionPlan proposal next event approval response =
      transitionPlan other next' event' approval' response') :
    next = next' ∧ event = event' ∧ approval = approval' := by
  simp only [transitionPlan, Outcome.write.injEq, RepositoryWrite.transitionProposal.injEq] at h
  exact ⟨h.1.1, h.1.2.1, h.1.2.2.1⟩

section Records

variable {proposal : ProposalRecord} {proposalId requestHash : String}
  {idempotencyKey : Option String} {out : Outcome RepositoryWrite ProposalResponse}

theorem recordStateTransition_eq_ok {payload : ProposalStateTransitionRequest}
    (h : recordStateTransition config generated proposal proposalId payload idempotencyKey
      requestHash = .ok out) :
    ∃ toState response, Transition proposal.currentState payload.eventType toState ∧
      out = transitionPlan proposal
        { proposal with currentState := toState, lastEventAt := generated.now }
        (buildStateTransitionEvent generated.eventId proposal payload toState generated.now
          idempotencyKey requestHash) none response := by
  simp only [recordStateTransition, bind_eq_ok, mapError_eq_ok] at h
  obtain ⟨_, _, toState, hto, h⟩ := h
  cases h
  exact ⟨toState, _, transition_of_resolve hto, rfl⟩

theorem recordApprovalTransition_resolved {payload : ProposalApprovalRequest}
    (h : recordApprovalTransition config generated proposal proposalId payload idempotencyKey
      requestHash = .ok out) :
    ∃ eventType toState response,
      resolveApprovalTransition proposal.currentState payload.approvalType payload.approved =
        .ok (eventType, toState) ∧
      out = transitionPlan proposal
        { proposal with currentState := toState, lastEventAt := generated.now }
        (buildApprovalTransitionEvent generated.eventId proposal payload eventType toState
          generated.now idempotencyKey requestHash)
        (some (buildApprovalRecord generated.approvalId proposal.proposalId payload generated.now
          idempotencyKey requestHash)) response := by
  simp only [recordApprovalTransition, bind_eq_ok, mapError_eq_ok] at h
  obtain ⟨_, _, ⟨eventType, toState⟩, hto, h⟩ := h
  cases h
  exact ⟨eventType, toState, _, hto, rfl⟩

theorem recordApprovalTransition_eq_ok {payload : ProposalApprovalRequest}
    (h : recordApprovalTransition config generated proposal proposalId payload idempotencyKey
      requestHash = .ok out) :
    ∃ eventType toState response, Transition proposal.currentState eventType toState ∧
      proposal.currentState ≠ toState ∧
      out = transitionPlan proposal
        { proposal with currentState := toState, lastEventAt := generated.now }
        (buildApprovalTransitionEvent generated.eventId proposal payload eventType toState
          generated.now idempotencyKey requestHash)
        (some (buildApprovalRecord generated.approvalId proposal.proposalId payload generated.now
          idempotencyKey requestHash)) response := by
  obtain ⟨eventType, toState, response, hto, hout⟩ := recordApprovalTransition_resolved h
  obtain ⟨hmove, hne⟩ := transition_of_resolveApproval hto
  exact ⟨eventType, toState, response, hmove, hne, hout⟩

theorem recordExecutionHandoff_eq_ok {payload : ProposalExecutionHandoffRequest}
    (h : recordExecutionHandoff config generated proposal payload idempotencyKey requestHash =
      .ok out) :
    ∃ response, proposal.currentState = .executionReady ∧
      out = transitionPlan proposal { proposal with lastEventAt := generated.now }
        (buildExecutionHandoffRequestedEvent generated.eventId proposal payload generated.now
          (orText payload.externalRequestId generated.executionRequestId) idempotencyKey
          requestHash) none response := by
  simp only [recordExecutionHandoff, bind_eq_ok, require_eq_ok] at h
  obtain ⟨_, _, _, hready, h⟩ := h
  cases h
  exact ⟨_, hready, rfl⟩

theorem recordExecutionUpdateEvent_eq_ok {payload : ProposalExecutionUpdateRequest}
    {handoffEvent : ProposalWorkflowEventRecord}
    (h : recordExecutionUpdateEvent services generated proposal handoffEvent payload requestHash =
      .ok out) :
    ∃ occurredAt, proposal.currentState ∉ terminalStates ∧
      resolveValidExecutionUpdateTimestamp services payload generated.now handoffEvent =
        .ok occurredAt ∧
      out = transitionPlan proposal
        { proposal with
          currentState := (executionUpdateEventMap payload.updateStatus).2
          lastEventAt := occurredAt }
        (buildExecutionUpdateEvent generated.eventId proposal.proposalId proposal.currentState
          payload (executionUpdateEventMap payload.updateStatus).1
          (executionUpdateEventMap payload.updateStatus).2 occurredAt requestHash
          handoffEvent.relatedVersionNo) none (.executionStatus none) := by
  simp only [recordExecutionUpdateEvent, resolveExecutionUpdateEvent, bind_eq_ok,
    require_eq_ok] at h
  obtain ⟨_, hactive, occurredAt, hat, h⟩ := h
  cases h
  exact ⟨occurredAt, hactive, hat, rfl⟩

end Records

/-- A command with a replay search answers with the record found, or records when there is none. -/
inductive ReplayOrRecord {α : Type} (search : Except ProposalError (Option α))
    (replay : α → Plan) (record : Plan) (out : Outcome RepositoryWrite ProposalResponse) : Prop where
  | replay (found : α) (hit : search = .ok (some found)) (answer : replay found = .ok out)
  | record (miss : search = .ok none) (answer : record = .ok out)

section Shapes

variable {proposalId : String} {idempotencyKey : Option String}
  {out : Outcome RepositoryWrite ProposalResponse}

theorem transitionProposalState_eq_ok {payload : ProposalStateTransitionRequest}
    (h : transitionProposalState config services repository store generated proposalId payload
      idempotencyKey = .ok out) :
    ∃ proposal, repository.getProposal store proposalId = some proposal ∧
      ReplayOrRecord
        (loadReplayedEvent repository store proposalId
          (normalizeOptionalIdempotencyKey idempotencyKey)
          (services.hashCanonicalPayload payload.dump))
        (fun event => .ok (.reply (.stateTransition
          { proposalId, currentState := event.toState
            latestWorkflowEvent := toWorkflowEvent event })))
        (recordStateTransition config generated proposal proposalId payload
          (normalizeOptionalIdempotencyKey idempotencyKey)
          (services.hashCanonicalPayload payload.dump)) out := by
  simp only [transitionProposalState, bind_eq_ok, loadProposal_eq_ok] at h
  obtain ⟨proposal, hp, found, hs, h⟩ := h
  refine ⟨proposal, hp, ?_⟩
  cases found with
  | none => exact .record hs h
  | some event => exact .replay event hs h

theorem recordProposalApproval_eq_ok {payload : ProposalApprovalRequest}
    (h : recordProposalApproval config services repository store generated proposalId payload
      idempotencyKey = .ok out) :
    ∃ proposal, repository.getProposal store proposalId = some proposal ∧
      ReplayOrRecord
        (loadReplayedApproval repository store proposalId
          (normalizeOptionalIdempotencyKey idempotencyKey)
          (services.hashCanonicalPayload payload.dump))
        (fun approval => do
          match ← loadReplayedEvent repository store proposalId
            (normalizeOptionalIdempotencyKey idempotencyKey)
            (services.hashCanonicalPayload payload.dump) with
          | none => .error (.lifecycle "PROPOSAL_IDEMPOTENCY_REFERENT_NOT_FOUND")
          | some event => .ok (.reply (.stateTransition
            { proposalId, currentState := event.toState
              latestWorkflowEvent := toWorkflowEvent event
              approval := some (toApprovalRecord approval) })))
        (recordApprovalTransition config generated proposal proposalId payload
          (normalizeOptionalIdempotencyKey idempotencyKey)
          (services.hashCanonicalPayload payload.dump)) out := by
  simp only [recordProposalApproval, bind_eq_ok, loadProposal_eq_ok] at h
  obtain ⟨proposal, hp, found, hs, h⟩ := h
  refine ⟨proposal, hp, ?_⟩
  cases found with
  | none => exact .record hs h
  | some approval => exact .replay approval hs h

theorem requestProposalExecutionHandoff_eq_ok {payload : ProposalExecutionHandoffRequest}
    (h : requestProposalExecutionHandoff config services repository store generated proposalId
      payload idempotencyKey = .ok out) :
    ∃ proposal, repository.getProposal store proposalId = some proposal ∧
      ReplayOrRecord
        (loadReplayedEvent repository store proposalId
          (normalizeOptionalIdempotencyKey idempotencyKey)
          (services.hashCanonicalPayload payload.dump))
        (fun event => .ok (.reply (.executionHandoff
          (buildExecutionHandoffReplayResponse services proposal event))))
        (recordExecutionHandoff config generated proposal payload
          (normalizeOptionalIdempotencyKey idempotencyKey)
          (services.hashCanonicalPayload payload.dump)) out := by
  simp only [requestProposalExecutionHandoff, bind_eq_ok, loadProposal_eq_ok] at h
  obtain ⟨proposal, hp, found, hs, h⟩ := h
  refine ⟨proposal, hp, ?_⟩
  cases found with
  | none => exact .record hs h
  | some event => exact .replay event hs h

theorem recordProposalExecutionUpdate_eq_ok {payload : ProposalExecutionUpdateRequest}
    (h : recordProposalExecutionUpdate services repository store generated proposalId payload =
      .ok out) :
    ∃ proposal handoffEvent, repository.getProposal store proposalId = some proposal ∧
      latestExecutionRequestedEvent (repository.listEvents store proposalId) = some handoffEvent ∧
      validateExecutionUpdateHandoffIdentity handoffEvent payload = .ok () ∧
      ReplayOrRecord
        (findReplayedEvent (repository.listEvents store proposalId)
          (some (buildExecutionUpdateIdempotencyKey payload))
          (services.hashCanonicalPayload payload.dump))
        (fun _ => do
          let response ←
            buildExecutionStatusResponse proposal (repository.listEvents store proposalId)
          return .reply (.executionStatus (some response)))
        (recordExecutionUpdateEvent services generated proposal handoffEvent payload
          (services.hashCanonicalPayload payload.dump)) out := by
  simp only [recordProposalExecutionUpdate, bind_eq_ok, loadProposal_eq_ok] at h
  obtain ⟨proposal, hp, h⟩ := h
  split at h
  · cases h
  · next handoffEvent hhandoff =>
    simp only [bind_eq_ok] at h
    obtain ⟨_, hid, found, hs, h⟩ := h
    refine ⟨proposal, handoffEvent, hp, hhandoff, hid, ?_⟩
    cases found with
    | none => exact .record hs h
    | some event => exact .replay event hs h

theorem recordNarrativeReview_eq_ok {versionNo : ℕ} {payload : ProposalNarrativeReviewRequest}
    (h : recordNarrativeReview services repository store generated proposalId versionNo payload
      idempotencyKey = .ok out) :
    ∃ proposal version narrative, repository.getProposal store proposalId = some proposal ∧
      repository.getVersion store proposalId versionNo = some version ∧
      reviewableNarrative version = .ok narrative ∧
      ReplayOrRecord
        (findReplayedReviewEvent (repository.listEvents store proposal.proposalId)
          (normalizeOptionalIdempotencyKey idempotencyKey)
          (services.hashCanonicalPayload (narrativeReviewDump version
            (services.toStr (JsonObject.get narrative "narrative_id")) payload)))
        (fun event => .ok (.reply (.narrativeReview
          (buildNarrativeReviewResponse services proposal event true))))
        (.ok (transitionPlan proposal { proposal with lastEventAt := generated.now }
          (buildReviewEvent generated.eventId proposal version
            (JsonObject.get narrative "narrative_id") (services.hashCanonicalPayload narrative)
            payload (normalizeOptionalIdempotencyKey idempotencyKey)
            (services.hashCanonicalPayload (narrativeReviewDump version
              (services.toStr (JsonObject.get narrative "narrative_id")) payload)) generated.now)
          none (.narrativeReview (buildNarrativeReviewResponse services
            { proposal with lastEventAt := generated.now }
            (buildReviewEvent generated.eventId proposal version
              (JsonObject.get narrative "narrative_id") (services.hashCanonicalPayload narrative)
              payload (normalizeOptionalIdempotencyKey idempotencyKey)
              (services.hashCanonicalPayload (narrativeReviewDump version
                (services.toStr (JsonObject.get narrative "narrative_id")) payload)) generated.now)
            false)))) out := by
  simp only [recordNarrativeReview, bind_eq_ok, loadProposal_eq_ok, loadVersion_eq_ok] at h
  obtain ⟨proposal, hp, version, hv, narrative, hn, found, hs, h⟩ := h
  refine ⟨proposal, version, narrative, hp, hv, hn, ?_⟩
  cases found with
  | none => exact .record hs h
  | some event => exact .replay event hs h

theorem recordProposalReportRequest_latest {report : ProposalReportResponse} {requestedBy : String}
    {relatedVersionNo : ℤ} {includeExecutionSummary includeReviewedNarrative : Bool}
    {proposalNarrativePackage : Option JsonObject}
    (h : recordProposalReportRequest services repository store generated proposalId report
      requestedBy relatedVersionNo includeExecutionSummary includeReviewedNarrative
      proposalNarrativePackage = .ok out) :
    ∃ proposal occurredAt lastEventAt response,
      repository.getProposal store proposalId = some proposal ∧
      services.parseTimestamp report.generatedAt = .ok occurredAt ∧
      proposal.lastEventAt.max? occurredAt = some lastEventAt ∧
      out = transitionPlan proposal { proposal with lastEventAt }
        (buildReportRequestedEvent generated.eventId proposal requestedBy occurredAt
          (reportReason report relatedVersionNo includeExecutionSummary includeReviewedNarrative
            proposalNarrativePackage) relatedVersionNo) none response := by
  simp only [recordProposalReportRequest, bind_eq_ok, loadProposal_eq_ok] at h
  obtain ⟨proposal, hp, occurredAt, hat, h⟩ := h
  split at h
  · cases h
  · next lastEventAt hmax =>
    cases h
    exact ⟨proposal, occurredAt, lastEventAt, _, hp, hat, hmax, rfl⟩

theorem recordProposalReportRequest_eq_ok {report : ProposalReportResponse} {requestedBy : String}
    {relatedVersionNo : ℤ} {includeExecutionSummary includeReviewedNarrative : Bool}
    {proposalNarrativePackage : Option JsonObject}
    (h : recordProposalReportRequest services repository store generated proposalId report
      requestedBy relatedVersionNo includeExecutionSummary includeReviewedNarrative
      proposalNarrativePackage = .ok out) :
    ∃ proposal occurredAt lastEventAt response,
      repository.getProposal store proposalId = some proposal ∧
      services.parseTimestamp report.generatedAt = .ok occurredAt ∧
      out = transitionPlan proposal { proposal with lastEventAt }
        (buildReportRequestedEvent generated.eventId proposal requestedBy occurredAt
          (reportReason report relatedVersionNo includeExecutionSummary includeReviewedNarrative
            proposalNarrativePackage) relatedVersionNo) none response := by
  obtain ⟨proposal, occurredAt, lastEventAt, response, hp, hat, _, hout⟩ :=
    recordProposalReportRequest_latest h
  exact ⟨proposal, occurredAt, lastEventAt, response, hp, hat, hout⟩

theorem buildProposalVersionRecord_eq_ok {proposalVersionId requestHash : String} {versionNo : ℕ}
    {proposalResult : ProposalResult} {materialization : ProposalVersionMaterialization}
    {createdAt : DateTime} {version : ProposalVersionRecord}
    (h : buildProposalVersionRecord config services proposalVersionId proposalId versionNo
      requestHash proposalResult materialization createdAt = .ok version) :
    version.proposalVersionId = proposalVersionId ∧ version.proposalId = proposalId ∧
      version.versionNo = versionNo := by
  simp only [buildProposalVersionRecord, bind_eq_ok] at h
  obtain ⟨_, _, h⟩ := h
  cases h
  exact ⟨rfl, rfl, rfl⟩

theorem materializeNextVersion_eq_ok {proposal : ProposalRecord} {payload : ProposalVersionRequest}
    {correlationId : Option String} {contextResolutionOverride replayLineage : Option JsonObject}
    {version : ProposalVersionRecord}
    (h : materializeNextVersion config services generated proposal payload correlationId
      contextResolutionOverride replayLineage = .ok version) :
    version.proposalVersionId = generated.proposalVersionId ∧
      version.proposalId = proposal.proposalId ∧
      version.versionNo = proposal.currentVersionNo + 1 := by
  simp only [materializeNextVersion, bind_eq_ok] at h
  obtain ⟨_, _, _, _, _, _, _, _, _, _, h⟩ := h
  exact buildProposalVersionRecord_eq_ok h

theorem materializeFirstVersion_eq_ok {arguments : CreateProposalArguments} {key : String}
    {resolved : ResolvedProposalContext} {version : ProposalVersionRecord}
    (h : materializeFirstVersion config services generated arguments key = .ok (resolved, version)) :
    version.proposalVersionId = generated.proposalVersionId ∧
      version.proposalId = generated.proposalId ∧ version.versionNo = 1 := by
  simp only [materializeFirstVersion, bind_eq_ok] at h
  obtain ⟨_, _, _, _, _, _, _, _, v, hv, h⟩ := h
  cases h
  exact buildProposalVersionRecord_eq_ok hv

theorem createProposalVersion_eq_ok {payload : ProposalVersionRequest}
    {correlationId : Option String} {replayLineage contextResolutionOverride : Option JsonObject}
    (h : createProposalVersion config services repository store generated proposalId payload
      correlationId replayLineage contextResolutionOverride = .ok out) :
    ∃ proposal version, repository.getProposal store proposalId = some proposal ∧
      validateCreateVersionState proposal payload.expectedCurrentVersionNo = .ok () ∧
      materializeNextVersion config services generated proposal payload correlationId
        contextResolutionOverride replayLineage = .ok version ∧
      out = .write (.createVersion version)
        [.transitionProposal
          { proposal with
            currentVersionNo := version.versionNo
            currentState := .draft
            lastEventAt := generated.now }
          (buildNewVersionCreatedEvent generated.eventId proposal payload.createdBy generated.now
            version.versionNo correlationId) none (some proposal.currentState)
          (some (version.versionNo - 1))]
        (.create (toCreateResponse
          { proposal with
            currentVersionNo := version.versionNo
            currentState := .draft
            lastEventAt := generated.now } version
          (buildNewVersionCreatedEvent generated.eventId proposal payload.createdBy generated.now
            version.versionNo correlationId))) := by
  simp only [createProposalVersion, bind_eq_ok, loadProposal_eq_ok] at h
  obtain ⟨proposal, hp, _, hstate, version, hv, h⟩ := h
  cases h
  exact ⟨proposal, version, hp, hstate, hv, rfl⟩

/-- The write of a creation, with the records it is made of. -/
def creationPlan (services : Services) (generated : Generated) (arguments : CreateProposalArguments)
    (idempotencyKey : String) (resolved : ResolvedProposalContext)
    (version : ProposalVersionRecord) : Outcome RepositoryWrite ProposalResponse :=
  let proposal := buildProposalRecord generated arguments resolved
  let event := buildProposalCreatedEvent generated.eventId generated.proposalId
    arguments.payload.createdBy generated.now 1 arguments.correlationId
  .write (.createProposal proposal version event
    { idempotencyKey, requestHash := services.hashCanonicalPayload arguments.payload.dump
      proposalId := generated.proposalId, proposalVersionNo := 1, createdAt := generated.now }) []
    (.create (toCreateResponse proposal version event))

theorem createProposalCommand_eq_ok {arguments : CreateProposalArguments}
    (h : createProposalCommand config services repository store generated arguments = .ok out) :
    ∃ key, normalizeOptionalIdempotencyKey arguments.idempotencyKey = some key ∧
      ((∃ existing response, repository.getIdempotency store key = some existing ∧
          (existing.requestHash = services.hashCanonicalPayload arguments.payload.dump ∨
            isMatchingLegacyReplay services repository store arguments.payload existing = true) ∧
          buildCreateResponseFromReplayReferents repository store existing.proposalId
            existing.proposalVersionNo = .ok response ∧
          out = .reply (.create response)) ∨
        repository.getIdempotency store key = none ∧ ∃ resolved version,
          materializeFirstVersion config services generated arguments key =
            .ok (resolved, version) ∧
          out = creationPlan services generated arguments key resolved version) := by
  simp only [createProposalCommand, bind_eq_ok] at h
  obtain ⟨key, hkey, _, _, h⟩ := h
  refine ⟨key, ?_, ?_⟩
  · simp only [requireProposalIdempotencyKey] at hkey
    split at hkey <;> cases hkey
    assumption
  · split at h
    · next existing hex =>
      split at h
      · next hmatch =>
        simp only [bind_eq_ok] at h
        obtain ⟨response, hresponse, h⟩ := h
        cases h
        exact .inl ⟨existing, response, hex, hmatch, hresponse, rfl⟩
      · cases h
    · next hnone =>
      simp only [bind_eq_ok] at h
      obtain ⟨⟨resolved, version⟩, hv, h⟩ := h
      cases h
      exact .inr ⟨hnone, resolved, version, hv, rfl⟩

end Shapes

/-- Everything a command may write, with what it read before. -/
inductive Planned (services : Services) (repository : ProposalRepository S) (store : S)
    (call : Call) : RepositoryWrite → List RepositoryWrite → ProposalResponse → Prop where
  | create {arguments : CreateProposalArguments} {proposal : ProposalRecord}
    {version : ProposalVersionRecord} {event : ProposalWorkflowEventRecord}
    {idempotency : ProposalIdempotencyRecord} (command : call.command = .create arguments)
    (key : normalizeOptionalIdempotencyKey arguments.idempotencyKey =
      some idempotency.idempotencyKey)
    (hash : idempotency.requestHash = services.hashCanonicalPayload arguments.payload.dump)
    (unbound : repository.getIdempotency store idempotency.idempotencyKey = none)
    (records : RecordsCreation call proposal version event idempotency) :
    Planned services repository store call (.createProposal proposal version event idempotency) []
      (.create (toCreateResponse proposal version event))
  | version {proposalId : String} {proposal next : ProposalRecord}
    {version : ProposalVersionRecord} {event : ProposalWorkflowEventRecord}
    {payload : ProposalVersionRequest} {correlationId : Option String}
    {replayLineage contextResolutionOverride : Option JsonObject}
    (command : call.command = .createVersion proposalId payload correlationId replayLineage
      contextResolutionOverride)
    (found : repository.getProposal store proposalId = some proposal)
    (records : RecordsVersion call proposal next version event) :
    Planned services repository store call (.createVersion version)
      [.transitionProposal next event none (some proposal.currentState)
        (some proposal.currentVersionNo)]
      (.create (toCreateResponse next version event))
  | move {proposalId : String} {proposal next : ProposalRecord}
    {event : ProposalWorkflowEventRecord} {approval : Option ProposalApprovalRecordData}
    {response : ProposalResponse} (command : call.command.proposalId? = some proposalId)
    (found : repository.getProposal store proposalId = some proposal)
    (records : RecordsMove call proposal next event approval)
    (keyed : ∀ key, call.command.searchKey? = some key →
      RecordsKeyed services repository store call.command event approval key) :
    Planned services repository store call
      (.transitionProposal next event approval (some proposal.currentState)
        (some proposal.currentVersionNo)) [] response

section Inversion

variable {call : Call} {w : RepositoryWrite} {rest : List RepositoryWrite} {r : ProposalResponse}

/-- A command that decides to write has planned one of three things. -/
theorem planned_of_decide
    (h : decideCommand config services repository store call = .ok (.write w rest r)) :
    Planned services repository store call w rest r := by
  obtain ⟨command, generated⟩ := call
  cases command with
  | create arguments =>
    obtain ⟨key, hkey, ⟨_, _, _, _, _, hout⟩ | ⟨hnone, resolved, version, hv, hout⟩⟩ :=
      createProposalCommand_eq_ok h
    · cases hout
    · obtain ⟨hvid, hvpid, hvno⟩ := materializeFirstVersion_eq_ok hv
      cases hout
      exact .create rfl hkey rfl hnone
        ⟨rfl, rfl, rfl, hvid, hvpid, hvno, rfl, rfl, rfl, rfl, rfl, rfl, rfl, rfl⟩
  | createVersion proposalId payload correlationId replayLineage contextResolutionOverride =>
    obtain ⟨proposal, version, hp, hstate, hv, hout⟩ := createProposalVersion_eq_ok h
    obtain ⟨hvid, hvpid, hvno⟩ := materializeNextVersion_eq_ok hv
    simp only [validateCreateVersionState, bind_eq_ok, require_eq_ok] at hstate
    obtain ⟨_, hactive, _⟩ := hstate
    have hpred : version.versionNo - 1 = proposal.currentVersionNo := by omega
    rw [hpred] at hout
    cases hout
    refine .version rfl hp
      ⟨hactive, hvid, hvpid, hvno, rfl, hvno, rfl, rfl, rfl, rfl, rfl, rfl, ?_⟩
    simp [buildNewVersionCreatedEvent, hvno]
  | transition proposalId payload idempotencyKey =>
    obtain ⟨proposal, hp, ⟨_, _, hout⟩ | ⟨miss, hout⟩⟩ := transitionProposalState_eq_ok h
    · cases hout
    · obtain ⟨toState, response, hmove, hout⟩ := recordStateTransition_eq_ok hout
      cases hout
      refine .move rfl hp ⟨rfl, rfl, rfl, rfl, rfl, rfl, by simp, .transition hmove⟩
        fun key hkey => ?_
      have hkey := (presentKey_normalize idempotencyKey).trans hkey
      exact ⟨newestCarrying_of_miss (mapError_eq_ok.mp miss) hkey,
        ⟨_, rfl, written_withIdempotency _ hkey _, by simp⟩, rfl⟩
  | approval proposalId payload idempotencyKey =>
    obtain ⟨proposal, hp, ⟨_, _, hout⟩ | ⟨miss, hout⟩⟩ := recordProposalApproval_eq_ok h
    · simp only [bind_eq_ok] at hout
      obtain ⟨found, _, hout⟩ := hout
      cases found <;> cases hout
    · obtain ⟨eventType, toState, response, hmove, hne, hout⟩ :=
        recordApprovalTransition_eq_ok hout
      cases hout
      refine .move rfl hp ⟨rfl, rfl, rfl, rfl, rfl, rfl, ?_, .approval hmove hne⟩
        fun key hkey => ?_
      · rintro a ⟨⟩
        rfl
      · have hkey := (presentKey_normalize idempotencyKey).trans hkey
        refine ⟨newestCarrying_of_miss (mapError_eq_ok.mp miss) hkey,
          ⟨_, rfl, written_withIdempotency _ hkey _, ?_⟩, rfl⟩
        rintro a ⟨⟩
        exact written_withIdempotency _ hkey _
  | executionHandoff proposalId payload idempotencyKey =>
    obtain ⟨proposal, hp, ⟨_, _, hout⟩ | ⟨miss, hout⟩⟩ := requestProposalExecutionHandoff_eq_ok h
    · cases hout
    · obtain ⟨response, hready, hout⟩ := recordExecutionHandoff_eq_ok hout
      cases hout
      refine .move rfl hp ⟨rfl, rfl, hready, rfl, rfl, rfl, by simp, ?_⟩ fun key hkey => ?_
      · rw [hready]
        exact .executionHandoff
      · have hkey := (presentKey_normalize idempotencyKey).trans hkey
        exact ⟨newestCarrying_of_miss (mapError_eq_ok.mp miss) hkey,
          ⟨_, rfl, written_executionHandoffReason _ _ hkey, by simp⟩, rfl⟩
  | executionUpdate proposalId payload =>
    obtain ⟨proposal, handoffEvent, hp, _, _, ⟨_, _, hout⟩ | ⟨miss, hout⟩⟩ :=
      recordProposalExecutionUpdate_eq_ok h
    · simp only [bind_eq_ok] at hout
      obtain ⟨_, _, hout⟩ := hout
      cases hout
    · obtain ⟨occurredAt, hactive, _, hout⟩ := recordExecutionUpdateEvent_eq_ok hout
      cases hout
      refine .move rfl hp ⟨rfl, rfl, rfl, rfl, rfl, rfl, by simp, .executionUpdate hactive⟩ ?_
      rintro key ⟨⟩
      have hkey := presentKey_some (executionUpdateKey_ne_empty payload)
      exact ⟨newestCarrying_of_miss (mapError_eq_ok.mp miss) hkey,
        ⟨_, rfl, written_executionUpdateReason payload, by simp⟩, rfl⟩
  | narrativeReview proposalId versionNo payload idempotencyKey =>
    obtain ⟨proposal, version, narrative, hp, hv, hn, ⟨_, _, hout⟩ | ⟨miss, hout⟩⟩ :=
      recordNarrativeReview_eq_ok h
    · cases hout
    · cases hout
      refine .move rfl hp ⟨rfl, rfl, rfl, rfl, rfl, rfl, by simp, .narrativeReview⟩
        fun key hkey => ?_
      have hkey := (presentKey_normalize idempotencyKey).trans hkey
      refine ⟨?_, ⟨_, ?_, written_withIdempotency _ hkey _, by simp⟩, rfl⟩
      · simp only [newestSearched, searchedMetadata, hp]
        exact newestCarrying_of_miss (mapError_eq_ok.mp miss) hkey
      · simp only [requestHash, requestDump, hv, Option.bind_some, hn, Option.map_some]
  | reportRequest proposalId report requestedBy relatedVersionNo includeExecutionSummary
      includeReviewedNarrative proposalNarrativePackage =>
    obtain ⟨proposal, occurredAt, lastEventAt, response, hp, _, hout⟩ :=
      recordProposalReportRequest_eq_ok h
    cases hout
    exact .move rfl hp ⟨rfl, rfl, rfl, rfl, rfl, rfl, by simp, .reportRequest⟩ nofun

/-- A command that replies without writing is a creation, or it found a record of its key. -/
theorem replays_of_decide
    (h : decideCommand config services repository store call = .ok (.reply r)) :
    (∃ arguments, call.command = .create arguments) ∨
      ∃ key hash metadata,
        FindsReplay services repository store call.command key hash metadata := by
  obtain ⟨command, generated⟩ := call
  cases command with
  | create arguments => exact .inl ⟨arguments, rfl⟩
  | createVersion proposalId payload correlationId replayLineage contextResolutionOverride =>
    obtain ⟨_, _, _, _, _, hout⟩ := createProposalVersion_eq_ok h
    cases hout
  | transition proposalId payload idempotencyKey =>
    right
    obtain ⟨proposal, hp, ⟨event, hit, _⟩ | ⟨_, hout⟩⟩ := transitionProposalState_eq_ok h
    · obtain ⟨key, hkey, hnewest, hagree⟩ := newestCarrying_of_hit (mapError_eq_ok.mp hit)
      exact ⟨key, _, _, (presentKey_normalize _).symm.trans hkey, rfl, hnewest, hagree, _, _, rfl, hp⟩
    · obtain ⟨_, _, _, hout⟩ := recordStateTransition_eq_ok hout
      cases hout
  | approval proposalId payload idempotencyKey =>
    right
    obtain ⟨proposal, hp, ⟨approval, hit, _⟩ | ⟨_, hout⟩⟩ := recordProposalApproval_eq_ok h
    · obtain ⟨key, hkey, hnewest, hagree⟩ := newestCarrying_of_hit (mapError_eq_ok.mp hit)
      exact ⟨key, _, _, (presentKey_normalize _).symm.trans hkey, rfl, hnewest, hagree, _, _, rfl, hp⟩
    · obtain ⟨_, _, _, _, _, hout⟩ := recordApprovalTransition_eq_ok hout
      cases hout
  | executionHandoff proposalId payload idempotencyKey =>
    right
    obtain ⟨proposal, hp, ⟨event, hit, _⟩ | ⟨_, hout⟩⟩ := requestProposalExecutionHandoff_eq_ok h
    · obtain ⟨key, hkey, hnewest, hagree⟩ := newestCarrying_of_hit (mapError_eq_ok.mp hit)
      exact ⟨key, _, _, (presentKey_normalize _).symm.trans hkey, rfl, hnewest, hagree, _, _, rfl, hp⟩
    · obtain ⟨_, _, hout⟩ := recordExecutionHandoff_eq_ok hout
      cases hout
  | executionUpdate proposalId payload =>
    right
    obtain ⟨proposal, handoffEvent, hp, _, _, ⟨event, hit, _⟩ | ⟨_, hout⟩⟩ :=
      recordProposalExecutionUpdate_eq_ok h
    · obtain ⟨key, hkey, hnewest, hagree⟩ := newestCarrying_of_hit (mapError_eq_ok.mp hit)
      rw [presentKey_some (executionUpdateKey_ne_empty payload)] at hkey
      exact ⟨key, _, _, hkey, rfl, hnewest, hagree, _, _, rfl, hp⟩
    · obtain ⟨_, _, _, hout⟩ := recordExecutionUpdateEvent_eq_ok hout
      cases hout
  | narrativeReview proposalId versionNo payload idempotencyKey =>
    right
    obtain ⟨proposal, version, narrative, hp, hv, hn, ⟨event, hit, _⟩ | ⟨_, hout⟩⟩ :=
      recordNarrativeReview_eq_ok h
    · obtain ⟨key, hkey, hnewest, hagree⟩ := newestCarrying_of_hit (mapError_eq_ok.mp hit)
      refine ⟨key, _, _, (presentKey_normalize _).symm.trans hkey, ?_, ?_, hagree, _, _, rfl, hp⟩
      · simp only [requestHash, requestDump, hv, Option.bind_some, hn, Option.map_some]
      · simpa only [newestSearched, searchedMetadata, hp] using hnewest
    · cases hout
  | reportRequest =>
    obtain ⟨_, _, _, _, _, _, hout⟩ := recordProposalReportRequest_eq_ok h
    cases hout

/-- An execution update writes exactly when no event carries its key, and replays otherwise. -/
theorem executionUpdate_writes_iff {proposalId : String}
    {payload : ProposalExecutionUpdateRequest} {out : Outcome RepositoryWrite ProposalResponse}
    (hcommand : call.command = .executionUpdate proposalId payload)
    (h : decideCommand config services repository store call = .ok out) :
    (∃ w rest r, out = .write w rest r) ↔
      newestCarrying ProposalWorkflowEventRecord.reasonJson
        (repository.listEvents store proposalId) (buildExecutionUpdateIdempotencyKey payload) =
          none := by
  obtain ⟨command, generated⟩ := call
  obtain rfl : command = .executionUpdate proposalId payload := hcommand
  have hkey := presentKey_some (executionUpdateKey_ne_empty payload)
  obtain ⟨proposal, handoffEvent, _, _, _, ⟨event, hit, hout⟩ | ⟨miss, hout⟩⟩ :=
    recordProposalExecutionUpdate_eq_ok h
  · have hfound := ((findReplayedRecord_eq_some hkey).mp (mapError_eq_ok.mp hit)).1
    simp only [bind_eq_ok] at hout
    obtain ⟨_, _, hout⟩ := hout
    cases hout
    simp [hfound]
  · have hnone := (findReplayedRecord_eq_none hkey).mp (mapError_eq_ok.mp miss)
    obtain ⟨occurredAt, _, _, rfl⟩ := recordExecutionUpdateEvent_eq_ok hout
    exact iff_of_true ⟨_, _, _, rfl⟩ hnone

end Inversion

section Conflict

variable {proposalId key hash : String} {idempotencyKey : Option String} {metadata : JsonObject}

theorem findReplayedEvent_conflict {events : List ProposalWorkflowEventRecord}
    (hkey : presentKey idempotencyKey = some key)
    (hnewest : newestCarrying id (events.map (·.reasonJson)) key = some metadata)
    (hhash : ¬ HashAgrees metadata hash) : findReplayedEvent events idempotencyKey hash =
      .error (.idempotencyConflict "IDEMPOTENCY_KEY_CONFLICT: request hash mismatch") := by
  rw [newestCarrying_map, Option.map_eq_some_iff] at hnewest
  obtain ⟨event, hnewest, rfl⟩ := hnewest
  rw [findReplayedEvent, findReplayedRecord_conflict hkey hnewest hhash]
  rfl

theorem loadReplayedApproval_conflict (hkey : presentKey idempotencyKey = some key)
    (hnewest : newestCarrying id ((repository.listApprovals store proposalId).map (·.detailsJson))
      key = some metadata) (hhash : ¬ HashAgrees metadata hash) :
    loadReplayedApproval repository store proposalId idempotencyKey hash =
      .error (.idempotencyConflict "IDEMPOTENCY_KEY_CONFLICT: request hash mismatch") := by
  rw [newestCarrying_map, Option.map_eq_some_iff] at hnewest
  obtain ⟨approval, hnewest, rfl⟩ := hnewest
  rw [loadReplayedApproval, findReplayedRecord_conflict hkey hnewest hhash]
  rfl

/-- A command whose search finds the record of another request fails with a conflict. -/
theorem decide_conflict {call : Call} {proposal : ProposalRecord}
    (habout : call.command.proposalId? = some proposalId)
    (hkey : call.command.searchKey? = some key)
    (hp : repository.getProposal store proposalId = some proposal)
    (hhandoff : AnswersHandoff repository store call.command)
    (hrequest : requestHash services repository store call.command = some hash)
    (hnewest : newestSearched repository store call.command key = some metadata)
    (hhash : ¬ HashAgrees metadata hash) :
    decideCommand config services repository store call =
      .error (.idempotencyConflict "IDEMPOTENCY_KEY_CONFLICT: request hash mismatch") := by
  obtain ⟨command, generated⟩ := call
  have hload := loadProposal_eq_ok.mpr hp
  cases command with
  | create | createVersion | reportRequest => cases hkey
  | transition _ payload idempotencyKey =>
    cases habout
    cases hrequest
    have hkey := (presentKey_normalize idempotencyKey).trans hkey
    have hsearch := findReplayedEvent_conflict hkey hnewest hhash
    simp only [decideCommand, transitionProposalState, hload, loadReplayedEvent, hsearch]
    rfl
  | executionHandoff _ payload idempotencyKey =>
    cases habout
    cases hrequest
    have hkey := (presentKey_normalize idempotencyKey).trans hkey
    have hsearch := findReplayedEvent_conflict hkey hnewest hhash
    simp only [decideCommand, requestProposalExecutionHandoff, hload, loadReplayedEvent, hsearch]
    rfl
  | approval _ payload idempotencyKey =>
    cases habout
    cases hrequest
    have hkey := (presentKey_normalize idempotencyKey).trans hkey
    have hsearch := loadReplayedApproval_conflict hkey hnewest hhash
    simp only [decideCommand, recordProposalApproval, hload, hsearch]
    rfl
  | executionUpdate _ payload =>
    cases habout
    cases hrequest
    cases hkey
    obtain ⟨handoffEvent, hlatest, hids⟩ := hhandoff
    have hvalid := validateExecutionUpdateHandoffIdentity_eq_ok.mpr hids
    have hlatest := Option.mem_def.mp hlatest
    have hkey := presentKey_some (executionUpdateKey_ne_empty payload)
    have hsearch := findReplayedEvent_conflict hkey hnewest hhash
    simp only [decideCommand, recordProposalExecutionUpdate, hload, bind, Except.bind, hlatest,
      hvalid, hsearch]
  | narrativeReview _ versionNo payload idempotencyKey =>
    cases habout
    have hkey := (presentKey_normalize idempotencyKey).trans hkey
    simp only [newestSearched, searchedMetadata, hp] at hnewest
    have hsearch := findReplayedEvent_conflict hkey hnewest hhash
    simp only [requestHash, requestDump, Option.map_bind] at hrequest
    obtain ⟨version, hv, hrequest⟩ := Option.bind_eq_some_iff.mp hrequest
    rcases hn : reviewableNarrative version with e | narrative
    · simp [hn] at hrequest
    · simp only [Function.comp_apply, hn, Option.map_some, Option.some.injEq] at hrequest
      subst hrequest
      simp only [decideCommand, recordNarrativeReview, hload, loadVersion_eq_ok.mpr hv, bind,
        Except.bind, hn, findReplayedReviewEvent, hsearch]

end Conflict

end LotusAdvise.Proposals

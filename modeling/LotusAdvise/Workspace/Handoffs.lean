import LotusAdvise.Workspace.Versions

/-! # Handoffs

A handoff creates a proposal for a session without a lifecycle link, and a new version of the
linked proposal for one that has a link. The link is written when the lifecycle has answered.
-/

namespace LotusAdvise.Workspace

open Proposals (ProposalCreateRequest ProposalVersionRequest ProposalCreateResponse ProposalError
  CreateProposalArguments ProposalRepository)

structure WorkspaceLifecycleHandoffMetadata where
  title : Option String := none
  advisorNotes : Option String := none
  jurisdiction : Option String := none
  mandateId : Option String := none

structure WorkspaceLifecycleHandoffRequest where
  handoffBy : String
  metadata : WorkspaceLifecycleHandoffMetadata := {}

/-- `ProposalCreateMetadata`. -/
structure ProposalCreateMetadata where
  title : Option String := none
  advisorNotes : Option String := none
  jurisdiction : Option String := none
  mandateId : Option String := none

def ProposalCreateMetadata.dump (metadata : ProposalCreateMetadata) : JsonObject :=
  [("title", .ofText? metadata.title), ("advisor_notes", .ofText? metadata.advisorNotes),
    ("jurisdiction", .ofText? metadata.jurisdiction), ("mandate_id", .ofText? metadata.mandateId)]

/-- The commands of the proposal lifecycle that a handoff calls. -/
structure WorkspaceProposalLifecyclePort (P : Type) where
  createProposal : P → Proposals.Generated → CreateProposalArguments →
    P × Except ProposalError ProposalCreateResponse
  createVersion : P → Proposals.Generated → (proposalId : String) → ProposalVersionRequest →
    (correlationId : Option String) → (replayLineage contextResolutionOverride : Option JsonObject) →
    P × Except ProposalError ProposalCreateResponse

/-- A call of the lifecycle, as a handoff makes it. -/
inductive LifecycleCall where
  | createProposal (arguments : CreateProposalArguments)
  | createVersion (proposalId : String) (payload : ProposalVersionRequest)
    (correlationId : Option String) (replayLineage contextResolutionOverride : Option JsonObject)

def WorkspaceProposalLifecyclePort.call {P : Type} (port : WorkspaceProposalLifecyclePort P)
    (proposals : P) (generated : Proposals.Generated) :
    LifecycleCall → P × Except ProposalError ProposalCreateResponse
  | .createProposal arguments => port.createProposal proposals generated arguments
  | .createVersion proposalId payload correlationId replayLineage contextResolutionOverride =>
    port.createVersion proposals generated proposalId payload correlationId replayLineage
      contextResolutionOverride

/-- The answer to a creation; no creation is answered with another response. -/
def createAnswer {P : Type} : P × Except ProposalError Proposals.ProposalResponse →
    P × Except ProposalError ProposalCreateResponse
  | (proposals, .ok (.create response)) => (proposals, .ok response)
  | (proposals, .ok _) => (proposals, .error (.responseInvalid "proposal"))
  | (proposals, .error error) => (proposals, .error error)

/-- The proposal lifecycle over a repository, one call at a time. -/
def proposalLifecycle {P : Type} (config : Proposals.ServiceConfig) (services : Proposals.Services)
    (repository : ProposalRepository P) : WorkspaceProposalLifecyclePort P where
  createProposal proposals generated arguments := createAnswer
    ((Proposals.lifecycle config services repository).execute proposals
      ⟨.create arguments, generated⟩)
  createVersion proposals generated proposalId payload correlationId replayLineage
      contextResolutionOverride := createAnswer
    ((Proposals.lifecycle config services repository).execute proposals
      ⟨.createVersion proposalId payload correlationId replayLineage contextResolutionOverride,
        generated⟩)

section Build

variable (services : WorkspaceServices) (drawn : WorkspaceDrawn) (session : WorkspaceSession)
  (request : WorkspaceLifecycleHandoffRequest)

/-- An empty title counts as none, an empty mandate does not. -/
def buildHandoffMetadata : ProposalCreateMetadata where
  title := (request.metadata.title.filter (· ≠ "")).or (some session.workspaceName)
  advisorNotes := request.metadata.advisorNotes
  jurisdiction := request.metadata.jurisdiction
  mandateId := request.metadata.mandateId.or (session.statefulInput.bind (·.mandateId))

def buildWorkspaceHandoffContextResolution (metadata : ProposalCreateMetadata) :
    Except WorkspaceError JsonObject :=
  match session.resolvedContext with
  | none => .error (.lifecycleHandoffUnavailable (services.safeWorkspaceErrorDetail
      "WORKSPACE_RESOLVED_CONTEXT_MISSING" "WORKSPACE_LIFECYCLE_HANDOFF_UNAVAILABLE"))
  | some resolvedContext => .ok (buildContextResolutionEvidence services session.inputMode
      resolvedContext
      { householdId := session.statefulInput.bind (·.householdId)
        mandateId := metadata.mandateId
        jurisdiction := metadata.jurisdiction
        benchmarkId := session.statefulInput.bind (·.benchmarkId) })

def buildProposalCreateRequest (simulateRequest : ProposalSimulateRequest) :
    ProposalCreateRequest where
  createdBy := request.handoffBy
  dump := [("created_by", .str request.handoffBy), ("input_mode", .null),
    ("simulate_request", .obj simulateRequest.dump), ("stateless_input", .null),
    ("stateful_input", .null), ("metadata", .obj (buildHandoffMetadata session request).dump)]

def buildProposalVersionRequest (simulateRequest : ProposalSimulateRequest) :
    ProposalVersionRequest where
  createdBy := request.handoffBy
  expectedCurrentVersionNo := session.lifecycleLink.map (·.currentVersionNo)
  dump := [("created_by", .str request.handoffBy),
    ("expected_current_version_no",
      .ofInt? (session.lifecycleLink.map fun link => (link.currentVersionNo : ℤ))),
    ("input_mode", .null), ("simulate_request", .obj simulateRequest.dump),
    ("stateless_input", .null), ("stateful_input", .null)]

/-- Errors of a handoff that become `WorkspaceLifecycleHandoffUnavailableError`. -/
def handoffError : WorkspaceError → WorkspaceError
  | .evaluationUnavailable detail => .lifecycleHandoffUnavailable
      (services.safeWorkspaceErrorDetail detail "WORKSPACE_LIFECYCLE_HANDOFF_UNAVAILABLE")
  | .valueError detail | .lifecycle (.valueError detail) => .lifecycleHandoffUnavailable
      (services.safeWorkspaceErrorDetail detail "WORKSPACE_LIFECYCLE_HANDOFF_UNAVAILABLE")
  | error => error

def normalizeWorkspaceHandoffIdempotencyKey (idempotencyKey : Option String) :
    Except WorkspaceError String :=
  match Proposals.normalizeOptionalIdempotencyKey idempotencyKey with
  | none => .error (.lifecycleHandoffUnavailable "WORKSPACE_HANDOFF_IDEMPOTENCY_KEY_REQUIRED")
  | some key => .ok key

/-- What a handoff takes from the session before it calls the lifecycle. -/
structure PreparedHandoff where
  session : WorkspaceSession
  replayLineage : HandoffReplayLineage
  call : LifecycleCall

/-- The key is checked first, and only where a proposal is created. -/
def prepareHandoff (workspaceId : String) (idempotencyKey correlationId : Option String) :
    Except WorkspaceError PreparedHandoff :=
  match session.lifecycleLink with
  | none => do
    let key ← normalizeWorkspaceHandoffIdempotencyKey idempotencyKey
    let (session, simulateRequest) ← buildSimulateRequest drawn session
    let payload := buildProposalCreateRequest session request simulateRequest
    let replayLineage := buildWorkspaceHandoffReplayLineage services drawn session request.handoffBy
      .createdProposal "" 1
    let override ← buildWorkspaceHandoffContextResolution services session
      (buildHandoffMetadata session request)
    return {
      session, replayLineage
      call := .createProposal
        { payload
          idempotencyKey := some key
          correlationId
          lifecycleOrigin := .workspaceHandoff
          sourceWorkspaceId := some workspaceId
          replayLineage := some replayLineage.dump
          contextResolutionOverride := some override } }
  | some link => do
    let (session, simulateRequest) ← buildSimulateRequest drawn session
    let payload := buildProposalVersionRequest session request simulateRequest
    let replayLineage := buildWorkspaceHandoffReplayLineage services drawn session request.handoffBy
      .createdProposalVersion link.proposalId (link.currentVersionNo + 1)
    let override ← buildWorkspaceHandoffContextResolution services session {}
    return {
      session, replayLineage
      call := .createVersion link.proposalId payload correlationId (some replayLineage.dump)
        (some override) }

/-- The session after the lifecycle has answered. -/
def completeWorkspaceLifecycleHandoff (replayLineage : HandoffReplayLineage)
    (response : ProposalCreateResponse) : WorkspaceSession :=
  { applyWorkspaceHandoffReplayLineage services session { replayLineage with
      proposalId := response.proposal.proposalId
      proposalVersionNo := response.version.versionNo } with
    lifecycleLink := some
      { proposalId := response.proposal.proposalId
        currentVersionNo := response.version.versionNo
        lastHandoffAt := drawn.utcNow
        lastHandoffBy := request.handoffBy } }

end Build

section Spec

variable {services : WorkspaceServices} {drawn : WorkspaceDrawn} {session : WorkspaceSession}
  {request : WorkspaceLifecycleHandoffRequest} {workspaceId : String}
  {idempotencyKey correlationId : Option String} {prepared : PreparedHandoff}

/-- The call that a handoff makes: it depends on the link of the session only. -/
inductive Prepares (services : WorkspaceServices) (drawn : WorkspaceDrawn)
    (session : WorkspaceSession) (request : WorkspaceLifecycleHandoffRequest)
    (workspaceId : String) (idempotencyKey correlationId : Option String) :
    PreparedHandoff → Prop where
  | createProposal (key : String) (session' : WorkspaceSession)
    (simulateRequest : ProposalSimulateRequest) (replayLineage : HandoffReplayLineage)
    (override : JsonObject) (unlinked : session.lifecycleLink = none)
    (normalized : Proposals.normalizeOptionalIdempotencyKey idempotencyKey = some key)
    (built : buildSimulateRequest drawn session = .ok (session', simulateRequest))
    (lineage : replayLineage = buildWorkspaceHandoffReplayLineage services drawn session'
      request.handoffBy .createdProposal "" 1) :
    Prepares services drawn session request workspaceId idempotencyKey correlationId
      { session := session', replayLineage
        call := .createProposal
          { payload := buildProposalCreateRequest session' request simulateRequest
            idempotencyKey := some key
            correlationId
            lifecycleOrigin := .workspaceHandoff
            sourceWorkspaceId := some workspaceId
            replayLineage := some replayLineage.dump
            contextResolutionOverride := some override } }
  | createVersion (link : WorkspaceLifecycleLink) (session' : WorkspaceSession)
    (simulateRequest : ProposalSimulateRequest) (replayLineage : HandoffReplayLineage)
    (override : JsonObject) (linked : session.lifecycleLink = some link)
    (built : buildSimulateRequest drawn session = .ok (session', simulateRequest))
    (lineage : replayLineage = buildWorkspaceHandoffReplayLineage services drawn session'
      request.handoffBy .createdProposalVersion link.proposalId (link.currentVersionNo + 1)) :
    Prepares services drawn session request workspaceId idempotencyKey correlationId
      { session := session', replayLineage
        call := .createVersion link.proposalId
          (buildProposalVersionRequest session' request simulateRequest) correlationId
          (some replayLineage.dump) (some override) }

theorem prepareHandoff_eq_ok (h : prepareHandoff services drawn session request workspaceId
      idempotencyKey correlationId = .ok prepared) :
    Prepares services drawn session request workspaceId idempotencyKey correlationId prepared := by
  unfold prepareHandoff at h
  split at h
  · next unlinked =>
    simp only [bind_eq_ok, Prod.exists] at h
    obtain ⟨key, hkey, session', simulateRequest, hbuilt, override, _, h⟩ := h
    unfold normalizeWorkspaceHandoffIdempotencyKey at hkey
    split at hkey <;> cases hkey
    cases h
    exact .createProposal _ _ _ _ _ unlinked ‹_› hbuilt rfl
  · next link linked =>
    simp only [bind_eq_ok, Prod.exists] at h
    obtain ⟨session', simulateRequest, hbuilt, override, _, h⟩ := h
    cases h
    exact .createVersion link _ _ _ _ linked hbuilt rfl

/-- A prepared handoff changes nothing of the session that was read but its resolved context. -/
theorem session_of_prepares (h : Prepares services drawn session request workspaceId idempotencyKey
      correlationId prepared) :
    ∃ resolvedContext, prepared.session = { session with resolvedContext } := by
  cases h with
  | createProposal _ _ _ _ _ _ _ built => exact buildSimulateRequest_eq_ok built
  | createVersion _ _ _ _ _ _ built => exact buildSimulateRequest_eq_ok built

end Spec

end LotusAdvise.Workspace

import LotusAdvise.Foundations.Except
import LotusAdvise.Foundations.Interleaving
import LotusAdvise.Proposals.Projections
import LotusAdvise.Proposals.Repository

/-! # Lifecycle commands

The eight lifecycle commands over a repository port. Each reads the store, fails with an
error, answers a replay, or decides on its writes and its response; the order of the
checks is the order in which they are made.
-/

namespace LotusAdvise.Proposals

open Interleaving

/-- What a command decides once it has read the store. -/
abbrev Plan := Except ProposalError (Outcome RepositoryWrite ProposalResponse)

def validateExpectedState (currentState : ProposalWorkflowState)
    (expectedState : Option ProposalWorkflowState) (requireExpectedState : Bool) :
    Except ProposalError Unit :=
  match expectedState with
  | none => require (requireExpectedState = false)
    (.stateConflict "STATE_CONFLICT: expected_state is required")
  | some state => require (state = currentState)
    (.stateConflict "STATE_CONFLICT: expected_state mismatch")

/-- One transition of the aggregate, expecting the state the event leaves and the version. -/
def persistProposalTransition (proposal : ProposalRecord) (event : ProposalWorkflowEventRecord)
    (approval : Option ProposalApprovalRecordData) (response : ProposalResponse) : Plan :=
  .ok (.write (.transitionProposal proposal event approval event.fromState
    (some proposal.currentVersionNo)) [] response)

section Commands

variable {S : Type} (config : ServiceConfig) (services : Services)
  (repository : ProposalRepository S) (store : S) (generated : Generated)

def loadProposal (proposalId : String) : Except ProposalError ProposalRecord :=
  match repository.getProposal store proposalId with
  | none => .error (.notFound "PROPOSAL_NOT_FOUND")
  | some proposal => .ok proposal

def findReplayedEvent (events : List ProposalWorkflowEventRecord) (idempotencyKey : Option String)
    (requestHash : String) : Except ProposalError (Option ProposalWorkflowEventRecord) :=
  (findReplayedRecord ProposalWorkflowEventRecord.reasonJson events idempotencyKey
    requestHash).mapError .idempotencyConflict

def loadReplayedEvent (proposalId : String) (idempotencyKey : Option String)
    (requestHash : String) : Except ProposalError (Option ProposalWorkflowEventRecord) :=
  findReplayedEvent (repository.listEvents store proposalId) idempotencyKey requestHash

def loadReplayedApproval (proposalId : String) (idempotencyKey : Option String)
    (requestHash : String) : Except ProposalError (Option ProposalApprovalRecordData) :=
  (findReplayedRecord ProposalApprovalRecordData.detailsJson
    (repository.listApprovals store proposalId) idempotencyKey requestHash).mapError
    .idempotencyConflict

/-- The check and the write of a generic transition that is not a replay. -/
def recordStateTransition (proposal : ProposalRecord) (proposalId : String)
    (payload : ProposalStateTransitionRequest) (idempotencyKey : Option String)
    (requestHash : String) : Plan := do
  validateExpectedState proposal.currentState payload.expectedState config.requireExpectedState
  let toState ←
    (resolveTransitionState proposal.currentState payload.eventType).mapError .transition
  let event := buildStateTransitionEvent generated.eventId proposal payload toState generated.now
    idempotencyKey requestHash
  persistProposalTransition
    { proposal with currentState := toState, lastEventAt := event.occurredAt } event none
    (.stateTransition
      { proposalId, currentState := toState, latestWorkflowEvent := toWorkflowEvent event })

def transitionProposalState (proposalId : String) (payload : ProposalStateTransitionRequest)
    (idempotencyKey : Option String) : Plan := do
  let idempotencyKey := normalizeOptionalIdempotencyKey idempotencyKey
  let proposal ← loadProposal repository store proposalId
  let requestHash := services.hashCanonicalPayload payload.dump
  match ← loadReplayedEvent repository store proposalId idempotencyKey requestHash with
  | some event => return .reply (.stateTransition
      { proposalId, currentState := event.toState, latestWorkflowEvent := toWorkflowEvent event })
  | none =>
    recordStateTransition config generated proposal proposalId payload idempotencyKey requestHash

def recordApprovalTransition (proposal : ProposalRecord) (proposalId : String)
    (payload : ProposalApprovalRequest) (idempotencyKey : Option String)
    (requestHash : String) : Plan := do
  validateExpectedState proposal.currentState payload.expectedState config.requireExpectedState
  let (eventType, toState) ← (resolveApprovalTransition proposal.currentState payload.approvalType
    payload.approved).mapError .transition
  let approval := buildApprovalRecord generated.approvalId proposal.proposalId payload generated.now
    idempotencyKey requestHash
  let event := buildApprovalTransitionEvent generated.eventId proposal payload eventType toState
    approval.occurredAt idempotencyKey requestHash
  persistProposalTransition
    { proposal with currentState := toState, lastEventAt := event.occurredAt } event (some approval)
    (.stateTransition
      { proposalId, currentState := toState, latestWorkflowEvent := toWorkflowEvent event
        approval := some (toApprovalRecord approval) })

def recordProposalApproval (proposalId : String) (payload : ProposalApprovalRequest)
    (idempotencyKey : Option String) : Plan := do
  let idempotencyKey := normalizeOptionalIdempotencyKey idempotencyKey
  let proposal ← loadProposal repository store proposalId
  let requestHash := services.hashCanonicalPayload payload.dump
  match ← loadReplayedApproval repository store proposalId idempotencyKey requestHash with
  | some approval =>
    -- the event of the replayed approval is looked up a second time, among the events
    match ← loadReplayedEvent repository store proposalId idempotencyKey requestHash with
    | none => .error (.lifecycle "PROPOSAL_IDEMPOTENCY_REFERENT_NOT_FOUND")
    | some event => return .reply (.stateTransition
        { proposalId, currentState := event.toState, latestWorkflowEvent := toWorkflowEvent event
          approval := some (toApprovalRecord approval) })
  | none =>
    recordApprovalTransition config generated proposal proposalId payload idempotencyKey requestHash

def recordExecutionHandoff (proposal : ProposalRecord)
    (payload : ProposalExecutionHandoffRequest) (idempotencyKey : Option String)
    (requestHash : String) : Plan := do
  validateExpectedState proposal.currentState payload.expectedState config.requireExpectedState
  require (proposal.currentState = .executionReady)
    (.stateConflict "STATE_CONFLICT: proposal must be EXECUTION_READY for execution handoff")
  let executionRequestId := orText payload.externalRequestId generated.executionRequestId
  let event := buildExecutionHandoffRequestedEvent generated.eventId proposal payload generated.now
    executionRequestId idempotencyKey requestHash
  let proposal := { proposal with lastEventAt := event.occurredAt }
  persistProposalTransition proposal event none
    (.executionHandoff
      { proposal := toProposalSummary proposal, executionRequestId, handoffStatus := .requested
        executionProvider := payload.executionProvider
        latestWorkflowEvent := toWorkflowEvent event })

def requestProposalExecutionHandoff (proposalId : String)
    (payload : ProposalExecutionHandoffRequest) (idempotencyKey : Option String) : Plan := do
  let idempotencyKey := normalizeOptionalIdempotencyKey idempotencyKey
  let proposal ← loadProposal repository store proposalId
  let requestHash := services.hashCanonicalPayload payload.dump
  match ← loadReplayedEvent repository store proposalId idempotencyKey requestHash with
  | some event => return .reply (.executionHandoff
      (buildExecutionHandoffReplayResponse services proposal event))
  | none =>
    recordExecutionHandoff config generated proposal payload idempotencyKey requestHash

def validateExecutionUpdateHandoffIdentity (handoffEvent : ProposalWorkflowEventRecord)
    (payload : ProposalExecutionUpdateRequest) : Except ProposalError Unit := do
  require (JsonObject.get handoffEvent.reasonJson "execution_request_id" =
      .str payload.executionRequestId) (.stateConflict "EXECUTION_REQUEST_ID_MISMATCH")
  require (JsonObject.get handoffEvent.reasonJson "execution_provider" =
      .str payload.executionProvider) (.stateConflict "EXECUTION_PROVIDER_MISMATCH")

def incomparableTimestamps : ProposalError :=
  .typeError "can't compare offset-naive and offset-aware datetimes"

def resolveValidExecutionUpdateTimestamp (payload : ProposalExecutionUpdateRequest)
    (defaultOccurredAt : DateTime) (handoffEvent : ProposalWorkflowEventRecord) :
    Except ProposalError DateTime := do
  let occurredAt ← match payload.occurredAt with
    | some text => services.parseTimestamp text
    | none => .ok defaultOccurredAt
  match occurredAt.lt? handoffEvent.occurredAt with
  | none => .error incomparableTimestamps
  | some true => .error (.validation "EXECUTION_UPDATE_OCCURRED_BEFORE_HANDOFF")
  | some false => .ok occurredAt

/-- The checks and the write of an execution update that is not a replay. -/
def recordExecutionUpdateEvent (proposal : ProposalRecord)
    (handoffEvent : ProposalWorkflowEventRecord) (payload : ProposalExecutionUpdateRequest)
    (requestHash : String) : Plan := do
  let (eventType, toState) := resolveExecutionUpdateEvent payload.updateStatus
  require (proposal.currentState ∉ terminalStates)
    (.stateConflict "PROPOSAL_TERMINAL_STATE: execution update rejected")
  let occurredAt ←
    resolveValidExecutionUpdateTimestamp services payload generated.now handoffEvent
  let event := buildExecutionUpdateEvent generated.eventId proposal.proposalId proposal.currentState
    payload eventType toState occurredAt requestHash handoffEvent.relatedVersionNo
  persistProposalTransition
    { proposal with currentState := toState, lastEventAt := event.occurredAt } event none
    (.executionStatus none)

def recordProposalExecutionUpdate (proposalId : String)
    (payload : ProposalExecutionUpdateRequest) : Plan := do
  let proposal ← loadProposal repository store proposalId
  let events := repository.listEvents store proposalId
  match latestExecutionRequestedEvent events with
  | none => .error (.validation "EXECUTION_HANDOFF_NOT_FOUND")
  | some handoffEvent =>
    validateExecutionUpdateHandoffIdentity handoffEvent payload
    let requestHash := services.hashCanonicalPayload payload.dump
    match ← findReplayedEvent events (some (buildExecutionUpdateIdempotencyKey payload))
      requestHash with
    | some _ =>
      let response ← buildExecutionStatusResponse proposal events
      return .reply (.executionStatus (some response))
    | none => recordExecutionUpdateEvent services generated proposal handoffEvent payload requestHash

/-- The narrative of a version, when it has one with an identifier. -/
def reviewableNarrative (version : ProposalVersionRecord) : Except ProposalError JsonObject :=
  match JsonObject.get version.artifactJson "proposal_narrative" with
  | .obj narrative =>
    if (JsonObject.get narrative "narrative_id").truthy then .ok narrative
    else .error (.validation "PROPOSAL_NARRATIVE_NOT_FOUND")
  | _ => .error (.validation "PROPOSAL_NARRATIVE_NOT_FOUND")

def narrativeReviewDump (version : ProposalVersionRecord) (narrativeId : String)
    (payload : ProposalNarrativeReviewRequest) : JsonObject :=
  [("proposal_id", .str version.proposalId), ("proposal_version_no", .int version.versionNo),
    ("narrative_id", .str narrativeId), ("payload", .obj payload.dump)]

/-- The replay search of a narrative review, which sees review events only. -/
def findReplayedReviewEvent (events : List ProposalWorkflowEventRecord)
    (idempotencyKey : Option String) (requestHash : String) :
    Except ProposalError (Option ProposalWorkflowEventRecord) :=
  findReplayedEvent (events.filter fun event => event.eventType = .narrativeReviewed) idempotencyKey
    requestHash

def loadVersion (proposalId : String) (versionNo : ℕ) :
    Except ProposalError ProposalVersionRecord :=
  match repository.getVersion store proposalId versionNo with
  | none => .error (.notFound "PROPOSAL_VERSION_NOT_FOUND")
  | some version => .ok version

def recordNarrativeReview (proposalId : String) (versionNo : ℕ)
    (payload : ProposalNarrativeReviewRequest) (idempotencyKey : Option String) : Plan := do
  let proposal ← loadProposal repository store proposalId
  let version ← loadVersion repository store proposalId versionNo
  let idempotencyKey := normalizeOptionalIdempotencyKey idempotencyKey
  let narrative ← reviewableNarrative version
  let narrativeId := JsonObject.get narrative "narrative_id"
  let requestHash := services.hashCanonicalPayload
    (narrativeReviewDump version (services.toStr narrativeId) payload)
  match ← findReplayedReviewEvent (repository.listEvents store proposal.proposalId) idempotencyKey
    requestHash with
  | some event => return .reply (.narrativeReview
      (buildNarrativeReviewResponse services proposal event true))
  | none =>
    let event := buildReviewEvent generated.eventId proposal version narrativeId
      (services.hashCanonicalPayload narrative) payload idempotencyKey requestHash generated.now
    let reviewedProposal := { proposal with lastEventAt := generated.now }
    persistProposalTransition reviewedProposal event none
      (.narrativeReview (buildNarrativeReviewResponse services reviewedProposal event false))

def recordProposalReportRequest (proposalId : String) (report : ProposalReportResponse)
    (requestedBy : String) (relatedVersionNo : ℤ)
    (includeExecutionSummary includeReviewedNarrative : Bool)
    (proposalNarrativePackage : Option JsonObject) : Plan := do
  let proposal ← loadProposal repository store proposalId
  let occurredAt ← services.parseTimestamp report.generatedAt
  let event := buildReportRequestedEvent generated.eventId proposal requestedBy occurredAt
    (reportReason report relatedVersionNo includeExecutionSummary includeReviewedNarrative
      proposalNarrativePackage) relatedVersionNo
  match proposal.lastEventAt.max? event.occurredAt with
  | none => .error incomparableTimestamps
  | some lastEventAt =>
    persistProposalTransition { proposal with lastEventAt } event none (.reportRequest event)

/-- `artifact["evidence_bundle"]["hashes"]["artifact_hash"]` -/
def artifactHashOf (artifact : JsonObject) : Except ProposalError String :=
  match JsonObject.get artifact "evidence_bundle" with
  | .obj evidenceBundle =>
    match JsonObject.get evidenceBundle "hashes" with
    | .obj hashes =>
      match JsonObject.get hashes "artifact_hash" with
      | .str hash => .ok hash
      | _ => .error (.keyError "artifact_hash")
    | _ => .error (.keyError "hashes")
  | _ => .error (.keyError "evidence_bundle")

def buildProposalVersionRecord (proposalVersionId proposalId : String) (versionNo : ℕ)
    (requestHash : String) (proposalResult : ProposalResult)
    (materialization : ProposalVersionMaterialization) (createdAt : DateTime) :
    Except ProposalError ProposalVersionRecord := do
  let artifactHash ← artifactHashOf materialization.artifact
  return {
    proposalVersionId, proposalId, versionNo, createdAt, requestHash, artifactHash
    simulationHash := services.hashCanonicalPayload
      (Json.stripKeysFields ["correlation_id", "idempotency_key"] proposalResult.dump)
    statusAtCreation := proposalResult.status
    proposalResultJson := proposalResult.dump
    artifactJson := materialization.artifact
    evidenceBundleJson :=
      if config.storeEvidenceBundle then materialization.evidenceBundle else []
    gateDecisionJson := proposalResult.gateDecision }

def advisoryContextDump (resolved : ResolvedProposalContext) : JsonObject :=
  [("input_mode", .str resolved.inputMode), ("resolution_source", .str resolved.resolutionSource),
    ("resolved_context", .obj resolved.resolvedContext),
    ("simulate_request", .obj resolved.simulateRequest)]

def buildCreateRequestHash (payload : ProposalCreateRequest) (resolved : ResolvedProposalContext) :
    String :=
  services.hashCanonicalPayload [("created_by", .str payload.createdBy),
    ("metadata", .obj resolved.metadata), ("advisory_context", .obj (advisoryContextDump resolved))]

def buildVersionRequestHash (payload : ProposalVersionRequest)
    (resolved : ResolvedProposalContext) : String :=
  services.hashCanonicalPayload [("created_by", .str payload.createdBy),
    ("expected_current_version_no", .ofInt? payload.expectedCurrentVersionNo),
    ("advisory_context", .obj (advisoryContextDump resolved))]

def validateProposalSimulationFlag (resolved : ResolvedProposalContext) :
    Except ProposalError Unit :=
  require (config.requireProposalSimulationFlag = true → resolved.enableProposalSimulation = true)
    (.validation "PROPOSAL_SIMULATION_DISABLED: set options.enable_proposal_simulation=true")

def validateCreateVersionState (proposal : ProposalRecord)
    (expectedCurrentVersionNo : Option ℤ) : Except ProposalError Unit := do
  require (proposal.currentState ∉ terminalStates)
    (.validation "PROPOSAL_TERMINAL_STATE: cannot create version")
  require (∀ versionNo ∈ expectedCurrentVersionNo, versionNo = proposal.currentVersionNo)
    (.stateConflict "VERSION_CONFLICT: expected_current_version_no mismatch")

/-- The simulated and materialized next version of a proposal. -/
def materializeNextVersion (proposal : ProposalRecord) (payload : ProposalVersionRequest)
    (correlationId : Option String) (contextResolutionOverride replayLineage : Option JsonObject) :
    Except ProposalError ProposalVersionRecord := do
  let resolved ← (services.resolveVersionRequest payload).mapError .validation
  validateProposalSimulationFlag config resolved
  let requestHash := buildVersionRequestHash services payload resolved
  require (config.allowPortfolioIdChangeOnNewVersion = true ∨
    resolved.portfolioId = proposal.portfolioId) (.validation "PORTFOLIO_CONTEXT_MISMATCH")
  let proposalResult ←
    services.runAdvisoryProposalSimulation resolved requestHash none correlationId
  let materialization ← services.buildProposalVersionMaterialization resolved proposalResult
    generated.now contextResolutionOverride replayLineage
  buildProposalVersionRecord config services generated.proposalVersionId proposal.proposalId
    (proposal.currentVersionNo + 1) requestHash proposalResult materialization generated.now

/-- The version is inserted first, in a write of its own; the transition of the aggregate follows. -/
def createProposalVersion (proposalId : String) (payload : ProposalVersionRequest)
    (correlationId : Option String) (replayLineage contextResolutionOverride : Option JsonObject) :
    Plan := do
  let proposal ← loadProposal repository store proposalId
  validateCreateVersionState proposal payload.expectedCurrentVersionNo
  let version ← materializeNextVersion config services generated proposal payload correlationId
    contextResolutionOverride replayLineage
  let event := buildNewVersionCreatedEvent generated.eventId proposal payload.createdBy
    generated.now version.versionNo correlationId
  let proposal := { proposal with
    currentVersionNo := version.versionNo
    currentState := .draft
    lastEventAt := generated.now }
  return .write (.createVersion version)
    [.transitionProposal proposal event none event.fromState (some (version.versionNo - 1))]
    (.create (toCreateResponse proposal version event))

def validateLifecycleOrigin (lifecycleOrigin : ProposalLifecycleOrigin)
    (sourceWorkspaceId : Option String) : Except ProposalError Unit :=
  match lifecycleOrigin with
  | .workspaceHandoff => require (presentKey sourceWorkspaceId ≠ none)
    (.validation "WORKSPACE_HANDOFF_SOURCE_WORKSPACE_ID_REQUIRED")
  | .directCreate => require (sourceWorkspaceId = none)
    (.validation "DIRECT_CREATE_CANNOT_INCLUDE_SOURCE_WORKSPACE_ID")

def isMatchingLegacyReplay (payload : ProposalCreateRequest)
    (existing : ProposalIdempotencyRecord) : Bool :=
  match repository.getProposal store existing.proposalId,
    repository.getVersion store existing.proposalId existing.proposalVersionNo with
  | some proposal, some version =>
    existing.requestHash = version.requestHash &&
      services.legacyContentMatches proposal version payload
  | _, _ => false

def buildCreateResponseFromReplayReferents (proposalId : String) (versionNo : ℕ) :
    Except ProposalError ProposalCreateResponse :=
  match buildCreateResponseFromReferents (repository.getProposal store proposalId)
    (repository.getVersion store proposalId versionNo) (repository.listEvents store proposalId) with
  | none => .error (.notFound "PROPOSAL_IDEMPOTENCY_REFERENT_NOT_FOUND")
  | some response => .ok response

structure CreateProposalArguments where
  payload : ProposalCreateRequest
  idempotencyKey : Option String
  correlationId : Option String := none
  lifecycleOrigin : ProposalLifecycleOrigin := .directCreate
  sourceWorkspaceId : Option String := none
  replayLineage : Option JsonObject := none
  contextResolutionOverride : Option JsonObject := none

def materializeFirstVersion (arguments : CreateProposalArguments) (idempotencyKey : String) :
    Except ProposalError (ResolvedProposalContext × ProposalVersionRecord) := do
  let resolved ← (services.resolveCreateRequest arguments.payload).mapError .validation
  let requestHash := buildCreateRequestHash services arguments.payload resolved
  validateProposalSimulationFlag config resolved
  let proposalResult ← services.runAdvisoryProposalSimulation resolved requestHash
    (some idempotencyKey) arguments.correlationId
  let materialization ← services.buildProposalVersionMaterialization resolved proposalResult
    generated.now arguments.contextResolutionOverride arguments.replayLineage
  let version ← buildProposalVersionRecord config services generated.proposalVersionId
    generated.proposalId 1 requestHash proposalResult materialization generated.now
  return (resolved, version)

def buildProposalRecord (arguments : CreateProposalArguments) (resolved : ResolvedProposalContext) :
    ProposalRecord where
  proposalId := generated.proposalId
  portfolioId := resolved.portfolioId
  mandateId := resolved.mandateId
  jurisdiction := resolved.jurisdiction
  createdBy := arguments.payload.createdBy
  createdAt := generated.now
  lastEventAt := generated.now
  currentState := .draft
  currentVersionNo := 1
  title := resolved.title
  advisorNotes := resolved.advisorNotes
  lifecycleOrigin := arguments.lifecycleOrigin
  sourceWorkspaceId := arguments.sourceWorkspaceId

def createProposalCommand (arguments : CreateProposalArguments) : Plan := do
  let idempotencyKey ← requireProposalIdempotencyKey arguments.idempotencyKey
  validateLifecycleOrigin arguments.lifecycleOrigin arguments.sourceWorkspaceId
  let idempotencyRequestHash := services.hashCanonicalPayload arguments.payload.dump
  match repository.getIdempotency store idempotencyKey with
  | some existing =>
    if existing.requestHash = idempotencyRequestHash ∨
        isMatchingLegacyReplay services repository store arguments.payload existing then
      let response ← buildCreateResponseFromReplayReferents repository store existing.proposalId
        existing.proposalVersionNo
      return .reply (.create response)
    else .error (.idempotencyConflict "IDEMPOTENCY_KEY_CONFLICT: request hash mismatch")
  | none =>
    let (resolved, version) ←
      materializeFirstVersion config services generated arguments idempotencyKey
    let proposal := buildProposalRecord generated arguments resolved
    let event := buildProposalCreatedEvent generated.eventId generated.proposalId
      arguments.payload.createdBy generated.now 1 arguments.correlationId
    return .write (.createProposal proposal version event
      { idempotencyKey, requestHash := idempotencyRequestHash, proposalId := generated.proposalId
        proposalVersionNo := 1, createdAt := generated.now }) []
      (.create (toCreateResponse proposal version event))

inductive ProposalCommand where
  | create (arguments : CreateProposalArguments)
  | createVersion (proposalId : String) (payload : ProposalVersionRequest)
    (correlationId : Option String) (replayLineage contextResolutionOverride : Option JsonObject)
  | transition (proposalId : String) (payload : ProposalStateTransitionRequest)
    (idempotencyKey : Option String)
  | approval (proposalId : String) (payload : ProposalApprovalRequest)
    (idempotencyKey : Option String)
  | executionHandoff (proposalId : String) (payload : ProposalExecutionHandoffRequest)
    (idempotencyKey : Option String)
  | executionUpdate (proposalId : String) (payload : ProposalExecutionUpdateRequest)
  | narrativeReview (proposalId : String) (versionNo : ℕ)
    (payload : ProposalNarrativeReviewRequest) (idempotencyKey : Option String)
  | reportRequest (proposalId : String) (report : ProposalReportResponse) (requestedBy : String)
    (relatedVersionNo : ℤ) (includeExecutionSummary includeReviewedNarrative : Bool)
    (proposalNarrativePackage : Option JsonObject)

/-- A command with what it will draw while it runs. -/
structure Call where
  command : ProposalCommand
  generated : Generated

/-- The reads and checks of a command, up to its first write. -/
def decideCommand (call : Call) : Plan :=
  let generated := call.generated
  match call.command with
  | .create arguments =>
    createProposalCommand config services repository store generated arguments
  | .createVersion proposalId payload correlationId replayLineage contextResolutionOverride =>
    createProposalVersion config services repository store generated proposalId payload
      correlationId replayLineage contextResolutionOverride
  | .transition proposalId payload idempotencyKey =>
    transitionProposalState config services repository store generated proposalId payload
      idempotencyKey
  | .approval proposalId payload idempotencyKey =>
    recordProposalApproval config services repository store generated proposalId payload
      idempotencyKey
  | .executionHandoff proposalId payload idempotencyKey =>
    requestProposalExecutionHandoff config services repository store generated proposalId payload
      idempotencyKey
  | .executionUpdate proposalId payload =>
    recordProposalExecutionUpdate services repository store generated proposalId payload
  | .narrativeReview proposalId versionNo payload idempotencyKey =>
    recordNarrativeReview services repository store generated proposalId versionNo payload
      idempotencyKey
  | .reportRequest proposalId report requestedBy relatedVersionNo includeExecutionSummary
      includeReviewedNarrative proposalNarrativePackage =>
    recordProposalReportRequest services repository store generated proposalId report requestedBy
      relatedVersionNo includeExecutionSummary includeReviewedNarrative proposalNarrativePackage

/-- The identifiers of two calls are different draws of the generator. -/
def Generated.apart (a b : Generated) : Bool :=
  a.eventId ≠ b.eventId && a.approvalId ≠ b.approvalId &&
    a.executionRequestId ≠ b.executionRequestId && a.proposalId ≠ b.proposalId &&
    a.proposalVersionId ≠ b.proposalVersionId

theorem Generated.apart_iff {a b : Generated} : a.apart b = true ↔ a.eventId ≠ b.eventId ∧
    a.approvalId ≠ b.approvalId ∧ a.executionRequestId ≠ b.executionRequestId ∧
    a.proposalId ≠ b.proposalId ∧ a.proposalVersionId ≠ b.proposalVersionId := by
  simp only [Generated.apart, Bool.and_eq_true, decide_eq_true_eq, and_assoc]

theorem Generated.apart_symm {a b : Generated} (h : a.apart b = true) : b.apart a = true := by
  obtain ⟨hevent, happroval, hrequest, hproposal, hversion⟩ := apart_iff.mp h
  exact apart_iff.mpr ⟨hevent.symm, happroval.symm, hrequest.symm, hproposal.symm, hversion.symm⟩

/-- The lifecycle commands as read-then-write commands over a repository. -/
def lifecycle : Protocol S Call RepositoryWrite ProposalResponse ProposalError where
  decide store call := decideCommand config services repository store call
  perform := repository.perform
  apart a b := a.generated.apart b.generated

end Commands

namespace Sample

/-- A call of a command as the `n`-th, in the given minute. -/
def call (n : ℕ) (minute : ℕ) (command : ProposalCommand) : Call :=
  ⟨command, drawn n (clock minute)⟩

def create (idempotencyKey : String) : ProposalCommand :=
  .create
    { payload := { createdBy := "advisor_1", dump := [("created_by", .str "advisor_1")] }
      idempotencyKey := some idempotencyKey }

def newVersion (proposalId : String) : ProposalCommand :=
  .createVersion proposalId { createdBy := "advisor_1", dump := [] } none none none

def transition (proposalId : String) (eventType : ProposalWorkflowEventType)
    (reason : JsonObject) (idempotencyKey : Option String) : ProposalCommand :=
  .transition proposalId { eventType, actorId := "advisor_1", reason } idempotencyKey

def approve (proposalId : String) (approvalType : ProposalApprovalType)
    (idempotencyKey : Option String) : ProposalCommand :=
  .approval proposalId { approvalType, approved := true, actorId := "risk_1" } idempotencyKey

def handOff (proposalId externalRequestId : String) (idempotencyKey : Option String) :
    ProposalCommand :=
  .executionHandoff proposalId
    { actorId := "ops_1", executionProvider := "oms"
      externalRequestId := some externalRequestId } idempotencyKey

def update (proposalId updateId executionRequestId : String)
    (updateStatus : ProposalExecutionUpdateStatus) : ProposalCommand :=
  .executionUpdate proposalId
    { updateId, actorId := "oms", executionRequestId, executionProvider := "oms", updateStatus }

end Sample

end LotusAdvise.Proposals

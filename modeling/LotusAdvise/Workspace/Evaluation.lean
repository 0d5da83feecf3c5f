import LotusAdvise.Workspace.DraftActions

/-! # Evaluations and replay evidence

An evaluation simulates the source portfolio with the draft applied. Its result, its summary
and the replay evidence of it become the latest of the session, all three at once.
-/

namespace LotusAdvise.Workspace

open Proposals (ProposalResult)

/-- The portfolio and the market data of the source, with the contents of the draft. -/
def applyWorkspaceDraftState (baseRequest : ProposalSimulateRequest)
    (draftState : WorkspaceDraftState) : ProposalSimulateRequest where
  portfolioSnapshot := baseRequest.portfolioSnapshot
  marketDataSnapshot := baseRequest.marketDataSnapshot
  shelfEntries := baseRequest.shelfEntries
  options := draftState.options
  proposedCashFlows := draftState.cashFlowDrafts.map WorkspaceCashFlowDraft.cashFlow
  proposedTrades := draftState.tradeDrafts.map WorkspaceTradeDraft.trade
  referenceModel := draftState.referenceModel
  alternativesRequest := draftState.alternativesRequest

section Evaluate

variable (services : WorkspaceServices) (drawn : WorkspaceDrawn) (session : WorkspaceSession)

/-- The request, and the session with the context that the source resolved for it. -/
def buildSimulateRequest : Except WorkspaceError (WorkspaceSession × ProposalSimulateRequest) :=
  match session.inputMode with
  | .stateful =>
    match session.statefulInput, drawn.statefulContext with
    | none, _ => .error (.evaluationUnavailable "WORKSPACE_STATEFUL_INPUT_MISSING")
    | some _, none =>
      .error (.evaluationUnavailable "WORKSPACE_STATEFUL_CONTEXT_RESOLUTION_UNAVAILABLE")
    | some _, some resolved =>
      (drawn.enrichForTradeDrafts
          (applyWorkspaceDraftState resolved.simulateRequest session.draftState)
          resolved.resolvedContext.asOf).map fun request =>
        ({ session with resolvedContext := some resolved.resolvedContext }, request)
  | .stateless =>
    match session.statelessInput with
    | none => .error (.evaluationUnavailable "WORKSPACE_STATELESS_INPUT_MISSING")
    | some statelessInput =>
      .ok (session, applyWorkspaceDraftState statelessInput.simulateRequest session.draftState)

def resolutionSource : WorkspaceInputMode → String
  | .stateful => "LOTUS_CORE"
  | .stateless => "DIRECT_REQUEST"

/-- `build_context_resolution_evidence`, for a request that is not of the legacy contract. -/
def buildContextResolutionEvidence (inputMode : WorkspaceInputMode)
    (resolvedContext : WorkspaceResolvedContext) (selectors : ProposalPolicySelectors) :
    JsonObject :=
  [("input_mode", .str inputMode.text), ("resolution_source", .str (resolutionSource inputMode)),
    ("used_legacy_contract", .bool false), ("resolved_context", .obj resolvedContext.dump),
    ("advisory_policy_context", .obj (services.buildAdvisoryPolicyContext inputMode.text
      (resolutionSource inputMode) selectors))]

def buildSimulationRequestHash (inputMode : WorkspaceInputMode)
    (resolvedContext : WorkspaceResolvedContext) (request : ProposalSimulateRequest) : String :=
  services.proposals.hashCanonicalPayload [("advisory_context", .obj
    [("input_mode", .str inputMode.text), ("resolution_source", .str (resolutionSource inputMode)),
      ("resolved_context", .obj resolvedContext.dump), ("simulate_request", .obj request.dump)])]

structure WorkspaceEvaluationContext where
  contextResolution : JsonObject
  requestHash : String

/-- The missing context is reported with its detail made safe. -/
def buildWorkspaceEvaluationContext (request : ProposalSimulateRequest) :
    Except WorkspaceError WorkspaceEvaluationContext :=
  match session.resolvedContext with
  | none => .error (.evaluationUnavailable (services.safeWorkspaceErrorDetail
      "WORKSPACE_RESOLVED_CONTEXT_MISSING" "WORKSPACE_EVALUATION_UNAVAILABLE"))
  | some resolvedContext => .ok
    { contextResolution := buildContextResolutionEvidence services session.inputMode resolvedContext
        { householdId := session.statefulInput.bind (·.householdId)
          mandateId := session.statefulInput.bind (·.mandateId)
          benchmarkId := session.statefulInput.bind (·.benchmarkId) }
      requestHash := buildSimulationRequestHash services session.inputMode resolvedContext request }

/-- The object under a key, or an empty one. -/
def objectOf (object : JsonObject) (key : String) : JsonObject :=
  match JsonObject.get object key with
  | .obj fields => fields
  | _ => []

/-- `result.explanation["context_resolution"] = …` -/
def explainContext (result : ProposalResult) (contextResolution : JsonObject) : ProposalResult :=
  { result with
    dump := JsonObject.set result.dump "explanation" (.obj (JsonObject.set
      (objectOf result.dump "explanation") "context_resolution" (.obj contextResolution))) }

/-- The objects of the array under a key. -/
def objectsOf (object : JsonObject) (key : String) : List JsonObject :=
  match JsonObject.get object key with
  | .arr items => items.filterMap fun item => match item with
    | .obj fields => some fields
    | _ => none
  | _ => []

/-- The failed rules of a severity. -/
def failedRuleCount (result : ProposalResult) (severity : String) : ℕ :=
  ((objectsOf result.dump "rule_results").filter fun rule =>
    JsonObject.get rule "status" = .str "FAIL" ∧ JsonObject.get rule "severity" = .str severity).length

def calculateBlockingIssueCount (result : ProposalResult) : ℕ := failedRuleCount result "HARD"

def calculateReviewIssueCount (result : ProposalResult) : ℕ :=
  failedRuleCount result "SOFT" +
    (objectsOf (objectOf result.dump "suitability") "issues").length

def buildEvaluationSummary (result : ProposalResult) : WorkspaceEvaluationSummary where
  status := result.status
  gateDecision := result.gateDecision
  blockingIssueCount := calculateBlockingIssueCount result
  reviewIssueCount := calculateReviewIssueCount result
  impactSummary :=
    { portfolioValueDeltaBaseCcy := services.formatPortfolioDelta result
      tradeCount := session.draftState.tradeDrafts.length
      cashFlowCount := session.draftState.cashFlowDrafts.length }

/-- The risk lens in the explanation of a result, if it names the service it comes from. -/
def extractRiskLens (result : ProposalResult) : Option JsonObject :=
  match JsonObject.get (objectOf result.dump "explanation") "risk_lens" with
  | .obj riskLens =>
    match JsonObject.get riskLens "source_service" with
    | .str sourceService => if sourceService = "" then none else some riskLens
    | _ => none
  | _ => none

def buildDraftStateHash (draftState : WorkspaceDraftState) : String :=
  services.proposals.hashCanonicalPayload draftState.dump

def buildReplayEvidence (evaluationRequestHash : Option String) : WorkspaceReplayEvidence where
  inputMode := session.inputMode
  resolvedContext := session.resolvedContext
  draftStateHash := buildDraftStateHash services session.draftState
  evaluationRequestHash
  capturedAt := drawn.utcNow
  continuity := []
  riskLens := session.latestProposalResult.bind extractRiskLens

structure WorkspaceEvaluationOutcome where
  proposalResult : ProposalResult
  evaluationSummary : WorkspaceEvaluationSummary
  replayEvidence : WorkspaceReplayEvidence

/-- The evidence is taken of the session after it has got the result. -/
def evaluate (request : ProposalSimulateRequest) :
    Except WorkspaceError WorkspaceEvaluationOutcome := do
  let context ← buildWorkspaceEvaluationContext services session request
  let result ← drawn.evaluateAdvisoryProposal context.requestHash
  let result := explainContext result context.contextResolution
  return {
    proposalResult := result
    evaluationSummary := buildEvaluationSummary services session result
    replayEvidence := buildReplayEvidence services drawn
      { session with latestProposalResult := some result } (some context.requestHash) }

/-- The session with the outcome of an evaluation as its latest. -/
def WorkspaceSession.withOutcome (outcome : WorkspaceEvaluationOutcome) : WorkspaceSession :=
  { session with
    latestProposalResult := some outcome.proposalResult
    evaluationSummary := some outcome.evaluationSummary
    latestReplayEvidence := some outcome.replayEvidence }

/-- `reevaluate_session`, up to its save, with the outcome of the evaluation. -/
def reevaluated : Except WorkspaceError (WorkspaceSession × WorkspaceEvaluationOutcome) := do
  let (session, request) ← buildSimulateRequest drawn session
  let outcome ← evaluate services drawn session request
  return (session.withOutcome outcome, outcome)

end Evaluate

section Spec

variable {services : WorkspaceServices} {drawn : WorkspaceDrawn} {session session' : WorkspaceSession}
  {request : ProposalSimulateRequest} {outcome : WorkspaceEvaluationOutcome}

/-- Building a request changes nothing of the session but its resolved context. -/
theorem buildSimulateRequest_eq_ok (h : buildSimulateRequest drawn session = .ok (session', request)) :
    ∃ resolvedContext, session' = { session with resolvedContext } := by
  unfold buildSimulateRequest at h
  split at h
  · split at h
    · cases h
    · cases h
    · obtain ⟨_, _, h⟩ := map_eq_ok.mp h
      cases h
      exact ⟨_, rfl⟩
  · split at h <;> cases h
    exact ⟨session.resolvedContext, rfl⟩

/-- The evidence of an evaluation has the hash of the draft that was evaluated. -/
theorem evaluate_eq_ok (h : evaluate services drawn session request = .ok outcome) :
    outcome.replayEvidence.draftStateHash = buildDraftStateHash services session.draftState ∧
      outcome.replayEvidence.evaluationRequestHash.isSome = true := by
  simp only [evaluate, bind_eq_ok] at h
  obtain ⟨_, _, _, _, h⟩ := h
  cases h
  exact ⟨rfl, rfl⟩

theorem reevaluated_eq_ok (h : reevaluated services drawn session = .ok (session', outcome)) :
    ∃ resolvedContext request,
      evaluate services drawn { session with resolvedContext } request = .ok outcome ∧
        session' = { session with resolvedContext }.withOutcome outcome := by
  simp only [reevaluated, bind_eq_ok, Prod.exists] at h
  obtain ⟨resolved, request, hrequest, _, houtcome, h⟩ := h
  obtain ⟨resolvedContext, rfl⟩ := buildSimulateRequest_eq_ok hrequest
  cases h
  exact ⟨resolvedContext, request, houtcome, rfl⟩

end Spec

end LotusAdvise.Workspace

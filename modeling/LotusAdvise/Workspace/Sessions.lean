import LotusAdvise.Proposals.Commands

/-! # Workspace sessions

An advisor edits a draft in a workspace session, has it evaluated, saves versions of it and
hands it off to the proposal lifecycle. The payloads that the workspace passes on without
looking inside are kept as their dumps.
-/

namespace LotusAdvise.Workspace

open Proposals (ProposalResult ProposalCreationStatus)

deriving instance DecidableEq for ProposalResult

inductive WorkspaceInputMode where
  | stateless
  | stateful
deriving DecidableEq

def WorkspaceInputMode.text : WorkspaceInputMode → String
  | .stateless => "stateless"
  | .stateful => "stateful"

structure WorkspaceTradeDraft where
  workspaceTradeId : String
  trade : JsonObject
deriving DecidableEq

structure WorkspaceCashFlowDraft where
  workspaceCashFlowId : String
  cashFlow : JsonObject
deriving DecidableEq

structure WorkspaceDraftState where
  options : JsonObject
  alternativesRequest : Option JsonObject := none
  referenceModel : Option JsonObject := none
  tradeDrafts : List WorkspaceTradeDraft := []
  cashFlowDrafts : List WorkspaceCashFlowDraft := []
deriving DecidableEq

structure ProposalSimulateRequest where
  portfolioSnapshot : JsonObject
  marketDataSnapshot : JsonObject
  shelfEntries : List JsonObject
  options : JsonObject
  proposedCashFlows : List JsonObject
  proposedTrades : List JsonObject
  referenceModel : Option JsonObject
  alternativesRequest : Option JsonObject
deriving DecidableEq

structure WorkspaceStatelessInput where
  simulateRequest : ProposalSimulateRequest
deriving DecidableEq

structure WorkspaceStatefulInput where
  portfolioId : String
  asOf : String
  householdId : Option String := none
  mandateId : Option String := none
  benchmarkId : Option String := none
deriving DecidableEq

structure WorkspaceResolvedContext where
  portfolioId : String
  asOf : String
  portfolioSnapshotId : Option String := none
  marketDataSnapshotId : Option String := none
  riskContextId : Option String := none
  reportingContextId : Option String := none
  sourceProvenance : Option JsonObject := none
  sourceCompleteness : Option JsonObject := none
deriving DecidableEq

structure WorkspaceEvaluationImpactSummary where
  portfolioValueDeltaBaseCcy : String
  tradeCount : ℕ
  cashFlowCount : ℕ
deriving DecidableEq

structure WorkspaceEvaluationSummary where
  status : ProposalCreationStatus
  gateDecision : Option JsonObject
  blockingIssueCount : ℕ
  reviewIssueCount : ℕ
  impactSummary : WorkspaceEvaluationImpactSummary
deriving DecidableEq

structure WorkspaceReplayEvidence where
  inputMode : WorkspaceInputMode
  resolvedContext : Option WorkspaceResolvedContext
  draftStateHash : String
  evaluationRequestHash : Option String
  capturedAt : String
  continuity : JsonObject
  riskLens : Option JsonObject
deriving DecidableEq

structure WorkspaceSavedVersionSummary where
  workspaceVersionId : String
  versionNumber : ℕ
  versionLabel : Option String
  savedBy : String
  savedAt : String
deriving DecidableEq

structure WorkspaceSavedVersion where
  workspaceVersionId : String
  versionNumber : ℕ
  versionLabel : Option String
  savedBy : String
  savedAt : String
  draftState : WorkspaceDraftState
  evaluationSummary : Option WorkspaceEvaluationSummary
  latestProposalResult : Option ProposalResult
  replayEvidence : WorkspaceReplayEvidence
deriving DecidableEq

structure WorkspaceLifecycleLink where
  proposalId : String
  currentVersionNo : ℕ
  lastHandoffAt : String
  lastHandoffBy : String
deriving DecidableEq

structure WorkspaceSession where
  workspaceId : String
  workspaceName : String
  inputMode : WorkspaceInputMode
  createdBy : String
  createdAt : String
  statelessInput : Option WorkspaceStatelessInput
  statefulInput : Option WorkspaceStatefulInput
  draftState : WorkspaceDraftState
  resolvedContext : Option WorkspaceResolvedContext
  evaluationSummary : Option WorkspaceEvaluationSummary
  latestProposalResult : Option ProposalResult
  latestReplayEvidence : Option WorkspaceReplayEvidence
  savedVersionCount : ℕ
  latestSavedVersion : Option WorkspaceSavedVersionSummary
  lifecycleLink : Option WorkspaceLifecycleLink
  savedVersions : List WorkspaceSavedVersion
deriving DecidableEq

structure WorkspaceSessionCreateRequest where
  workspaceName : String
  createdBy : String
  inputMode : WorkspaceInputMode
  statelessInput : Option WorkspaceStatelessInput := none
  statefulInput : Option WorkspaceStatefulInput := none

inductive WorkspaceError where
  | notFound (detail : String)
  | savedVersionNotFound (detail : String)
  | evaluationUnavailable (detail : String)
  | lifecycleHandoffUnavailable (detail : String)
  | valueError (detail : String)
  /-- An error of the proposal lifecycle, which the workspace does not translate. -/
  | lifecycle (error : Proposals.ProposalError)
  /-- A write that breaks a constraint of the tables. -/
  | integrity (constraint : String)
deriving DecidableEq

/-! ## Dumps -/

/-- An optional model, as a model dump writes it. -/
def dumpObject? : Option JsonObject → Json
  | none => .null
  | some dump => .obj dump

def dumpObjects (dumps : List JsonObject) : Json := .arr (dumps.map .obj)

def WorkspaceTradeDraft.dump (draft : WorkspaceTradeDraft) : JsonObject :=
  [("workspace_trade_id", .str draft.workspaceTradeId), ("trade", .obj draft.trade)]

def WorkspaceCashFlowDraft.dump (draft : WorkspaceCashFlowDraft) : JsonObject :=
  [("workspace_cash_flow_id", .str draft.workspaceCashFlowId), ("cash_flow", .obj draft.cashFlow)]

def WorkspaceDraftState.dump (draft : WorkspaceDraftState) : JsonObject :=
  [("options", .obj draft.options),
    ("alternatives_request", dumpObject? draft.alternativesRequest),
    ("reference_model", dumpObject? draft.referenceModel),
    ("trade_drafts", dumpObjects (draft.tradeDrafts.map WorkspaceTradeDraft.dump)),
    ("cash_flow_drafts", dumpObjects (draft.cashFlowDrafts.map WorkspaceCashFlowDraft.dump))]

def ProposalSimulateRequest.dump (request : ProposalSimulateRequest) : JsonObject :=
  [("portfolio_snapshot", .obj request.portfolioSnapshot),
    ("market_data_snapshot", .obj request.marketDataSnapshot),
    ("shelf_entries", dumpObjects request.shelfEntries),
    ("options", .obj request.options),
    ("proposed_cash_flows", dumpObjects request.proposedCashFlows),
    ("proposed_trades", dumpObjects request.proposedTrades),
    ("reference_model", dumpObject? request.referenceModel),
    ("alternatives_request", dumpObject? request.alternativesRequest)]

def WorkspaceResolvedContext.dump (context : WorkspaceResolvedContext) : JsonObject :=
  [("portfolio_id", .str context.portfolioId), ("as_of", .str context.asOf),
    ("portfolio_snapshot_id", .ofText? context.portfolioSnapshotId),
    ("market_data_snapshot_id", .ofText? context.marketDataSnapshotId),
    ("risk_context_id", .ofText? context.riskContextId),
    ("reporting_context_id", .ofText? context.reportingContextId),
    ("source_provenance", dumpObject? context.sourceProvenance),
    ("source_completeness", dumpObject? context.sourceCompleteness)]

/-- The dumps of the drafts are equal up to the order of the keys of an object. -/
def WorkspaceDraftState.SameContent (a b : WorkspaceDraftState) : Prop :=
  (Json.obj a.dump).canonical = (Json.obj b.dump).canonical

instance (a b : WorkspaceDraftState) : Decidable (a.SameContent b) :=
  inferInstanceAs (Decidable (_ = _))

@[refl] theorem WorkspaceDraftState.SameContent.refl (a : WorkspaceDraftState) : a.SameContent a :=
  rfl

@[symm] theorem WorkspaceDraftState.SameContent.symm {a b : WorkspaceDraftState}
    (h : a.SameContent b) : b.SameContent a :=
  Eq.symm h

/-! ## Services -/

/-- The selectors of the policy context. -/
structure ProposalPolicySelectors where
  householdId : Option String := none
  mandateId : Option String := none
  jurisdiction : Option String := none
  benchmarkId : Option String := none

structure WorkspaceServices where
  proposals : Proposals.Services
  /-- The dump of `EngineOptions()`. -/
  defaultEngineOptions : JsonObject
  buildAdvisoryPolicyContext : (inputMode resolutionSource : String) →
    ProposalPolicySelectors → JsonObject
  formatPortfolioDelta : ProposalResult → String
  containsSensitiveErrorDetail : String → Bool

/-- What the source system of record answers for a portfolio. -/
structure ResolvedStatefulContext where
  resolvedContext : WorkspaceResolvedContext
  simulateRequest : ProposalSimulateRequest

/-- What a command draws from outside while it works on a session: clock readings, identifiers, and
the answers of the source system and of the proposal evaluation. -/
structure WorkspaceDrawn where
  utcNow : String
  businessDate : String
  workspaceId : String
  workspaceVersionId : String
  draftItemId : ℕ → String
  /-- `none` where the source system does not resolve the context. -/
  statefulContext : Option ResolvedStatefulContext
  enrichForTradeDrafts : ProposalSimulateRequest → (asOf : String) →
    Except WorkspaceError ProposalSimulateRequest
  evaluateAdvisoryProposal : (requestHash : String) → Except WorkspaceError ProposalResult
  lifecycle : Proposals.Generated

/-- `safe_workspace_error_detail`. -/
def WorkspaceServices.safeWorkspaceErrorDetail (services : WorkspaceServices)
    (detail fallback : String) : String :=
  if services.containsSensitiveErrorDetail detail then fallback else detail

/-! ## Creation -/

section Create

variable (services : WorkspaceServices) (drawn : WorkspaceDrawn)

/-- Trades and cash flows of the request become draft items under new identifiers. -/
def buildDraftStateFromSimulateRequest (request : ProposalSimulateRequest) :
    WorkspaceDraftState where
  options := request.options
  alternativesRequest := request.alternativesRequest
  referenceModel := request.referenceModel
  tradeDrafts := request.proposedTrades.zipIdx.map fun (trade, n) => ⟨drawn.draftItemId n, trade⟩
  cashFlowDrafts := request.proposedCashFlows.zipIdx.map fun (cashFlow, n) =>
    ⟨drawn.draftItemId (request.proposedTrades.length + n), cashFlow⟩

def textOf? (object : JsonObject) (key : String) : Option String :=
  match JsonObject.get object key with
  | .str text => some text
  | _ => none

def buildStatelessWorkspaceResolvedContext (statelessInput : WorkspaceStatelessInput)
    (fallbackAsOf : String) : WorkspaceResolvedContext where
  portfolioId :=
    (textOf? statelessInput.simulateRequest.portfolioSnapshot "portfolio_id").getD ""
  asOf := (statelessInput.simulateRequest.referenceModel.bind (textOf? · "as_of")).getD fallbackAsOf
  portfolioSnapshotId := textOf? statelessInput.simulateRequest.portfolioSnapshot "snapshot_id"
  marketDataSnapshotId := textOf? statelessInput.simulateRequest.marketDataSnapshot "snapshot_id"

/-- A stateful session can be created while the source system is not available. -/
def buildInitialContext (request : WorkspaceSessionCreateRequest) :
    Except WorkspaceError (WorkspaceResolvedContext × WorkspaceDraftState) :=
  match request.inputMode with
  | .stateless =>
    match request.statelessInput with
    | none => .error (.valueError "stateless workspace creation requires stateless_input")
    | some statelessInput =>
      .ok (buildStatelessWorkspaceResolvedContext statelessInput drawn.businessDate,
        buildDraftStateFromSimulateRequest drawn statelessInput.simulateRequest)
  | .stateful =>
    match request.statefulInput, drawn.statefulContext with
    | none, _ => .error (.valueError "stateful workspace creation requires stateful_input")
    | some statefulInput, none =>
      .ok ({ portfolioId := statefulInput.portfolioId, asOf := statefulInput.asOf },
        { options := services.defaultEngineOptions })
    | some _, some resolved =>
      .ok (resolved.resolvedContext,
        buildDraftStateFromSimulateRequest drawn resolved.simulateRequest)

def buildWorkspaceSession (request : WorkspaceSessionCreateRequest)
    (draftState : WorkspaceDraftState) (resolvedContext : WorkspaceResolvedContext) :
    WorkspaceSession where
  workspaceId := drawn.workspaceId
  workspaceName := request.workspaceName
  inputMode := request.inputMode
  createdBy := request.createdBy
  createdAt := drawn.utcNow
  statelessInput := request.statelessInput
  statefulInput := request.statefulInput
  draftState
  resolvedContext := some resolvedContext
  evaluationSummary := none
  latestProposalResult := none
  latestReplayEvidence := none
  savedVersionCount := 0
  latestSavedVersion := none
  lifecycleLink := none
  savedVersions := []

/-- `create_session`, up to its save. -/
def createdSession (request : WorkspaceSessionCreateRequest) :
    Except WorkspaceError WorkspaceSession := do
  let (resolvedContext, draftState) ← buildInitialContext services drawn request
  return buildWorkspaceSession drawn request draftState resolvedContext

end Create

end LotusAdvise.Workspace

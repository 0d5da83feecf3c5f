import LotusAdvise.Workspace.Commands
import LotusAdvise.Workspace.SessionRepositories

/-! # Atomicity of draft actions

A draft action is applied, the session is saved, and only then is the new draft evaluated. A failing
evaluation leaves the new draft in the store, beside the evaluation of the old one.
-/

namespace LotusAdvise.Workspace

section Calls

variable {S : Type} (repository : SessionRepository S) (services : WorkspaceServices)
  (drawn : WorkspaceDrawn)

/-- The session when its request has been built, or could not be: the context is set before the
trades of the draft are enriched. -/
def resolvedInPlace (session : WorkspaceSession) : WorkspaceSession :=
  match session.inputMode, session.statefulInput, drawn.statefulContext with
  | .stateful, some _, some resolved =>
    { session with resolvedContext := some resolved.resolvedContext }
  | _, _, _ => session

/-- `reevaluate_session`: the store afterwards, and the session or the error. -/
def reevaluateSession (store : S) (workspaceId : String) :
    S × Except WorkspaceError WorkspaceSession :=
  match repository.get store workspaceId with
  | .error error => (store, .error error)
  | .ok session =>
    match buildSimulateRequest drawn session with
    | .error error => (repository.changeInPlace store (resolvedInPlace drawn session), .error error)
    | .ok (session, simulateRequest) =>
      match evaluate services drawn session simulateRequest with
      | .error error => (repository.changeInPlace store session, .error error)
      | .ok outcome =>
        match repository.save (repository.changeInPlace store (session.withOutcome outcome))
          (session.withOutcome outcome) with
        | .error error =>
          (repository.changeInPlace store (session.withOutcome outcome), .error error)
        | .ok store => (store, .ok (session.withOutcome outcome))

/-- `apply_draft_action`. An action that is refused has changed nothing. -/
def applyDraftAction (store : S) (workspaceId : String) (request : WorkspaceDraftActionRequest) :
    S × Except WorkspaceError WorkspaceSession :=
  match repository.get store workspaceId with
  | .error error => (store, .error error)
  | .ok session =>
    match draftChanged drawn request session with
    | .error error => (store, .error error)
    | .ok session =>
      match repository.save (repository.changeInPlace store session) session with
      | .error error => (repository.changeInPlace store session, .error error)
      | .ok store => reevaluateSession repository services drawn store workspaceId

end Calls

/-! ## What is claimed of a call -/

section Statement

variable (services : WorkspaceServices) (drawn : WorkspaceDrawn)

/-- The source resolves to a context and a request for the session. -/
inductive ResolvesTo (session : WorkspaceSession) :
    Option WorkspaceResolvedContext → ProposalSimulateRequest → Prop where
  | stateful (statefulInput : WorkspaceStatefulInput) (resolved : ResolvedStatefulContext)
    (request : ProposalSimulateRequest) (mode : session.inputMode = .stateful)
    (input : session.statefulInput = some statefulInput)
    (context : drawn.statefulContext = some resolved)
    (enriched : drawn.enrichForTradeDrafts
      (applyWorkspaceDraftState resolved.simulateRequest session.draftState)
      resolved.resolvedContext.asOf = .ok request) :
    ResolvesTo session (some resolved.resolvedContext) request
  | stateless (statelessInput : WorkspaceStatelessInput) (mode : session.inputMode = .stateless)
    (input : session.statelessInput = some statelessInput) :
    ResolvesTo session session.resolvedContext
      (applyWorkspaceDraftState statelessInput.simulateRequest session.draftState)

/-- The source resolves the session, and its proposal is evaluated. -/
def Evaluable (session : WorkspaceSession) : Prop :=
  ∃ resolvedContext request result, ResolvesTo drawn session (some resolvedContext) request ∧
    drawn.evaluateAdvisoryProposal
      (buildSimulationRequestHash services session.inputMode resolvedContext request) = .ok result

/-- The result, the summary and the evidence of a session are of one evaluation of its draft. -/
def EvaluationBelongs (session : WorkspaceSession) : Prop :=
  ∃ resolvedContext request result summary evidence,
    session.resolvedContext = some resolvedContext ∧
      ResolvesTo drawn session (some resolvedContext) request ∧
      drawn.evaluateAdvisoryProposal
        (buildSimulationRequestHash services session.inputMode resolvedContext request) =
          .ok result ∧
      (∃ contextResolution,
        session.latestProposalResult = some (explainContext result contextResolution)) ∧
      session.evaluationSummary = some summary ∧ summary.status = result.status ∧
      summary.impactSummary.tradeCount = session.draftState.tradeDrafts.length ∧
      summary.impactSummary.cashFlowCount = session.draftState.cashFlowDrafts.length ∧
      session.latestReplayEvidence = some evidence ∧
      evidence.draftStateHash = buildDraftStateHash services session.draftState ∧
      evidence.resolvedContext = some resolvedContext ∧
      evidence.evaluationRequestHash = some
        (buildSimulationRequestHash services session.inputMode resolvedContext request)

/-- A call that raises leaves the session as it was stored, and one that returns leaves it with an
evaluation of its draft. -/
def DraftActionAtomic {S : Type} (repository : SessionRepository S) (store : S)
    (workspaceId : String) (request : WorkspaceDraftActionRequest) : Prop :=
  match applyDraftAction repository services drawn store workspaceId request with
  | (store', .error _) => repository.get store' workspaceId = repository.get store workspaceId
  | (store', .ok _) =>
    ∃ session, repository.get store' workspaceId = .ok session ∧
      EvaluationBelongs services drawn session

/-- An item of the draft is given a new content. -/
def Updates {Item : Type} (idOf : Item → String) (id : String) (change : Item → Item)
    (items items' : List Item) : Prop :=
  ∃ before item after, items = before ++ item :: after ∧ (∀ other ∈ before, idOf other ≠ id) ∧
    idOf item = id ∧ items' = before ++ change item :: after

/-- The action has all that it needs, and makes this draft of the one it is applied to. -/
inductive Edits (draft : WorkspaceDraftState) (request : WorkspaceDraftActionRequest) :
    WorkspaceDraftState → Prop where
  | addTrade (trade : JsonObject) (action : request.actionType = .addTrade)
    (given : request.trade = some trade) :
    Edits draft request
      { draft with tradeDrafts := draft.tradeDrafts ++ [⟨drawn.draftItemId 0, trade⟩] }
  | updateTrade (id : String) (trade : JsonObject) (tradeDrafts : List WorkspaceTradeDraft)
    (action : request.actionType = .updateTrade) (named : request.workspaceTradeId = some id)
    (given : request.trade = some trade)
    (updates : Updates WorkspaceTradeDraft.workspaceTradeId id
      (fun item => { item with trade }) draft.tradeDrafts tradeDrafts) :
    Edits draft request { draft with tradeDrafts }
  | removeTrade (id : String) (action : request.actionType = .removeTrade)
    (named : request.workspaceTradeId = some id)
    (found : ∃ item ∈ draft.tradeDrafts, item.workspaceTradeId = id) :
    Edits draft request
      { draft with
        tradeDrafts := draft.tradeDrafts.filter fun item => item.workspaceTradeId ≠ id }
  | addCashFlow (cashFlow : JsonObject) (action : request.actionType = .addCashFlow)
    (given : request.cashFlow = some cashFlow) :
    Edits draft request
      { draft with cashFlowDrafts := draft.cashFlowDrafts ++ [⟨drawn.draftItemId 0, cashFlow⟩] }
  | updateCashFlow (id : String) (cashFlow : JsonObject)
    (cashFlowDrafts : List WorkspaceCashFlowDraft)
    (action : request.actionType = .updateCashFlow)
    (named : request.workspaceCashFlowId = some id) (given : request.cashFlow = some cashFlow)
    (updates : Updates WorkspaceCashFlowDraft.workspaceCashFlowId id
      (fun item => { item with cashFlow }) draft.cashFlowDrafts cashFlowDrafts) :
    Edits draft request { draft with cashFlowDrafts }
  | removeCashFlow (id : String) (action : request.actionType = .removeCashFlow)
    (named : request.workspaceCashFlowId = some id)
    (found : ∃ item ∈ draft.cashFlowDrafts, item.workspaceCashFlowId = id) :
    Edits draft request
      { draft with
        cashFlowDrafts := draft.cashFlowDrafts.filter fun item => item.workspaceCashFlowId ≠ id }
  | replaceOptions (options : JsonObject) (action : request.actionType = .replaceOptions)
    (given : request.options = some options) :
    Edits draft request { draft with options }

/-- A draft that the action makes can be evaluated, or is the one that is stored, and no object in
memory has got another context for it. -/
def AtomicWhen (aliases : Bool) (session : WorkspaceSession)
    (request : WorkspaceDraftActionRequest) : Prop :=
  ∀ draft, Edits drawn session.draftState request draft →
    Evaluable services drawn { session with draftState := draft } ∨
      draft = session.draftState ∧
        (aliases = true → resolvedInPlace drawn session = session)

end Statement

/-! ## Edits -/

section Spec

variable {services : WorkspaceServices} {drawn : WorkspaceDrawn}
  {session session' : WorkspaceSession} {draft draft' : WorkspaceDraftState}
  {request : WorkspaceDraftActionRequest}

theorem applyWorkspaceDraftActionToState_eq_ok :
    applyWorkspaceDraftActionToState drawn draft request = .ok draft' ↔
      Edits drawn draft request draft' := by
  constructor
  · intro h
    unfold applyWorkspaceDraftActionToState at h
    split at h
    · next action =>
      obtain ⟨trade, htrade, h⟩ := bind_eq_ok.mp h
      cases h
      exact .addTrade trade action (requireField_eq_ok.mp htrade)
    · next action =>
      simp only [updateTradeDraft, bind_eq_ok] at h
      obtain ⟨id, hid, tradeDrafts, hchange, trade, htrade, h⟩ := h
      cases h
      have hgiven := requireField_eq_ok.mp htrade
      rw [changeFirst_eq_ok, hgiven] at hchange
      exact .updateTrade id trade tradeDrafts action (requireField_eq_ok.mp hid) hgiven hchange
    · next action =>
      simp only [removeTradeDraft, bind_eq_ok, removeItems_eq_ok] at h
      obtain ⟨id, hid, _, ⟨hfound, rfl⟩, h⟩ := h
      cases h
      exact .removeTrade id action (requireField_eq_ok.mp hid) hfound
    · next action =>
      obtain ⟨cashFlow, hcashFlow, h⟩ := bind_eq_ok.mp h
      cases h
      exact .addCashFlow cashFlow action (requireField_eq_ok.mp hcashFlow)
    · next action =>
      simp only [updateCashFlowDraft, bind_eq_ok] at h
      obtain ⟨id, hid, cashFlowDrafts, hchange, cashFlow, hcashFlow, h⟩ := h
      cases h
      have hgiven := requireField_eq_ok.mp hcashFlow
      rw [changeFirst_eq_ok, hgiven] at hchange
      exact .updateCashFlow id cashFlow cashFlowDrafts action (requireField_eq_ok.mp hid) hgiven
        hchange
    · next action =>
      simp only [removeCashFlowDraft, bind_eq_ok, removeItems_eq_ok] at h
      obtain ⟨id, hid, _, ⟨hfound, rfl⟩, h⟩ := h
      cases h
      exact .removeCashFlow id action (requireField_eq_ok.mp hid) hfound
    · next action =>
      obtain ⟨options, hoptions, h⟩ := bind_eq_ok.mp h
      cases h
      exact .replaceOptions options action (requireField_eq_ok.mp hoptions)
  · intro h
    cases h with
    | addTrade trade action given =>
      rw [applyWorkspaceDraftActionToState, action]
      exact bind_eq_ok.mpr ⟨_, requireField_eq_ok.mpr given, rfl⟩
    | updateTrade id trade tradeDrafts action named given updates =>
      rw [applyWorkspaceDraftActionToState, action]
      simp only [updateTradeDraft, bind_eq_ok]
      refine ⟨id, requireField_eq_ok.mpr named, tradeDrafts, ?_, trade,
        requireField_eq_ok.mpr given, rfl⟩
      rw [changeFirst_eq_ok, given]
      exact updates
    | removeTrade id action named found =>
      rw [applyWorkspaceDraftActionToState, action]
      exact bind_eq_ok.mpr ⟨id, requireField_eq_ok.mpr named,
        bind_eq_ok.mpr ⟨_, removeItems_eq_ok.mpr ⟨found, rfl⟩, rfl⟩⟩
    | addCashFlow cashFlow action given =>
      rw [applyWorkspaceDraftActionToState, action]
      exact bind_eq_ok.mpr ⟨_, requireField_eq_ok.mpr given, rfl⟩
    | updateCashFlow id cashFlow cashFlowDrafts action named given updates =>
      rw [applyWorkspaceDraftActionToState, action]
      simp only [updateCashFlowDraft, bind_eq_ok]
      refine ⟨id, requireField_eq_ok.mpr named, cashFlowDrafts, ?_, cashFlow,
        requireField_eq_ok.mpr given, rfl⟩
      rw [changeFirst_eq_ok, given]
      exact updates
    | removeCashFlow id action named found =>
      rw [applyWorkspaceDraftActionToState, action]
      exact bind_eq_ok.mpr ⟨id, requireField_eq_ok.mpr named,
        bind_eq_ok.mpr ⟨_, removeItems_eq_ok.mpr ⟨found, rfl⟩, rfl⟩⟩
    | replaceOptions options action given =>
      rw [applyWorkspaceDraftActionToState, action]
      exact bind_eq_ok.mpr ⟨_, requireField_eq_ok.mpr given, rfl⟩

/-! ## Evaluations -/

variable {resolvedContext : Option WorkspaceResolvedContext}
  {simulateRequest : ProposalSimulateRequest} {outcome : WorkspaceEvaluationOutcome}

theorem ResolvesTo.resolvedContext_eq
    (h : ResolvesTo drawn session resolvedContext simulateRequest) :
    (resolvedInPlace drawn session).resolvedContext = resolvedContext := by
  cases h with
  | stateful statefulInput resolved _ mode input context _ =>
    simp only [resolvedInPlace, mode, input, context]
  | stateless _ mode _ => simp only [resolvedInPlace, mode]

theorem buildSimulateRequest_eq_ok_iff :
    buildSimulateRequest drawn session = .ok (session', simulateRequest) ↔
      session' = resolvedInPlace drawn session ∧
        ∃ resolvedContext, ResolvesTo drawn session resolvedContext simulateRequest := by
  constructor
  · intro h
    unfold buildSimulateRequest at h
    split at h
    · next mode =>
      split at h
      · cases h
      · cases h
      · next input context =>
        obtain ⟨_, enriched, h⟩ := map_eq_ok.mp h
        cases h
        refine ⟨?_, _, .stateful _ _ simulateRequest mode input context enriched⟩
        simp only [resolvedInPlace, mode, input, context]
    · next mode =>
      split at h
      · cases h
      · next input =>
        cases h
        refine ⟨?_, _, .stateless _ mode input⟩
        simp only [resolvedInPlace, mode]
  · rintro ⟨rfl, resolvedContext, h⟩
    cases h with
    | stateful statefulInput resolved _ mode input context enriched =>
      simp only [buildSimulateRequest, resolvedInPlace, mode, input, context, enriched]
      rfl
    | stateless _ mode input => simp only [buildSimulateRequest, resolvedInPlace, mode, input]

/-- The context of the evaluation and its result decide the outcome. -/
theorem evaluate_eq_ok_iff : evaluate services drawn session simulateRequest = .ok outcome ↔
    ∃ context result,
      buildWorkspaceEvaluationContext services session simulateRequest = .ok context ∧
      drawn.evaluateAdvisoryProposal context.requestHash = .ok result ∧
      outcome =
        { proposalResult := explainContext result context.contextResolution
          evaluationSummary := buildEvaluationSummary services session
            (explainContext result context.contextResolution)
          replayEvidence := buildReplayEvidence services drawn
            { session with
              latestProposalResult := some (explainContext result context.contextResolution) }
            (some context.requestHash) } := by
  simp only [evaluate, bind_eq_ok]
  constructor
  · rintro ⟨context, hcontext, result, hresult, h⟩
    cases h
    exact ⟨context, result, hcontext, hresult, rfl⟩
  · rintro ⟨context, result, hcontext, hresult, rfl⟩
    exact ⟨context, hcontext, result, hresult, rfl⟩

/-- There is a context for the evaluation exactly if the session has one. -/
theorem buildWorkspaceEvaluationContext_eq_ok {requestHash : String} :
    (∃ context, buildWorkspaceEvaluationContext services session simulateRequest = .ok context ∧
        context.requestHash = requestHash) ↔
      ∃ resolvedContext, session.resolvedContext = some resolvedContext ∧ requestHash =
        buildSimulationRequestHash services session.inputMode resolvedContext simulateRequest := by
  unfold buildWorkspaceEvaluationContext
  split
  · next hnone => simp [hnone]
  · next resolvedContext hcontext => simp [hcontext, eq_comm]

theorem resolvedInPlace_eq (drawn : WorkspaceDrawn) (session : WorkspaceSession) :
    ∃ resolvedContext, resolvedInPlace drawn session = { session with resolvedContext } := by
  unfold resolvedInPlace
  split
  · exact ⟨_, rfl⟩
  · exact ⟨session.resolvedContext, rfl⟩

theorem evaluable_iff : Evaluable services drawn session ↔
    ∃ simulateRequest outcome, (∃ resolvedContext,
      ResolvesTo drawn session resolvedContext simulateRequest) ∧
        evaluate services drawn (resolvedInPlace drawn session) simulateRequest = .ok outcome := by
  obtain ⟨inPlace, hinPlace⟩ := resolvedInPlace_eq drawn session
  have hmode : (resolvedInPlace drawn session).inputMode = session.inputMode := by rw [hinPlace]
  constructor
  · rintro ⟨resolvedContext, simulateRequest, result, hresolves, hresult⟩
    obtain ⟨context, hcontext, hhash⟩ := buildWorkspaceEvaluationContext_eq_ok.mpr
      ⟨resolvedContext, hresolves.resolvedContext_eq, rfl⟩
    rw [hmode] at hhash
    exact ⟨simulateRequest, _, ⟨_, hresolves⟩,
      evaluate_eq_ok_iff.mpr ⟨context, result, hcontext, hhash ▸ hresult, rfl⟩⟩
  · rintro ⟨simulateRequest, outcome, ⟨_, hresolves⟩, hevaluate⟩
    obtain ⟨context, result, hcontext, hresult, -⟩ := evaluate_eq_ok_iff.mp hevaluate
    obtain ⟨resolvedContext, hresolved, hhash⟩ :=
      buildWorkspaceEvaluationContext_eq_ok.mp ⟨context, hcontext, rfl⟩
    rw [hresolves.resolvedContext_eq] at hresolved
    rw [hhash, hmode] at hresult
    exact ⟨resolvedContext, simulateRequest, result, hresolved ▸ hresolves, hresult⟩

/-- The outcome of an evaluation belongs to the session that it is written to. -/
theorem evaluationBelongs_withOutcome
    (hresolves : ResolvesTo drawn session resolvedContext simulateRequest)
    (hevaluate : evaluate services drawn (resolvedInPlace drawn session) simulateRequest =
      .ok outcome) :
    EvaluationBelongs services drawn ((resolvedInPlace drawn session).withOutcome outcome) := by
  obtain ⟨context, result, hcontext, hresult, rfl⟩ := evaluate_eq_ok_iff.mp hevaluate
  obtain ⟨resolved, hresolved, hhash⟩ :=
    buildWorkspaceEvaluationContext_eq_ok.mp ⟨context, hcontext, rfl⟩
  have hsame : ∀ outcome, ResolvesTo drawn ((resolvedInPlace drawn session).withOutcome outcome)
      (some resolved) simulateRequest := by
    intro outcome
    have hcontext' := hresolves.resolvedContext_eq.symm.trans hresolved
    cases hresolves with
    | stateful statefulInput core _ mode input context enriched =>
      rw [← hcontext']
      simp only [resolvedInPlace, mode, input, context]
      exact .stateful statefulInput core simulateRequest rfl rfl context enriched
    | stateless statelessInput mode input =>
      rw [← hcontext']
      simp only [resolvedInPlace, mode]
      exact .stateless statelessInput mode input
  refine ⟨resolved, simulateRequest, result, _, _, hresolved, hsame _, hhash ▸ hresult,
    ⟨context.contextResolution, rfl⟩, rfl, rfl, rfl, rfl, rfl, rfl, hresolved, ?_⟩
  exact congrArg some hhash

/-! ## Calls -/

section Calls

variable {S : Type} {repository : SessionRepository S} {initial store : S} {aliases : Bool}
  {workspaceId : String}

theorem sameVersions_withDraft (session : WorkspaceSession) (draftState : WorkspaceDraftState) :
    session.SameVersions { session with draftState } :=
  ⟨rfl, rfl, rfl, rfl⟩

theorem sameVersions_resolvedInPlace (drawn : WorkspaceDrawn) (session : WorkspaceSession) :
    session.SameVersions (resolvedInPlace drawn session) := by
  obtain ⟨resolvedContext, h⟩ := resolvedInPlace_eq drawn session
  rw [h]
  exact ⟨rfl, rfl, rfl, rfl⟩

/-- A re-evaluation that succeeds stores the session with its evaluation. -/
theorem reevaluateSession_of_evaluable (laws : repository.Lawful initial aliases)
    (hreached : repository.Reached initial store)
    (hget : repository.get store workspaceId = .ok session)
    (h : Evaluable services drawn session) :
    ∃ store' session', reevaluateSession repository services drawn store workspaceId =
        (store', .ok session') ∧
      repository.get store' workspaceId = .ok session' ∧
      EvaluationBelongs services drawn session' := by
  obtain ⟨simulateRequest, outcome, ⟨_, hresolves⟩, hevaluate⟩ := evaluable_iff.mp h
  have hbuilt := buildSimulateRequest_eq_ok_iff.mpr ⟨rfl, _, hresolves⟩
  have hsame : session.SameVersions ((resolvedInPlace drawn session).withOutcome outcome) := by
    obtain ⟨hid, hversions, hcount, hlatest⟩ := sameVersions_resolvedInPlace drawn session
    exact ⟨hid, hversions, hcount, hlatest⟩
  have hchanged := laws.get_changeInPlace hreached hget hsame
  have hkept : (if aliases then (resolvedInPlace drawn session).withOutcome outcome
      else session).SameVersions ((resolvedInPlace drawn session).withOutcome outcome) := by
    split
    · exact ⟨rfl, rfl, rfl, rfl⟩
    · exact hsame
  obtain ⟨store', hsaved, hback⟩ := laws.save_get (hreached.changes _) hchanged hkept
  refine ⟨store', _, ?_, hback, evaluationBelongs_withOutcome hresolves hevaluate⟩
  simp only [reevaluateSession, hget, hbuilt, hevaluate, hsaved]

/-- A re-evaluation that fails leaves the resolved context, where sessions are not copied. -/
theorem reevaluateSession_of_not_evaluable (laws : repository.Lawful initial aliases)
    (hreached : repository.Reached initial store)
    (hget : repository.get store workspaceId = .ok session)
    (h : ¬ Evaluable services drawn session) :
    ∃ store' error, reevaluateSession repository services drawn store workspaceId =
        (store', .error error) ∧
      repository.get store' workspaceId =
        .ok (if aliases then resolvedInPlace drawn session else session) := by
  have hchanged := laws.get_changeInPlace hreached hget (sameVersions_resolvedInPlace drawn session)
  unfold reevaluateSession
  rw [hget]
  dsimp only
  split
  · next error hbuilt => exact ⟨_, error, rfl, hchanged⟩
  · next resolved simulateRequest hbuilt =>
    obtain ⟨rfl, hresolves⟩ := buildSimulateRequest_eq_ok_iff.mp hbuilt
    split
    · next error hevaluate => exact ⟨_, error, rfl, hchanged⟩
    · next outcome hevaluate =>
      exact (h (evaluable_iff.mpr ⟨simulateRequest, outcome, hresolves, hevaluate⟩)).elim

/-- What is left after a failing evaluation is the stored session exactly if nothing was edited, and
no context has been resolved into an object of the store. -/
theorem unchanged_iff :
    (if aliases then resolvedInPlace drawn { session with draftState := draft }
      else { session with draftState := draft }) = session ↔
      draft = session.draftState ∧
        (aliases = true → resolvedInPlace drawn session = session) := by
  have hdraft : ∀ edited : WorkspaceSession, edited.draftState = draft → edited = session →
      draft = session.draftState := by
    rintro edited rfl rfl
    rfl
  constructor
  · intro h
    have hsame : draft = session.draftState := by
      refine hdraft _ ?_ h
      obtain ⟨resolvedContext, hinPlace⟩ :=
        resolvedInPlace_eq drawn { session with draftState := draft }
      split
      · rw [hinPlace]
      · rfl
    subst hsame
    refine ⟨rfl, fun haliases => ?_⟩
    rwa [if_pos haliases] at h
  · rintro ⟨rfl, h⟩
    split
    · next haliases => exact h haliases
    · rfl

/-- An action that is applied is saved before the draft is evaluated. -/
theorem applyDraftAction_of_edits (services : WorkspaceServices)
    (laws : repository.Lawful initial aliases)
    (hreached : repository.Reached initial store)
    (hget : repository.get store workspaceId = .ok session)
    (h : Edits drawn session.draftState request draft) :
    ∃ store', repository.Reached initial store' ∧
      repository.get store' workspaceId = .ok { session with draftState := draft } ∧
      applyDraftAction repository services drawn store workspaceId request =
        reevaluateSession repository services drawn store' workspaceId := by
  have hchanged : draftChanged drawn request session = .ok { session with draftState := draft } :=
    bind_eq_ok.mpr ⟨draft, mapError_eq_ok.mpr (applyWorkspaceDraftActionToState_eq_ok.mpr h), rfl⟩
  have hinPlace := laws.get_changeInPlace hreached hget (sameVersions_withDraft session draft)
  have hkept : (if aliases then { session with draftState := draft }
      else session).SameVersions { session with draftState := draft } := by
    split
    · exact ⟨rfl, rfl, rfl, rfl⟩
    · exact sameVersions_withDraft session draft
  obtain ⟨store', hsaved, hback⟩ := laws.save_get (hreached.changes _) hinPlace hkept
  refine ⟨store', (hreached.changes _).saves _ hsaved, hback, ?_⟩
  simp only [applyDraftAction, hget, hchanged, hsaved]

theorem applyDraftAction_of_refused (services : WorkspaceServices)
    (hget : repository.get store workspaceId = .ok session)
    (h : ∀ draft, ¬ Edits drawn session.draftState request draft) :
    ∃ error, applyDraftAction repository services drawn store workspaceId request =
      (store, .error error) := by
  unfold applyDraftAction
  rw [hget]
  dsimp only
  split
  · next error _ => exact ⟨error, rfl⟩
  · next changed hchanged =>
    obtain ⟨draft, hdraft, -⟩ := bind_eq_ok.mp hchanged
    exact (h draft (applyWorkspaceDraftActionToState_eq_ok.mp (mapError_eq_ok.mp hdraft))).elim

/-- An action makes one draft of a draft. -/
theorem Edits.unique {other : WorkspaceDraftState} (h : Edits drawn draft request draft')
    (hother : Edits drawn draft request other) : draft' = other :=
  Except.ok.inj ((applyWorkspaceDraftActionToState_eq_ok.mpr h).symm.trans
    (applyWorkspaceDraftActionToState_eq_ok.mpr hother))

theorem draftActionAtomic_iff (laws : repository.Lawful initial aliases)
    (hreached : repository.Reached initial store)
    (hget : repository.get store workspaceId = .ok session) :
    DraftActionAtomic services drawn repository store workspaceId request ↔
      AtomicWhen services drawn aliases session request := by
  by_cases hedits : ∃ draft, Edits drawn session.draftState request draft
  · obtain ⟨draft, hedit⟩ := hedits
    obtain ⟨store', hreached', hget', happly⟩ :=
      applyDraftAction_of_edits services laws hreached hget hedit
    have hwhen : AtomicWhen services drawn aliases session request ↔
        Evaluable services drawn { session with draftState := draft } ∨
          draft = session.draftState ∧
            (aliases = true → resolvedInPlace drawn session = session) :=
      ⟨fun h => h draft hedit, fun h other hother => hedit.unique hother ▸ h⟩
    rw [hwhen, DraftActionAtomic, happly]
    by_cases hevaluable : Evaluable services drawn { session with draftState := draft }
    · obtain ⟨store'', session'', hcall, hstored, hbelongs⟩ :=
        reevaluateSession_of_evaluable laws hreached' hget' hevaluable
      rw [hcall]
      exact iff_of_true ⟨session'', hstored, hbelongs⟩ (.inl hevaluable)
    · obtain ⟨store'', error, hcall, hstored⟩ :=
        reevaluateSession_of_not_evaluable laws hreached' hget' hevaluable
      rw [hcall, or_iff_right hevaluable]
      change repository.get store'' workspaceId = repository.get store workspaceId ↔ _
      rw [hstored, hget, Except.ok.injEq]
      exact unchanged_iff
  · have hrefused := not_exists.mp hedits
    obtain ⟨error, hcall⟩ := applyDraftAction_of_refused services hget hrefused
    rw [DraftActionAtomic, hcall]
    exact iff_of_true rfl fun draft hedit => (hrefused draft hedit).elim

end Calls

end Spec

/-- In either repository, a draft action leaves a stored session as it was or with an evaluation of
its draft exactly if every draft that the action makes can be evaluated, or is no other draft. -/
theorem draft_action_atomic_iff (services : WorkspaceServices) (drawn : WorkspaceDrawn)
    (request : WorkspaceDraftActionRequest) (workspaceId : String) (session : WorkspaceSession) :
    (∀ tables, postgresSessions.Reached {} tables →
      postgresSessions.get tables workspaceId = .ok session →
        (DraftActionAtomic services drawn postgresSessions tables workspaceId request ↔
          AtomicWhen services drawn false session request)) ∧
    ∀ maxSize sessions, 0 < maxSize → (inMemorySessions maxSize).Reached [] sessions →
      (inMemorySessions maxSize).get sessions workspaceId = .ok session →
        (DraftActionAtomic services drawn (inMemorySessions maxSize) sessions workspaceId request ↔
          AtomicWhen services drawn true session request) := by
  refine ⟨fun tables hreached hget => ?_, fun maxSize sessions hsize hreached hget => ?_⟩
  · exact draftActionAtomic_iff postgresSessions_lawful hreached hget
  · exact draftActionAtomic_iff (inMemorySessions_lawful hsize) hreached hget

namespace Sample

def growth : WorkspaceSession where
  workspaceId := "aws_1"
  workspaceName := "Growth"
  inputMode := .stateless
  createdBy := "advisor_1"
  createdAt := "2026-03-26T09:00:00+00:00"
  statelessInput := some ⟨simulateRequest⟩
  statefulInput := none
  draftState := { options := [] }
  resolvedContext := some { portfolioId := "pf_01", asOf := "2026-03-26" }
  evaluationSummary := none
  latestProposalResult := none
  latestReplayEvidence := none
  savedVersionCount := 0
  latestSavedVersion := none
  lifecycleLink := none
  savedVersions := []

/-- The session with bought trades under these identifiers. -/
def growthWith (tradeIds : List String) : WorkspaceSession :=
  { growth with
    draftState := { options := [], tradeDrafts := tradeIds.map (⟨·, [("side", .str "BUY")]⟩) } }

def growthTables : WorkspaceTables := { sessions := [workspaceSessionValues growth] }

def growthSessions : WorkspaceSessions := [("aws_1", growth)]

def buy : WorkspaceDraftActionRequest :=
  { actorId := "advisor_1", actionType := .addTrade, trade := some [("side", .str "BUY")] }

theorem growthTables_reached : postgresSessions.Reached {} growthTables :=
  .saves growth .initial rfl

theorem growthSessions_reached : (inMemorySessions 1).Reached [] growthSessions :=
  .saves growth .initial rfl

theorem growth_evaluable (draftState : WorkspaceDraftState) :
    Evaluable services (drawn 2) { growth with draftState } :=
  ⟨_, _, _, .stateless ⟨simulateRequest⟩ rfl rfl, rfl⟩

end Sample

/-- A trade is added and evaluated. -/
theorem draft_action_atomic_iff_evaluated :
    DraftActionAtomic Sample.services (Sample.drawn 2) postgresSessions Sample.growthTables "aws_1"
        Sample.buy ∧
      DraftActionAtomic Sample.services (Sample.drawn 2) (inMemorySessions 1) Sample.growthSessions
        "aws_1" Sample.buy := by
  obtain ⟨hpostgres, hmemory⟩ := draft_action_atomic_iff Sample.services (Sample.drawn 2) Sample.buy
    "aws_1" Sample.growth
  constructor
  · exact (hpostgres _ Sample.growthTables_reached rfl).mpr
      fun draft _ => .inl (Sample.growth_evaluable draft)
  · exact (hmemory 1 _ Nat.one_pos Sample.growthSessions_reached rfl).mpr
      fun draft _ => .inl (Sample.growth_evaluable draft)

/-- A trade is added, its evaluation is not available, and the trade stays in the stored draft. -/
theorem draft_kept_after_failure :
    ¬ DraftActionAtomic Sample.services (Sample.unavailable 2) postgresSessions Sample.growthTables
        "aws_1" Sample.buy ∧
      ¬ DraftActionAtomic Sample.services (Sample.unavailable 2) (inMemorySessions 1)
        Sample.growthSessions "aws_1" Sample.buy := by
  have hpostgres : applyDraftAction postgresSessions Sample.services (Sample.unavailable 2)
      Sample.growthTables "aws_1" Sample.buy =
        ({ sessions := [workspaceSessionValues (Sample.growthWith ["wtd_020"])] },
          .error (.evaluationUnavailable "WORKSPACE_EVALUATION_UNAVAILABLE")) := rfl
  have hmemory : applyDraftAction (inMemorySessions 1) Sample.services (Sample.unavailable 2)
      Sample.growthSessions "aws_1" Sample.buy =
        ([("aws_1", Sample.growthWith ["wtd_020"])],
          .error (.evaluationUnavailable "WORKSPACE_EVALUATION_UNAVAILABLE")) := rfl
  have hdraft : Sample.growthWith ["wtd_020"] ≠ Sample.growth := by decide
  constructor
  · unfold DraftActionAtomic
    rw [hpostgres]
    exact fun h => hdraft (Except.ok.inj h)
  · unfold DraftActionAtomic
    rw [hmemory]
    exact fun h => hdraft (Except.ok.inj h)

end LotusAdvise.Workspace

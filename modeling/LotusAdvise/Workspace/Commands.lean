import LotusAdvise.Foundations.Workers
import LotusAdvise.Proposals.Postgres
import LotusAdvise.Workspace.Handoffs
import LotusAdvise.Workspace.Postgres

/-! # Workspace commands

A command reads the session, works on its copy and saves the copy; a draft action then
re-evaluates in a second pass, and a handoff calls the proposal lifecycle before it saves.
Between these steps other commands may run, and a command that is never continued has
crashed.
-/

namespace LotusAdvise.Workspace

open Workers

/-- The commands on a session. -/
inductive SessionCommand where
  | reevaluateSession
  | applyDraftAction (request : WorkspaceDraftActionRequest)
  | saveVersion (request : WorkspaceSaveRequest)
  | resumeVersion (request : WorkspaceResumeRequest)
  | handoffToProposalLifecycle (request : WorkspaceLifecycleHandoffRequest)
    (idempotencyKey correlationId : Option String)

inductive WorkspaceCommand where
  | createSession (request : WorkspaceSessionCreateRequest)
  | onSession (workspaceId : String) (command : SessionCommand)

inductive WorkspaceResponse where
  | session (session : WorkspaceSession)
  | savedVersion (session : WorkspaceSession) (version : WorkspaceSavedVersion)
  | handedOff (session : WorkspaceSession) (action : WorkspaceHandoffAction)
    (proposal : Proposals.ProposalCreateResponse)

/-- What a command does after a save: a draft action goes on to re-evaluate. -/
inductive AfterSave where
  | returns (response : WorkspaceResponse)
  | reevaluates (workspaceId : String)

/-- An evaluation that was made: of this draft, with this outcome. -/
structure WorkspaceEvaluation where
  draftState : WorkspaceDraftState
  outcome : WorkspaceEvaluationOutcome

/-- What the work on a session comes to. -/
inductive Work where
  | save (session : WorkspaceSession) (after : AfterSave)
    (evaluation : Option WorkspaceEvaluation := none)
  | call (request : WorkspaceLifecycleHandoffRequest) (prepared : PreparedHandoff)

inductive WorkspaceStage where
  | reading (command : WorkspaceCommand)
  | calling (read : WorkspaceSession) (request : WorkspaceLifecycleHandoffRequest)
    (prepared : PreparedHandoff)
  | saving (read : Option WorkspaceSession) (session : WorkspaceSession) (after : AfterSave)
  | returned (response : WorkspaceResponse)
  | raised (error : WorkspaceError)

/-- The session tables and the state of the proposal lifecycle. The evaluations made so far are on
record beside them; no command reads that record. -/
structure WorkspaceStore (P : Type) where
  tables : WorkspaceTables
  proposals : P
  evaluations : List WorkspaceEvaluation := []

/-- The stage of a command after its save. -/
def AfterSave.stage : AfterSave → WorkspaceStage
  | .returns response => .returned response
  | .reevaluates workspaceId => .reading (.onSession workspaceId .reevaluateSession)

section Steps

variable {P : Type} (services : WorkspaceServices) (port : WorkspaceProposalLifecyclePort P)

/-- The work of a command on the session it has read. -/
def workOn (drawn : WorkspaceDrawn) (workspaceId : String) (session : WorkspaceSession) :
    SessionCommand → Except WorkspaceError Work
  | .reevaluateSession =>
    (reevaluated services drawn session).map fun (session', outcome) =>
      .save session' (.returns (.session session')) (some ⟨session.draftState, outcome⟩)
  | .applyDraftAction request =>
    (draftChanged drawn request session).map fun session => .save session (.reevaluates workspaceId)
  | .saveVersion request =>
    .ok (.save (versionSaved services drawn session request)
      (.returns (.savedVersion (versionSaved services drawn session request)
        (buildSavedWorkspaceVersion services drawn session request))))
  | .resumeVersion request =>
    (versionResumed session request).map fun session => .save session (.returns (.session session))
  | .handoffToProposalLifecycle request idempotencyKey correlationId =>
    ((prepareHandoff services drawn session request workspaceId idempotencyKey correlationId).map
      (Work.call request)).mapError (handoffError services)

/-- The session that a command reads, if it reads one, and its work on it. -/
def beginWork (drawn : WorkspaceDrawn) (tables : WorkspaceTables) :
    WorkspaceCommand → Except WorkspaceError (Option WorkspaceSession × Work)
  | .createSession request =>
    (createdSession services drawn request).map fun session =>
      (none, .save session (.returns (.session session)))
  | .onSession workspaceId command => do
    let session ← tables.get workspaceId
    let work ← workOn services drawn workspaceId session command
    return (some session, work)

/-- The stage in which a command carries on with its work. -/
def Work.stage (read : Option WorkspaceSession) : Work → WorkspaceStage
  | .save session after _ => .saving read session after
  | .call request prepared => .calling (read.getD prepared.session) request prepared

def Work.evaluation? : Work → Option WorkspaceEvaluation
  | .save _ _ evaluation => evaluation
  | .call _ _ => none

/-- The session and the response of a handoff, when the lifecycle has answered. -/
def handedOff (drawn : WorkspaceDrawn) (request : WorkspaceLifecycleHandoffRequest)
    (prepared : PreparedHandoff) (response : Proposals.ProposalCreateResponse) :
    WorkspaceSession × WorkspaceResponse :=
  let session := completeWorkspaceLifecycleHandoff services drawn prepared.session request
    prepared.replayLineage response
  (session, .handedOff session prepared.replayLineage.handoffAction response)

def stepWorkspace (store : WorkspaceStore P) :
    WorkspaceStage → WorkspaceDrawn → Option (WorkspaceStore P × WorkspaceStage)
  | .reading command, drawn =>
    match beginWork services drawn store.tables command with
    | .error error => some (store, .raised error)
    | .ok (read, work) =>
      some ({ store with evaluations := store.evaluations ++ work.evaluation?.toList },
        work.stage read)
  | .calling read request prepared, drawn =>
    match port.call store.proposals drawn.lifecycle prepared.call with
    | (proposals, .error error) =>
      some ({ store with proposals }, .raised (handoffError services (.lifecycle error)))
    | (proposals, .ok response) =>
      some ({ store with proposals },
        .saving (some read) (handedOff services drawn request prepared response).1
          (.returns (handedOff services drawn request prepared response).2))
  | .saving _ session after, _ =>
    match store.tables.save session with
    | .error error => some (store, .raised error)
    | .ok tables => some ({ store with tables }, after.stage)
  | .returned _, _ => none
  | .raised _, _ => none

def workspaceCommands :
    Program (WorkspaceStore P) WorkspaceStage WorkspaceCommand WorkspaceDrawn where
  start := .reading
  step := stepWorkspace services port

end Steps

section Spec

variable {P : Type} {services : WorkspaceServices} {port : WorkspaceProposalLifecyclePort P}
  {drawn : WorkspaceDrawn} {session session' : WorkspaceSession} {workspaceId : String}
  {command : SessionCommand} {after : AfterSave} {evaluation : Option WorkspaceEvaluation}

/-- Everything the work of a command can do to the session it has read, handoffs apart. -/
inductive Reworked (services : WorkspaceServices) (drawn : WorkspaceDrawn) (workspaceId : String)
    (session : WorkspaceSession) :
    WorkspaceSession → AfterSave → Option WorkspaceEvaluation → Prop where
  | evaluated (resolvedContext : Option WorkspaceResolvedContext)
    (request : ProposalSimulateRequest) (outcome : WorkspaceEvaluationOutcome)
    (evaluates : evaluate services drawn { session with resolvedContext } request = .ok outcome) :
    Reworked services drawn workspaceId session ({ session with resolvedContext }.withOutcome outcome)
      (.returns (.session ({ session with resolvedContext }.withOutcome outcome)))
      (some ⟨session.draftState, outcome⟩)
  | draftChanged (draftState : WorkspaceDraftState) :
    Reworked services drawn workspaceId session { session with draftState }
      (.reevaluates workspaceId) none
  | versionSaved (request : WorkspaceSaveRequest) :
    Reworked services drawn workspaceId session (versionSaved services drawn session request)
      (.returns (.savedVersion (versionSaved services drawn session request)
        (buildSavedWorkspaceVersion services drawn session request))) none
  | versionResumed (version : WorkspaceSavedVersion) (saved : version ∈ session.savedVersions) :
    Reworked services drawn workspaceId session (applySavedWorkspaceVersion session version)
      (.returns (.session (applySavedWorkspaceVersion session version))) none

theorem findSavedVersion_eq_ok {id : String} {version : WorkspaceSavedVersion}
    (h : findSavedVersion session id = .ok version) : version ∈ session.savedVersions := by
  unfold findSavedVersion at h
  split at h <;> cases h
  exact List.mem_of_find?_eq_some ‹_›

theorem reworked_of_workOn
    (h : workOn services drawn workspaceId session command = .ok (.save session' after evaluation)) :
    Reworked services drawn workspaceId session session' after evaluation := by
  cases command with
  | reevaluateSession =>
    obtain ⟨⟨_, outcome⟩, hevaluated, h⟩ := map_eq_ok.mp h
    obtain ⟨resolvedContext, request, houtcome, rfl⟩ := reevaluated_eq_ok hevaluated
    cases h
    exact .evaluated resolvedContext request outcome houtcome
  | applyDraftAction request =>
    obtain ⟨changed, hchanged, h⟩ := map_eq_ok.mp h
    simp only [draftChanged, bind_eq_ok] at hchanged
    obtain ⟨draftState, -, hchanged⟩ := hchanged
    cases hchanged
    cases h
    exact .draftChanged draftState
  | saveVersion request =>
    cases h
    exact .versionSaved request
  | resumeVersion request =>
    obtain ⟨resumed, hresumed, h⟩ := map_eq_ok.mp h
    obtain ⟨version, hversion, rfl⟩ := map_eq_ok.mp hresumed
    cases h
    exact .versionResumed version (findSavedVersion_eq_ok hversion)
  | handoffToProposalLifecycle request idempotencyKey correlationId =>
    obtain ⟨_, _, h⟩ := map_eq_ok.mp (mapError_eq_ok.mp h)
    cases h

/-- A handoff calls the lifecycle with what it has prepared. -/
theorem prepares_of_workOn {request : WorkspaceLifecycleHandoffRequest} {prepared : PreparedHandoff}
    (h : workOn services drawn workspaceId session command = .ok (.call request prepared)) :
    ∃ idempotencyKey correlationId,
      command = .handoffToProposalLifecycle request idempotencyKey correlationId ∧
        Prepares services drawn session request workspaceId idempotencyKey correlationId
          prepared := by
  cases command with
  | handoffToProposalLifecycle request' idempotencyKey correlationId =>
    obtain ⟨_, hprepared, h⟩ := map_eq_ok.mp (mapError_eq_ok.mp h)
    cases h
    exact ⟨idempotencyKey, correlationId, rfl, prepareHandoff_eq_ok hprepared⟩
  | saveVersion request => cases h
  | _ =>
    obtain ⟨_, _, h⟩ := map_eq_ok.mp h
    cases h

/-- A handoff changes nothing of the versions but their continuity. -/
theorem handedOff_savedVersions {request : WorkspaceLifecycleHandoffRequest}
    {prepared : PreparedHandoff} {response : Proposals.ProposalCreateResponse} :
    (handedOff services drawn request prepared response).1.savedVersions.map
        WorkspaceSavedVersion.withoutContinuity =
      prepared.session.savedVersions.map WorkspaceSavedVersion.withoutContinuity :=
  applyWorkspaceHandoffReplayLineage_savedVersions services prepared.session _

/-- Everything one step of a command can be. -/
inductive StepsTo (services : WorkspaceServices) (port : WorkspaceProposalLifecyclePort P)
    (store : WorkspaceStore P) : WorkspaceStage → WorkspaceDrawn →
    WorkspaceStore P → WorkspaceStage → Prop where
  | fails (command : WorkspaceCommand) (drawn : WorkspaceDrawn) (error : WorkspaceError) :
    StepsTo services port store (.reading command) drawn store (.raised error)
  | creates (request : WorkspaceSessionCreateRequest) (drawn : WorkspaceDrawn)
    (session : WorkspaceSession) (created : createdSession services drawn request = .ok session) :
    StepsTo services port store (.reading (.createSession request)) drawn store
      (.saving none session (.returns (.session session)))
  | works (workspaceId : String) (command : SessionCommand) (drawn : WorkspaceDrawn)
    (session session' : WorkspaceSession) (after : AfterSave)
    (evaluation : Option WorkspaceEvaluation)
    (reads : store.tables.get workspaceId = .ok session)
    (work : workOn services drawn workspaceId session command =
      .ok (.save session' after evaluation)) :
    StepsTo services port store (.reading (.onSession workspaceId command)) drawn
      { store with evaluations := store.evaluations ++ evaluation.toList }
      (.saving (some session) session' after)
  | prepares (workspaceId : String) (request : WorkspaceLifecycleHandoffRequest)
    (idempotencyKey correlationId : Option String) (drawn : WorkspaceDrawn)
    (session : WorkspaceSession) (prepared : PreparedHandoff)
    (reads : store.tables.get workspaceId = .ok session)
    (prepares : Prepares services drawn session request workspaceId idempotencyKey correlationId
      prepared) :
    StepsTo services port store (.reading (.onSession workspaceId
      (.handoffToProposalLifecycle request idempotencyKey correlationId))) drawn store
      (.calling session request prepared)
  | refused (read : WorkspaceSession) (request : WorkspaceLifecycleHandoffRequest)
    (prepared : PreparedHandoff) (drawn : WorkspaceDrawn) (proposals : P)
    (error : Proposals.ProposalError)
    (called : port.call store.proposals drawn.lifecycle prepared.call = (proposals, .error error)) :
    StepsTo services port store (.calling read request prepared) drawn { store with proposals }
      (.raised (handoffError services (.lifecycle error)))
  | answered (read : WorkspaceSession) (request : WorkspaceLifecycleHandoffRequest)
    (prepared : PreparedHandoff) (drawn : WorkspaceDrawn) (proposals : P)
    (response : Proposals.ProposalCreateResponse)
    (called : port.call store.proposals drawn.lifecycle prepared.call = (proposals, .ok response)) :
    StepsTo services port store (.calling read request prepared) drawn { store with proposals }
      (.saving (some read) (handedOff services drawn request prepared response).1
        (.returns (handedOff services drawn request prepared response).2))
  | saves (read : Option WorkspaceSession) (session : WorkspaceSession) (after : AfterSave)
    (drawn : WorkspaceDrawn) (tables : WorkspaceTables)
    (saved : store.tables.save session = .ok tables) :
    StepsTo services port store (.saving read session after) drawn { store with tables } after.stage
  | saveFails (read : Option WorkspaceSession) (session : WorkspaceSession) (after : AfterSave)
    (drawn : WorkspaceDrawn) (error : WorkspaceError) :
    StepsTo services port store (.saving read session after) drawn store (.raised error)

theorem stepsTo_of_step {store store' : WorkspaceStore P} {stage stage' : WorkspaceStage}
    (h : stepWorkspace services port store stage drawn = some (store', stage')) :
    StepsTo services port store stage drawn store' stage' := by
  cases stage with
  | reading command =>
    simp only [stepWorkspace] at h
    split at h
    · cases h
      exact .fails command drawn _
    · next read work hwork =>
      cases command with
      | createSession request =>
        obtain ⟨session, hsession, hpair⟩ := map_eq_ok.mp hwork
        cases hpair
        cases h
        simp only [Work.evaluation?, Option.toList_none, List.append_nil]
        exact .creates request drawn session hsession
      | onSession workspaceId command =>
        simp only [beginWork, bind_eq_ok] at hwork
        obtain ⟨session, hget, work, hwork, hpair⟩ := hwork
        cases hpair
        cases h
        cases work with
        | save session' after evaluation =>
          exact .works workspaceId command drawn session session' after evaluation hget hwork
        | call request prepared =>
          obtain ⟨idempotencyKey, correlationId, rfl, hprepares⟩ := prepares_of_workOn hwork
          simp only [Work.evaluation?, Option.toList_none, List.append_nil]
          exact .prepares workspaceId request idempotencyKey correlationId drawn session prepared
            hget hprepares
  | calling read request prepared =>
    simp only [stepWorkspace] at h
    split at h <;> next hcall =>
      cases h
      first
        | exact .refused read request prepared drawn _ _ hcall
        | exact .answered read request prepared drawn _ _ hcall
  | saving read session after =>
    simp only [stepWorkspace] at h
    split at h
    · cases h
      exact .saveFails read session after drawn _
    · next hsave =>
      cases h
      exact .saves read session after drawn _ hsave
  | returned response => cases h
  | raised error => cases h

end Spec

namespace Sample

/-! A small environment in which commands can be run: sessions are stateless, every evaluation is
ready, and the digest of a value is its text. -/

def services : WorkspaceServices where
  proposals := Proposals.Sample.services
  defaultEngineOptions := []
  buildAdvisoryPolicyContext _ _ _ := []
  formatPortfolioDelta _ := "0.00"
  containsSensitiveErrorDetail _ := false

def port : WorkspaceProposalLifecyclePort Proposals.PostgresStore :=
  proposalLifecycle Proposals.Sample.config services.proposals
    (Proposals.postgresRepository Proposals.Sample.codePoints)

def numbered (label : String) (n : ℕ) : String := label ++ String.ofList (Text.pad 3 n)

/-- The draws of the `n`-th step. -/
def drawn (n : ℕ) : WorkspaceDrawn where
  utcNow := (Proposals.Sample.clock n).isoformat
  businessDate := "2026-03-26"
  workspaceId := "aws_1"
  workspaceVersionId := numbered "awv_" n
  draftItemId k := numbered "wtd_" (10 * n + k)
  statefulContext := none
  enrichForTradeDrafts request _ := .ok request
  evaluateAdvisoryProposal _ := .ok ⟨.ready, [("status", .str "READY")], none⟩
  lifecycle := Proposals.Sample.drawn n (Proposals.Sample.clock n)

/-- The draws of a step whose evaluation fails. -/
def unavailable (n : ℕ) : WorkspaceDrawn :=
  { drawn n with
    evaluateAdvisoryProposal _ :=
      .error (.evaluationUnavailable "WORKSPACE_EVALUATION_UNAVAILABLE") }

def simulateRequest : ProposalSimulateRequest where
  portfolioSnapshot := [("portfolio_id", .str "pf_01")]
  marketDataSnapshot := []
  shelfEntries := []
  options := []
  proposedCashFlows := []
  proposedTrades := []
  referenceModel := none
  alternativesRequest := none

def create : WorkspaceCommand := .createSession
  { workspaceName := "Growth"
    createdBy := "advisor_1"
    inputMode := .stateless
    statelessInput := some ⟨simulateRequest⟩ }

def onSession (command : SessionCommand) : WorkspaceCommand := .onSession "aws_1" command

def addTrade : WorkspaceCommand := onSession (.applyDraftAction
  { actorId := "advisor_1", actionType := .addTrade, trade := some [("side", .str "BUY")] })

def save : WorkspaceCommand := onSession (.saveVersion { savedBy := "advisor_1" })

def handoff (idempotencyKey : String) : WorkspaceCommand :=
  onSession (.handoffToProposalLifecycle { handoffBy := "advisor_1" } (some idempotencyKey) none)

/-- The steps of a command that runs alone, from the `n`-th step on. -/
def alone (worker n steps : ℕ) (command : WorkspaceCommand) :
    List (Label WorkspaceCommand WorkspaceDrawn) :=
  .start worker command :: (List.range steps).map fun k => .advance worker (drawn (n + k))

def store : WorkspaceStore Proposals.PostgresStore := ⟨{}, .empty, []⟩

end Sample

end LotusAdvise.Workspace

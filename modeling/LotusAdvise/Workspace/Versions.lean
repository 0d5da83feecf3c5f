import LotusAdvise.Workspace.Evaluation

/-! # Saved versions

A saved version copies the draft of the session with the latest evaluation and the latest
replay evidence. A version can be resumed, and is found again by the hash of a draft.
-/

namespace LotusAdvise.Workspace

structure WorkspaceSaveRequest where
  savedBy : String
  versionLabel : Option String := none

structure WorkspaceResumeRequest where
  actorId : String
  workspaceVersionId : String

def buildSavedVersionSummary (version : WorkspaceSavedVersion) : WorkspaceSavedVersionSummary where
  workspaceVersionId := version.workspaceVersionId
  versionNumber := version.versionNumber
  versionLabel := version.versionLabel
  savedBy := version.savedBy
  savedAt := version.savedAt

def refreshSavedVersionMetadata (session : WorkspaceSession) : WorkspaceSession :=
  { session with
    savedVersionCount := session.savedVersions.length
    latestSavedVersion := session.savedVersions.getLast?.map buildSavedVersionSummary }

def findSavedVersion (session : WorkspaceSession) (workspaceVersionId : String) :
    Except WorkspaceError WorkspaceSavedVersion :=
  match session.savedVersions.find? (·.workspaceVersionId = workspaceVersionId) with
  | none => .error (.savedVersionNotFound "WORKSPACE_SAVED_VERSION_NOT_FOUND")
  | some version => .ok version

section Save

variable (services : WorkspaceServices) (drawn : WorkspaceDrawn) (session : WorkspaceSession)

/-- The latest evidence is copied as it is; without one, evidence of the draft alone is built. -/
def buildSavedWorkspaceVersion (request : WorkspaceSaveRequest) : WorkspaceSavedVersion where
  workspaceVersionId := drawn.workspaceVersionId
  versionNumber := session.savedVersions.length + 1
  versionLabel := request.versionLabel
  savedBy := request.savedBy
  savedAt := drawn.utcNow
  draftState := session.draftState
  evaluationSummary := session.evaluationSummary
  latestProposalResult := session.latestProposalResult
  replayEvidence :=
    session.latestReplayEvidence.getD (buildReplayEvidence services drawn session none)

def applySavedWorkspaceVersion (version : WorkspaceSavedVersion) : WorkspaceSession :=
  { session with
    draftState := version.draftState
    evaluationSummary := version.evaluationSummary
    latestProposalResult := version.latestProposalResult
    latestReplayEvidence := some version.replayEvidence }

/-- `save_version`, up to its save. -/
def versionSaved (request : WorkspaceSaveRequest) : WorkspaceSession :=
  refreshSavedVersionMetadata { session with
    savedVersions := session.savedVersions ++
      [buildSavedWorkspaceVersion services drawn session request] }

/-- `resume_version`, up to its save. -/
def versionResumed (request : WorkspaceResumeRequest) : Except WorkspaceError WorkspaceSession :=
  (findSavedVersion session request.workspaceVersionId).map
    (applySavedWorkspaceVersion session)

end Save

/-! ## Handoff lineage -/

/-- The request hash of the latest evidence. -/
def latestEvaluationRequestHash (session : WorkspaceSession) : Option String :=
  session.latestReplayEvidence.bind (·.evaluationRequestHash)

/-- The version has evidence of a draft with the hash, and of the request if there is one. -/
def MatchesEvidence (draftStateHash : String) (evaluationRequestHash : Option String)
    (version : WorkspaceSavedVersion) : Prop :=
  version.replayEvidence.draftStateHash = draftStateHash ∧
    (evaluationRequestHash ≠ none →
      version.replayEvidence.evaluationRequestHash = evaluationRequestHash)

instance (draftStateHash : String) (evaluationRequestHash : Option String)
    (version : WorkspaceSavedVersion) :
    Decidable (MatchesEvidence draftStateHash evaluationRequestHash version) :=
  inferInstanceAs (Decidable (_ ∧ _))

inductive WorkspaceHandoffAction where
  | createdProposal
  | createdProposalVersion
deriving DecidableEq

def WorkspaceHandoffAction.text : WorkspaceHandoffAction → String
  | .createdProposal => "CREATED_PROPOSAL"
  | .createdProposalVersion => "CREATED_PROPOSAL_VERSION"

/-- The lineage of a handoff; it is completed when the lifecycle has answered. -/
structure HandoffReplayLineage where
  workspaceId : String
  workspaceVersionId : Option String
  draftStateHash : String
  evaluationRequestHash : Option String
  handoffAction : WorkspaceHandoffAction
  handoffAt : String
  handoffBy : String
  proposalId : String
  proposalVersionNo : ℕ
deriving DecidableEq

def HandoffReplayLineage.dump (lineage : HandoffReplayLineage) : JsonObject :=
  [("workspace_id", .str lineage.workspaceId),
    ("workspace_version_id", .ofText? lineage.workspaceVersionId),
    ("draft_state_hash", .str lineage.draftStateHash),
    ("evaluation_request_hash", .ofText? lineage.evaluationRequestHash),
    ("handoff_action", .str lineage.handoffAction.text), ("handoff_at", .str lineage.handoffAt),
    ("handoff_by", .str lineage.handoffBy), ("proposal_id", .str lineage.proposalId),
    ("proposal_version_no", .int lineage.proposalVersionNo)]

section Lineage

variable (services : WorkspaceServices) (drawn : WorkspaceDrawn) (session : WorkspaceSession)

/-- The newest matching version. -/
def findMatchingSavedVersion : Option WorkspaceSavedVersion :=
  session.savedVersions.reverse.find? fun version =>
    MatchesEvidence (buildDraftStateHash services session.draftState)
      (latestEvaluationRequestHash session) version

def WorkspaceReplayEvidence.withContinuity (evidence : WorkspaceReplayEvidence)
    (continuity : JsonObject) : WorkspaceReplayEvidence :=
  { evidence with continuity }

/-- The lineage is kept with the latest evidence, and with that of the newest matching version. -/
def applyWorkspaceHandoffReplayLineage (replayLineage : HandoffReplayLineage) : WorkspaceSession :=
  { session with
    latestReplayEvidence :=
      session.latestReplayEvidence.map (·.withContinuity replayLineage.dump)
    savedVersions := (session.savedVersions.reverse.replaceF fun version =>
      if MatchesEvidence (buildDraftStateHash services session.draftState)
          (latestEvaluationRequestHash session) version then
        some { version with
          replayEvidence := version.replayEvidence.withContinuity replayLineage.dump }
      else none).reverse }

def buildWorkspaceHandoffReplayLineage (handoffBy : String) (handoffAction : WorkspaceHandoffAction)
    (proposalId : String) (proposalVersionNo : ℕ) : HandoffReplayLineage where
  workspaceId := session.workspaceId
  workspaceVersionId := (findMatchingSavedVersion services session).map (·.workspaceVersionId)
  draftStateHash := buildDraftStateHash services session.draftState
  evaluationRequestHash := latestEvaluationRequestHash session
  handoffAction
  handoffAt := drawn.utcNow
  handoffBy
  proposalId
  proposalVersionNo

end Lineage

/-! ## What a handoff leaves of the versions -/

/-- The version without the continuity of its evidence. -/
def WorkspaceSavedVersion.withoutContinuity (version : WorkspaceSavedVersion) :
    WorkspaceSavedVersion :=
  { version with replayEvidence := version.replayEvidence.withContinuity [] }

theorem map_replaceF {A B : Type} {f : A → Option A} {g : A → B} {items : List A}
    (h : ∀ a a', f a = some a' → g a' = g a) : (items.replaceF f).map g = items.map g := by
  induction items with
  | nil => rfl
  | cons item items ih =>
    rw [List.replaceF_cons]
    split
    · next hnone => rw [List.map_cons, List.map_cons, ih]
    · next item' hitem => rw [List.map_cons, List.map_cons, h item item' hitem]

/-- The lineage of a handoff changes nothing of a version but its continuity. -/
theorem applyWorkspaceHandoffReplayLineage_savedVersions (services : WorkspaceServices)
    (session : WorkspaceSession) (replayLineage : HandoffReplayLineage) :
    (applyWorkspaceHandoffReplayLineage services session replayLineage).savedVersions.map
        WorkspaceSavedVersion.withoutContinuity =
      session.savedVersions.map WorkspaceSavedVersion.withoutContinuity := by
  rw [applyWorkspaceHandoffReplayLineage, List.map_reverse, map_replaceF, ← List.map_reverse,
    List.reverse_reverse]
  intro version version' h
  split at h <;> cases h
  rfl

end LotusAdvise.Workspace

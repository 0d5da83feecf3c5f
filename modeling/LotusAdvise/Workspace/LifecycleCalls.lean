import LotusAdvise.Proposals.CreateIdempotency
import LotusAdvise.Proposals.LifecycleExecutor
import LotusAdvise.Workspace.Commands

/-! # The lifecycle behind a handoff

What a handoff's call of the proposal lifecycle can do to the proposal tables: a creation
replays the record of its key or writes a proposal in one transaction, a new version is
inserted in a transaction before the one that moves its proposal.
-/

namespace LotusAdvise.Workspace

open Interleaving Proposals

section Calls

variable {P : Type} {config : ServiceConfig} {services : Services} {repository : ProposalRepository P}
  {proposals proposals' : P} {generated : Generated} {arguments : CreateProposalArguments}
  {result : Except ProposalError ProposalCreateResponse}

/-- What a creation has done, with its answer. -/
inductive Creates (config : ServiceConfig) (services : Services)
    (repository : ProposalRepository P) (proposals : P) (generated : Generated)
    (arguments : CreateProposalArguments) :
    P → Except ProposalError ProposalCreateResponse → Prop where
  | failed (error : ProposalError) :
    Creates config services repository proposals generated arguments proposals (.error error)
  | replayed (key : String) (existing : ProposalIdempotencyRecord)
    (response : ProposalCreateResponse)
    (normalized : normalizeOptionalIdempotencyKey arguments.idempotencyKey = some key)
    (bound : repository.getIdempotency proposals key = some existing)
    (matching : existing.requestHash = services.hashCanonicalPayload arguments.payload.dump ∨
      isMatchingLegacyReplay services repository proposals arguments.payload existing = true)
    (replays : buildCreateResponseFromReplayReferents repository proposals existing.proposalId
      existing.proposalVersionNo = .ok response) :
    Creates config services repository proposals generated arguments proposals (.ok response)
  | created (key : String) (resolved : ResolvedProposalContext) (version : ProposalVersionRecord)
    (idempotency : ProposalIdempotencyRecord) (event : ProposalWorkflowEventRecord) (proposals' : P)
    (normalized : normalizeOptionalIdempotencyKey arguments.idempotencyKey = some key)
    (origin : validateLifecycleOrigin arguments.lifecycleOrigin arguments.sourceWorkspaceId = .ok ())
    (unbound : repository.getIdempotency proposals key = none)
    (recorded : idempotency =
      { idempotencyKey := key
        requestHash := services.hashCanonicalPayload arguments.payload.dump
        proposalId := generated.proposalId
        proposalVersionNo := 1
        createdAt := generated.now })
    (located : event.proposalId = generated.proposalId)
    (materialized : materializeFirstVersion config services generated arguments key =
      .ok (resolved, version))
    (performed : repository.perform proposals (.createProposal
      (buildProposalRecord generated arguments resolved) version event idempotency) =
        .ok proposals') :
    Creates config services repository proposals generated arguments proposals'
      (.ok (toCreateResponse (buildProposalRecord generated arguments resolved) version event))

theorem origin_of_createProposalCommand {out : Outcome RepositoryWrite ProposalResponse}
    (h : createProposalCommand config services repository proposals generated arguments = .ok out) :
    validateLifecycleOrigin arguments.lifecycleOrigin arguments.sourceWorkspaceId = .ok () := by
  simp only [createProposalCommand, bind_eq_ok] at h
  obtain ⟨_, _, _, horigin, _⟩ := h
  exact horigin

theorem creates_of_createProposal
    (h : (proposalLifecycle config services repository).createProposal proposals generated
      arguments = (proposals', result)) :
    Creates config services repository proposals generated arguments proposals' result := by
  simp only [proposalLifecycle] at h
  rcases hdecide : createProposalCommand config services repository proposals generated arguments
    with error | out
  · rw [Protocol.execute_error (by exact hdecide)] at h
    cases h
    exact .failed error
  · have horigin := origin_of_createProposalCommand hdecide
    obtain ⟨key, hkey, ⟨existing, response, hbound, hmatch, hreplays, rfl⟩ |
      ⟨hnone, resolved, version, hversion, rfl⟩⟩ := createProposalCommand_eq_ok hdecide
    · rw [Protocol.execute_reply (by exact hdecide)] at h
      cases h
      exact .replayed key existing response hkey hbound hmatch hreplays
    · simp only [Protocol.execute, lifecycle, decideCommand, hdecide, creationPlan,
        Protocol.performAll] at h
      split at h
      · next hperform =>
        split at hperform <;> cases hperform
        cases h
        exact .created key resolved version _ _ _ hkey horigin hnone rfl rfl hversion ‹_›
      · next hperform =>
        split at hperform <;> cases hperform
        cases h
        exact .failed _

/-- A key that is bound to a matching creation replays it. -/
theorem createProposal_of_bound {key : String} {existing : ProposalIdempotencyRecord}
    {response : ProposalCreateResponse}
    (hkey : normalizeOptionalIdempotencyKey arguments.idempotencyKey = some key)
    (horigin : validateLifecycleOrigin arguments.lifecycleOrigin arguments.sourceWorkspaceId = .ok ())
    (hbound : repository.getIdempotency proposals key = some existing)
    (hmatch : existing.requestHash = services.hashCanonicalPayload arguments.payload.dump ∨
      isMatchingLegacyReplay services repository proposals arguments.payload existing = true)
    (hreplays : buildCreateResponseFromReplayReferents repository proposals existing.proposalId
      existing.proposalVersionNo = .ok response) :
    (proposalLifecycle config services repository).createProposal proposals generated arguments =
      (proposals, .ok response) := by
  have hdecide : createProposalCommand config services repository proposals generated arguments =
      .ok (.reply (.create response)) := by
    simp only [createProposalCommand, bind_eq_ok]
    refine ⟨key, ?_, (), horigin, ?_⟩
    · simp only [requireProposalIdempotencyKey, hkey]
    · simp only [hbound, if_pos hmatch, hreplays]
      rfl
  simp only [proposalLifecycle]
  rw [Protocol.execute_reply (by exact hdecide)]
  rfl

/-- A replay answers with the proposal and the version that are stored. -/
theorem referents_of_replay {proposalId : String} {versionNo : ℕ}
    {response : ProposalCreateResponse}
    (h : buildCreateResponseFromReplayReferents repository proposals proposalId versionNo =
      .ok response) :
    ∃ proposal version event, repository.getProposal proposals proposalId = some proposal ∧
      repository.getVersion proposals proposalId versionNo = some version ∧
      (repository.listEvents proposals proposalId).getLast? = some event ∧
      response = toCreateResponse proposal version event := by
  unfold buildCreateResponseFromReplayReferents buildCreateResponseFromReferents at h
  split at h
  · cases h
  · next hreferents =>
    split at hreferents <;> cases hreferents
    cases h
    exact ⟨_, _, _, ‹_›, ‹_›, ‹_›, rfl⟩

/-- What the call for a new version has done, with its answer. -/
inductive Revises (config : ServiceConfig) (services : Services)
    (repository : ProposalRepository P) (proposals : P) (generated : Generated)
    (proposalId : String) (payload : ProposalVersionRequest) :
    P → Except ProposalError ProposalCreateResponse → Prop where
  | failed (error : ProposalError) :
    Revises config services repository proposals generated proposalId payload proposals
      (.error error)
  | orphaned (proposal : ProposalRecord) (version : ProposalVersionRecord) (proposals' : P)
    (error : ProposalError)
    (stored : repository.getProposal proposals proposalId = some proposal)
    (inserted : repository.perform proposals (.createVersion version) = .ok proposals') :
    Revises config services repository proposals generated proposalId payload proposals'
      (.error error)
  | revised (proposal : ProposalRecord) (version : ProposalVersionRecord)
    (event : ProposalWorkflowEventRecord) (between proposals' : P)
    (stored : repository.getProposal proposals proposalId = some proposal)
    (valid : validateCreateVersionState proposal payload.expectedCurrentVersionNo = .ok ())
    (drawn : version.proposalVersionId = generated.proposalVersionId)
    (identity : version.proposalId = proposal.proposalId)
    (next : version.versionNo = proposal.currentVersionNo + 1)
    (inserted : repository.perform proposals (.createVersion version) = .ok between)
    (moved : repository.perform between (.transitionProposal
      { proposal with
        currentVersionNo := version.versionNo
        currentState := .draft
        lastEventAt := generated.now } event none (some proposal.currentState)
      (some (version.versionNo - 1))) = .ok proposals') :
    Revises config services repository proposals generated proposalId payload proposals'
      (.ok (toCreateResponse
        { proposal with
          currentVersionNo := version.versionNo
          currentState := .draft
          lastEventAt := generated.now } version event))

theorem revises_of_createVersion {proposalId : String} {payload : ProposalVersionRequest}
    {correlationId : Option String} {replayLineage contextResolutionOverride : Option JsonObject}
    (h : (proposalLifecycle config services repository).createVersion proposals generated proposalId
      payload correlationId replayLineage contextResolutionOverride = (proposals', result)) :
    Revises config services repository proposals generated proposalId payload proposals' result := by
  simp only [proposalLifecycle] at h
  rcases hdecide : createProposalVersion config services repository proposals generated proposalId
    payload correlationId replayLineage contextResolutionOverride with error | out
  · rw [Protocol.execute_error (by exact hdecide)] at h
    cases h
    exact .failed error
  · obtain ⟨proposal, version, hstored, hvalid, hversion, rfl⟩ := createProposalVersion_eq_ok hdecide
    obtain ⟨hdrawn, hidentity, hnext⟩ := materializeNextVersion_eq_ok hversion
    simp only [Protocol.execute, lifecycle, decideCommand, hdecide, Protocol.performAll] at h
    rcases hinserted : repository.perform proposals (.createVersion version) with error | between
    · simp only [hinserted, createAnswer] at h
      cases h
      exact .failed error
    · simp only [hinserted] at h
      split at h
      · next hmoved =>
        split at hmoved <;> cases hmoved
        cases h
        exact .revised proposal version _ between _ hstored hvalid hdrawn hidentity hnext hinserted ‹_›
      · next hmoved =>
        split at hmoved <;> cases hmoved
        cases h
        exact .orphaned proposal version _ _ hstored hinserted

end Calls

/-! ## The proposal tables -/

section Tables

variable {proposals proposals' : PostgresStore} {write : RepositoryWrite}

/-- What a committed write does to the tables that a handoff depends on: nothing is deleted, what it
carries is stored, and a new idempotency record names a version that is stored. -/
structure TableEffects (before : PostgresStore) (write : RepositoryWrite)
    (after : PostgresStore) : Prop where
  proposals : after.proposals = write.proposal?.elim before.proposals
    (Tables.upsert ProposalRecord.proposalId before.proposals)
  keepsVersions : before.versions ⊆ after.versions
  version : ∀ version ∈ write.version?, version ∈ after.versions
  keepsEvents : before.events ⊆ after.events
  event : ∀ event ∈ write.event?, event ∈ after.events
  idempotency : after.idempotency = write.idempotency?.elim before.idempotency
    (Tables.upsert ProposalIdempotencyRecord.idempotencyKey before.idempotency)
  referenced : ∀ record ∈ write.idempotency?, ∃ version ∈ after.versions,
    version.slot = (record.proposalId, record.proposalVersionNo)

theorem tableEffects_of_perform {collation : LinearOrder String}
    (h : (postgresRepository collation).perform proposals write = .ok proposals') :
    TableEffects proposals write proposals' := by
  replace h : proposals.perform write = .ok proposals' := h
  have hidempotency := PostgresStore.idempotency_of_perform h
  cases write with
  | createProposal proposal version event idempotency =>
    simp only [PostgresStore.perform, PostgresStore.createProposalWithVersionEventIdempotency,
      bind_eq_ok, PostgresStore.upsertProposal_eq_ok,
      PostgresStore.insertProposalIdempotency_eq_ok, PostgresStore.insertVersion,
      PostgresStore.insertEvent] at h
    obtain ⟨_, ⟨_, rfl⟩, _, ⟨_, _, _, hversions, ⟨⟩⟩, _, ⟨_, _, _, hevents, ⟨⟩⟩, _,
      ⟨referenced, hreferenced⟩, rfl⟩ := h
    obtain ⟨hversions, hversion⟩ := Tables.mem_of_insertOnce hversions
    obtain ⟨hevents, hevent⟩ := Tables.mem_of_insertOnce hevents
    refine ⟨rfl, hversions, ?_, hevents, ?_, hidempotency, ?_⟩
    · rintro _ ⟨⟩
      exact hversion
    · rintro _ ⟨⟩
      exact hevent
    · rintro _ ⟨⟩
      exact ⟨referenced, Tables.lookup_some hreferenced⟩
  | createVersion version =>
    simp only [PostgresStore.perform, PostgresStore.insertVersion, bind_eq_ok] at h
    obtain ⟨_, _, _, hversions, ⟨⟩⟩ := h
    obtain ⟨hversions, hversion⟩ := Tables.mem_of_insertOnce hversions
    refine ⟨rfl, hversions, ?_, List.Subset.refl _, fun _ h => (by cases h), hidempotency,
      fun _ h => (by cases h)⟩
    rintro _ ⟨⟩
    exact hversion
  | transitionProposal proposal event approval expectedCurrentState expectedCurrentVersionNo =>
    simp only [PostgresStore.perform, PostgresStore.transitionProposal, bind_eq_ok,
      PostgresStore.updateProposalIfCurrent_eq_ok, PostgresStore.insertEvent] at h
    obtain ⟨_, ⟨_, _, rfl⟩, _, ⟨_, _, events, hevents, ⟨⟩⟩, h⟩ := h
    obtain ⟨hevents, hevent⟩ := Tables.mem_of_insertOnce hevents
    have hafter : proposals'.proposals = Tables.upsert ProposalRecord.proposalId proposals.proposals
        proposal ∧ proposals'.versions = proposals.versions ∧ proposals'.events = events := by
      cases approval with
      | none =>
        cases h
        exact ⟨rfl, rfl, rfl⟩
      | some approval =>
        obtain ⟨_, rfl⟩ := PostgresStore.insertApproval_eq_ok h
        exact ⟨rfl, rfl, rfl⟩
    obtain ⟨hproposals, hversions, hstored⟩ := hafter
    refine ⟨hproposals, hversions.symm ▸ List.Subset.refl _, fun _ h => (by cases h),
      hstored ▸ hevents, ?_, hidempotency, fun _ h => (by cases h)⟩
    rintro _ ⟨⟩
    exact hstored ▸ hevent

end Tables

end LotusAdvise.Workspace

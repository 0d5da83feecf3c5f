import LotusAdvise.Workspace.LifecycleCalls

/-! # One workspace, one proposal

Handoffs of one workspace, each of which reads the session, calls the proposal lifecycle and
saves its copy of the session. A handoff that has read no link creates a proposal, and only
the record of its key stops it when another handoff has created one meanwhile.
-/

namespace LotusAdvise.Workspace

open Workers Runs Proposals

/-- A call of `handoff_to_proposal_lifecycle`. -/
structure HandoffCall where
  request : WorkspaceLifecycleHandoffRequest
  idempotencyKey : Option String
  correlationId : Option String := none

/-- The handoffs of one workspace. -/
def workspaceHandoffs {P : Type} (services : WorkspaceServices)
    (port : WorkspaceProposalLifecyclePort P) (workspaceId : String) :
    Program (WorkspaceStore P) WorkspaceStage HandoffCall WorkspaceDrawn where
  start call := .reading (.onSession workspaceId
    (.handoffToProposalLifecycle call.request call.idempotencyKey call.correlationId))
  step := stepWorkspace services port

section Ownership

variable (workspaceId : String) (proposals : PostgresStore)

/-- A proposal is stored under the identifier and has the workspace for its source. -/
def OwnedBy (proposalId : String) : Prop :=
  ∃ proposal ∈ proposals.getProposal proposalId, proposal.sourceWorkspaceId = some workspaceId

instance (proposalId : String) : Decidable (OwnedBy workspaceId proposals proposalId) := by
  unfold OwnedBy
  infer_instance

/-- The identifier is that of a proposal of the workspace, and the number that of a stored version of
it. -/
structure NamesVersion (proposalId : String) (versionNo : ℕ) : Prop where
  owned : OwnedBy workspaceId proposals proposalId
  version : ∃ version ∈ proposals.versions, version.slot = (proposalId, versionNo)

/-- At most one proposal has the workspace for its source, and the stored link names it with the
number of a version that is stored. -/
structure OneProposal (store : WorkspaceStore PostgresStore) : Prop where
  unique : ∀ a b, OwnedBy workspaceId store.proposals a → OwnedBy workspaceId store.proposals b →
    a = b
  link : ∀ session, store.tables.get workspaceId = .ok session →
    ∀ link ∈ session.lifecycleLink,
      NamesVersion workspaceId store.proposals link.proposalId link.currentVersionNo

/-- Beyond that, the stored session is the one of the workspace, and each proposal of the workspace
has an idempotency record, as every creation writes one. -/
structure HandoffsKept (store : WorkspaceStore PostgresStore) : Prop
    extends OneProposal workspaceId store where
  identity : ∀ session, store.tables.get workspaceId = .ok session →
    session.workspaceId = workspaceId
  recorded : ∀ proposalId, OwnedBy workspaceId store.proposals proposalId →
    ∃ record ∈ store.proposals.idempotency, record.proposalId = proposalId

/-- A workspace without a link, of which there is no proposal yet. -/
theorem HandoffsKept.of_unlinked {store : WorkspaceStore PostgresStore}
    {session : WorkspaceSession} (hsession : store.tables.get workspaceId = .ok session)
    (hidentity : session.workspaceId = workspaceId) (hlink : session.lifecycleLink = none)
    (hproposals : ∀ proposalId, ¬ OwnedBy workspaceId store.proposals proposalId) :
    HandoffsKept workspaceId store where
  unique a _ ha _ := (hproposals a ha).elim
  link read hread link hmem := by
    obtain rfl := Except.ok.inj (hsession.symm.trans hread)
    rw [hlink] at hmem
    cases hmem
  identity read hread := by
    obtain rfl := Except.ok.inj (hsession.symm.trans hread)
    exact hidentity
  recorded proposalId howned := (hproposals proposalId howned).elim

/-- The key of a creation is the one under which the proposal of the workspace was created, if there
is one, and it is not bound to a matching creation of another origin. -/
def KeyOfProposal (services : Services) (collation : LinearOrder String)
    (arguments : CreateProposalArguments) : Prop :=
  ∀ key ∈ normalizeOptionalIdempotencyKey arguments.idempotencyKey,
    (∀ record ∈ proposals.idempotency, OwnedBy workspaceId proposals record.proposalId →
      record.idempotencyKey = key) ∧
    ∀ existing ∈ proposals.getProposalIdempotency key,
      existing.requestHash = services.hashCanonicalPayload arguments.payload.dump ∨
        isMatchingLegacyReplay services (postgresRepository collation) proposals arguments.payload
          existing = true →
      OwnedBy workspaceId proposals existing.proposalId

instance (services : Services) (collation : LinearOrder String)
    (arguments : CreateProposalArguments) :
    Decidable (KeyOfProposal workspaceId proposals services collation arguments) := by
  unfold KeyOfProposal
  infer_instance

/-- A call that creates carries the key of the proposal of the workspace. -/
def LifecycleCall.UnderOneKey (services : Services) (collation : LinearOrder String) :
    LifecycleCall → Prop
  | .createProposal arguments => KeyOfProposal workspaceId proposals services collation arguments
  | .createVersion _ _ _ _ _ => True

instance (services : Services) (collation : LinearOrder String) (call : LifecycleCall) :
    Decidable (call.UnderOneKey workspaceId proposals services collation) := by
  unfold LifecycleCall.UnderOneKey
  split <;> infer_instance

end Ownership

/-- A handoff that is about to create a proposal carries the key of the one of its workspace. -/
def CreatesUnderOneKey (services : Services) (collation : LinearOrder String) (workspaceId : String)
    (store : WorkspaceStore PostgresStore) : WorkspaceStage → WorkspaceDrawn → Prop
  | .calling _ _ prepared, _ => prepared.call.UnderOneKey workspaceId store.proposals services collation
  | _, _ => True

instance (services : Services) (collation : LinearOrder String) (workspaceId : String)
    (store : WorkspaceStore PostgresStore) (stage : WorkspaceStage) (drawn : WorkspaceDrawn) :
    Decidable (CreatesUnderOneKey services collation workspaceId store stage drawn) := by
  unfold CreatesUnderOneKey
  split <;> infer_instance

section Calls

variable {workspaceId : String} {config : ServiceConfig} {services : Services}
  {collation : LinearOrder String} {proposals proposals' : PostgresStore} {generated : Generated}
  {result : Except ProposalError ProposalCreateResponse}

/-- The proposals of the workspace, and all versions, are still stored. -/
structure Retains (workspaceId : String) (before after : PostgresStore) : Prop where
  owned : ∀ proposalId, OwnedBy workspaceId before proposalId →
    OwnedBy workspaceId after proposalId
  versions : before.versions ⊆ after.versions

theorem Retains.refl : Retains workspaceId proposals proposals :=
  ⟨fun _ h => h, List.Subset.refl _⟩

theorem NamesVersion.retained {proposalId : String} {versionNo : ℕ}
    (h : NamesVersion workspaceId proposals proposalId versionNo)
    (hretains : Retains workspaceId proposals proposals') :
    NamesVersion workspaceId proposals' proposalId versionNo := by
  obtain ⟨howned, version, hmem, hslot⟩ := h
  exact ⟨hretains.owned proposalId howned, version, hretains.versions hmem, hslot⟩

/-- The proposals of the workspace: one at most, and on record. -/
structure ProposalsKept (workspaceId : String) (proposals : PostgresStore) : Prop where
  unique : ∀ a b, OwnedBy workspaceId proposals a → OwnedBy workspaceId proposals b → a = b
  recorded : ∀ proposalId, OwnedBy workspaceId proposals proposalId →
    ∃ record ∈ proposals.idempotency, record.proposalId = proposalId

/-- What a call of a handoff keeps, and what its answer names. -/
structure CallKeeps (workspaceId : String) (before after : PostgresStore)
    (result : Except ProposalError ProposalCreateResponse) : Prop where
  retains : Retains workspaceId before after
  kept : ProposalsKept workspaceId after
  names : ∀ response, result = .ok response →
    NamesVersion workspaceId after response.proposal.proposalId response.version.versionNo

theorem CallKeeps.failed (h : ProposalsKept workspaceId proposals) (error : ProposalError) :
    CallKeeps workspaceId proposals proposals (.error error) where
  retains := .refl
  kept := h
  names _ h := by cases h

theorem ownedBy_iff_of_created {proposal : ProposalRecord} {version : ProposalVersionRecord}
    {event : ProposalWorkflowEventRecord} {idempotency : ProposalIdempotencyRecord}
    (h : TableEffects proposals (.createProposal proposal version event idempotency) proposals')
    (hsource : proposal.sourceWorkspaceId = some workspaceId) (proposalId : String) :
    OwnedBy workspaceId proposals' proposalId ↔
      proposal.proposalId = proposalId ∨ OwnedBy workspaceId proposals proposalId := by
  have hget : proposals'.getProposal proposalId =
      if proposal.proposalId = proposalId then some proposal
      else proposals.getProposal proposalId := by
    rw [PostgresStore.getProposal, h.proposals]
    exact Tables.lookup_upsert proposalId
  unfold OwnedBy
  rw [hget]
  split
  · next heq => simp [heq, hsource]
  · next hne => simp [hne]

/-- A proposal that is written anew with its source changes no ownership. -/
theorem ownedBy_iff_of_moved {proposal moved : ProposalRecord} {event : ProposalWorkflowEventRecord}
    {approval : Option ProposalApprovalRecordData} {state : Option ProposalWorkflowState}
    {versionNo : Option ℕ}
    (h : TableEffects proposals (.transitionProposal moved event approval state versionNo) proposals')
    (hstored : proposals.getProposal moved.proposalId = some proposal)
    (hsource : moved.sourceWorkspaceId = proposal.sourceWorkspaceId) (proposalId : String) :
    OwnedBy workspaceId proposals' proposalId ↔ OwnedBy workspaceId proposals proposalId := by
  have hget : proposals'.getProposal proposalId =
      if moved.proposalId = proposalId then some moved
      else proposals.getProposal proposalId := by
    rw [PostgresStore.getProposal, h.proposals]
    exact Tables.lookup_upsert proposalId
  unfold OwnedBy
  rw [hget]
  split
  · next heq =>
    subst heq
    simp [hstored, hsource]
  · exact Iff.rfl

theorem callKeeps_of_creates {arguments : CreateProposalArguments}
    (h : Creates config services (postgresRepository collation) proposals generated arguments
      proposals' result)
    (hsource : arguments.sourceWorkspaceId = some workspaceId)
    (hguard : KeyOfProposal workspaceId proposals services collation arguments)
    (hkept : ProposalsKept workspaceId proposals) :
    CallKeeps workspaceId proposals proposals' result := by
  cases h with
  | failed error => exact .failed hkept error
  | replayed key existing response normalized bound matching replays =>
    have howned := (hguard key normalized).2 existing bound matching
    obtain ⟨proposal, version, event, hproposal, hversion, -, rfl⟩ := referents_of_replay replays
    obtain ⟨hmem, hslot⟩ := Tables.lookup_some hversion
    have hid : proposal.proposalId = existing.proposalId := (Tables.lookup_some hproposal).2
    have hnumber : version.versionNo = existing.proposalVersionNo := congrArg Prod.snd hslot
    refine ⟨.refl, hkept, ?_⟩
    rintro _ ⟨⟩
    change NamesVersion workspaceId proposals proposal.proposalId version.versionNo
    rw [hid, hnumber]
    exact ⟨howned, version, hmem, hslot⟩
  | created key resolved version idempotency event proposals' normalized origin unbound recorded
      located materialized performed =>
    have heffects := tableEffects_of_perform performed
    have hiff := ownedBy_iff_of_created heffects hsource
    -- the key is unbound, and every proposal of the workspace has a record under it
    have hnone : ∀ proposalId, ¬ OwnedBy workspaceId proposals proposalId := by
      intro proposalId howned
      obtain ⟨record, hmem, rfl⟩ := hkept.recorded proposalId howned
      exact Tables.lookup_eq_none.mp unbound record hmem
        ((hguard key normalized).1 record hmem howned)
    have hown : ∀ proposalId, OwnedBy workspaceId proposals' proposalId ↔
        generated.proposalId = proposalId := by
      intro proposalId
      rw [hiff, or_iff_left (hnone proposalId)]
      exact Iff.rfl
    refine ⟨⟨fun proposalId howned => (hnone proposalId howned).elim, heffects.keepsVersions⟩,
      ⟨fun a b ha hb => ?_, fun proposalId howned => ?_⟩, ?_⟩
    · exact ((hown a).mp ha).symm.trans ((hown b).mp hb)
    · refine ⟨idempotency, ?_, ?_⟩
      · rw [heffects.idempotency]
        exact Tables.mem_upsert_self
      · rw [recorded, ← (hown proposalId).mp howned]
    · rintro _ ⟨⟩
      obtain ⟨-, hproposal, hnumber⟩ := materializeFirstVersion_eq_ok materialized
      refine ⟨(hown _).mpr rfl, version, heffects.version version rfl, ?_⟩
      exact Prod.ext hproposal rfl

theorem callKeeps_of_revises {proposalId : String} {payload : ProposalVersionRequest}
    (h : Revises config services (postgresRepository collation) proposals generated proposalId
      payload proposals' result)
    (howned : OwnedBy workspaceId proposals proposalId)
    (hkept : ProposalsKept workspaceId proposals) :
    CallKeeps workspaceId proposals proposals' result := by
  have hinserted : ∀ {version : ProposalVersionRecord} {between : PostgresStore},
      (postgresRepository collation).perform proposals (.createVersion version) = .ok between →
      TableEffects proposals (.createVersion version) between ∧
        ∀ id, OwnedBy workspaceId between id ↔ OwnedBy workspaceId proposals id := by
    intro version between hperform
    have heffects := tableEffects_of_perform hperform
    refine ⟨heffects, fun id => ?_⟩
    rw [OwnedBy, OwnedBy, PostgresStore.getProposal, heffects.proposals]
    exact Iff.rfl
  cases h with
  | failed error => exact .failed hkept error
  | orphaned proposal version proposals' error stored inserted =>
    obtain ⟨heffects, hiff⟩ := hinserted inserted
    refine ⟨⟨fun id => (hiff id).mpr, heffects.keepsVersions⟩,
      ⟨fun a b ha hb => ?_, fun id hid => ?_⟩, fun _ h => by cases h⟩
    · exact hkept.unique a b ((hiff a).mp ha) ((hiff b).mp hb)
    · rw [heffects.idempotency]
      exact hkept.recorded id ((hiff id).mp hid)
  | revised proposal version event between proposals' stored valid drawn identity next inserted moved =>
    obtain ⟨hinsert, hbetween⟩ := hinserted inserted
    have hmove := tableEffects_of_perform moved
    have hid : proposal.proposalId = proposalId := (Tables.lookup_some stored).2
    have hstored : between.getProposal proposal.proposalId = some proposal := by
      rw [PostgresStore.getProposal, hinsert.proposals, hid]
      exact stored
    have hiff : ∀ id, OwnedBy workspaceId proposals' id ↔ OwnedBy workspaceId proposals id :=
      fun id => (ownedBy_iff_of_moved hmove hstored rfl id).trans (hbetween id)
    refine ⟨⟨fun id => (hiff id).mpr, List.Subset.trans hinsert.keepsVersions hmove.keepsVersions⟩,
      ⟨fun a b ha hb => ?_, fun id hid => ?_⟩, ?_⟩
    · exact hkept.unique a b ((hiff a).mp ha) ((hiff b).mp hb)
    · rw [hmove.idempotency, hinsert.idempotency]
      exact hkept.recorded id ((hiff id).mp hid)
    · rintro _ ⟨⟩
      change NamesVersion workspaceId proposals' proposal.proposalId version.versionNo
      refine ⟨(hiff _).mpr (hid ▸ howned), version,
        hmove.keepsVersions (hinsert.version version rfl), ?_⟩
      exact Prod.ext identity rfl

/-- The call is for a new proposal of the workspace, or for a version of one that it has. -/
def LifecycleCall.OnBehalfOf (workspaceId : String) (proposals : PostgresStore) :
    LifecycleCall → Prop
  | .createProposal arguments => arguments.sourceWorkspaceId = some workspaceId
  | .createVersion proposalId _ _ _ _ => OwnedBy workspaceId proposals proposalId

theorem callKeeps_of_call {prepared : PreparedHandoff}
    (h : (proposalLifecycle config services (postgresRepository collation)).call proposals generated
      prepared.call = (proposals', result))
    (hcall : prepared.call.OnBehalfOf workspaceId proposals)
    (hguard : prepared.call.UnderOneKey workspaceId proposals services collation)
    (hkept : ProposalsKept workspaceId proposals) :
    CallKeeps workspaceId proposals proposals' result := by
  obtain ⟨session, lineage, call⟩ := prepared
  cases call with
  | createProposal arguments =>
    exact callKeeps_of_creates (creates_of_createProposal h) hcall hguard hkept
  | createVersion proposalId payload correlationId replayLineage contextResolutionOverride =>
    exact callKeeps_of_revises (revises_of_createVersion h) hcall hkept

end Calls

section Steps

variable {workspaceId : String} {config : ServiceConfig} {services : WorkspaceServices}
  {collation : LinearOrder String} {store store' : WorkspaceStore PostgresStore}
  {stage stage' : WorkspaceStage} {drawn : WorkspaceDrawn}

theorem HandoffsKept.proposalsKept (h : HandoffsKept workspaceId store) :
    ProposalsKept workspaceId store.proposals :=
  ⟨h.unique, h.recorded⟩

/-- A call leaves what is stored of the session, and its link still names what it did. -/
theorem HandoffsKept.of_call {proposals : PostgresStore}
    {result : Except ProposalError ProposalCreateResponse} (h : HandoffsKept workspaceId store)
    (hcall : CallKeeps workspaceId store.proposals proposals result) :
    HandoffsKept workspaceId { store with proposals } where
  unique := hcall.kept.unique
  link session hget link hlink := (h.link session hget link hlink).retained hcall.retains
  identity := h.identity
  recorded := hcall.kept.recorded

/-- What holds of a handoff between its steps. -/
def HandsOff (workspaceId : String) (store : WorkspaceStore PostgresStore) : WorkspaceStage → Prop
  | .reading command => ∃ request idempotencyKey correlationId, command =
      .onSession workspaceId (.handoffToProposalLifecycle request idempotencyKey correlationId)
  | .calling _ _ prepared => prepared.session.workspaceId = workspaceId ∧
      prepared.call.OnBehalfOf workspaceId store.proposals
  | .saving _ session after => session.workspaceId = workspaceId ∧
      (∀ link ∈ session.lifecycleLink,
        NamesVersion workspaceId store.proposals link.proposalId link.currentVersionNo) ∧
      ∃ response, after = .returns response
  | .returned _ => True
  | .raised _ => True

theorem LifecycleCall.OnBehalfOf.retained {call : LifecycleCall} {proposals proposals' : PostgresStore}
    (h : call.OnBehalfOf workspaceId proposals) (hretains : Retains workspaceId proposals proposals') :
    call.OnBehalfOf workspaceId proposals' := by
  cases call with
  | createProposal => exact h
  | createVersion proposalId => exact hretains.owned proposalId h

/-- No step of another handoff disturbs what holds of a handoff. -/
theorem HandsOff.retained (h : HandsOff workspaceId store stage)
    (hretains : Retains workspaceId store.proposals store'.proposals) :
    HandsOff workspaceId store' stage := by
  cases stage with
  | reading => exact h
  | calling => exact ⟨h.1, h.2.retained hretains⟩
  | saving =>
    obtain ⟨hid, hlink, hafter⟩ := h
    exact ⟨hid, fun link hmem => (hlink link hmem).retained hretains, hafter⟩
  | returned => trivial
  | raised => trivial

theorem onBehalfOf_of_prepares {session : WorkspaceSession} {request : WorkspaceLifecycleHandoffRequest}
    {idempotencyKey correlationId : Option String} {prepared : PreparedHandoff}
    (h : Prepares services drawn session request workspaceId idempotencyKey correlationId prepared)
    (hstore : HandoffsKept workspaceId store)
    (hget : store.tables.get workspaceId = .ok session) :
    prepared.call.OnBehalfOf workspaceId store.proposals := by
  cases h with
  | createProposal => rfl
  | createVersion link _ _ _ _ linked => exact (hstore.link session hget link linked).owned

theorem HandoffsKept.save {tables : WorkspaceTables} {session : WorkspaceSession}
    (h : HandoffsKept workspaceId store) (hid : session.workspaceId = workspaceId)
    (hlink : ∀ link ∈ session.lifecycleLink,
      NamesVersion workspaceId store.proposals link.proposalId link.currentVersionNo)
    (hsave : store.tables.save session = .ok tables) :
    HandoffsKept workspaceId { store with tables } := by
  have hget : tables.get workspaceId = .ok session.stored := hid ▸ WorkspaceTables.get_save_self hsave
  refine ⟨⟨h.unique, fun read hread => ?_⟩, fun read hread => ?_, h.recorded⟩
  · obtain rfl := Except.ok.inj (hget.symm.trans hread)
    exact hlink
  · obtain rfl := Except.ok.inj (hget.symm.trans hread)
    exact hid

/-- Each step of a handoff keeps the invariant and what is known of the handoff, and retains what the
others rely on. -/
theorem handsOff_of_step
    (h : StepsTo services (proposalLifecycle config services.proposals (postgresRepository collation))
      store stage drawn store' stage')
    (hstore : HandoffsKept workspaceId store) (hstage : HandsOff workspaceId store stage)
    (hguard : CreatesUnderOneKey services.proposals collation workspaceId store stage drawn) :
    HandoffsKept workspaceId store' ∧ HandsOff workspaceId store' stage' ∧
      Retains workspaceId store.proposals store'.proposals := by
  cases h with
  | fails => exact ⟨hstore, trivial, .refl⟩
  | creates =>
    obtain ⟨_, _, _, hcommand⟩ := hstage
    cases hcommand
  | works id command drawn session session' after evaluation reads work =>
    obtain ⟨request, idempotencyKey, correlationId, hcommand⟩ := hstage
    cases hcommand
    obtain ⟨_, _, hcall⟩ := map_eq_ok.mp (mapError_eq_ok.mp work)
    cases hcall
  | prepares id request idempotencyKey correlationId drawn session prepared reads prepares =>
    obtain ⟨_, _, _, hcommand⟩ := hstage
    cases hcommand
    obtain ⟨resolvedContext, hsession⟩ := session_of_prepares prepares
    refine ⟨hstore, ⟨?_, onBehalfOf_of_prepares prepares hstore reads⟩, .refl⟩
    rw [hsession]
    exact hstore.identity session reads
  | refused read request prepared drawn proposals error called =>
    have hcall := callKeeps_of_call called hstage.2 hguard hstore.proposalsKept
    exact ⟨hstore.of_call hcall, trivial, hcall.retains⟩
  | answered read request prepared drawn proposals response called =>
    have hcall := callKeeps_of_call called hstage.2 hguard hstore.proposalsKept
    refine ⟨hstore.of_call hcall, ⟨hstage.1, ?_, _, rfl⟩, hcall.retains⟩
    rintro _ ⟨⟩
    exact hcall.names response rfl
  | saves read session after drawn tables saved =>
    obtain ⟨hid, hlink, response, rfl⟩ := hstage
    exact ⟨hstore.save hid hlink saved, trivial, .refl⟩
  | saveFails => exact ⟨hstore, trivial, .refl⟩

theorem handoffs_outline :
    (workspaceHandoffs services (proposalLifecycle config services.proposals
      (postgresRepository collation)) workspaceId).Outline (HandoffsKept workspaceId)
      (fun _ => HandsOff workspaceId) (CreatesUnderOneKey services.proposals collation workspaceId) where
  start _ _ call _ := ⟨call.request, call.idempotencyKey, call.correlationId, rfl⟩
  step _ _ _ _ _ _ hstore hstage hguard hstep :=
    have hkept := handsOff_of_step (stepsTo_of_step hstep) hstore hstage hguard
    ⟨hkept.1, hkept.2.1⟩
  stable _ _ _ _ _ _ _ _ hstore hstage hguard hstep hother :=
    hother.retained (handsOff_of_step (stepsTo_of_step hstep) hstore hstage hguard).2.2

end Steps

/-- Any number of handoffs of one workspace, in any interleaving; a handoff may also stop between two
of its steps. -/
theorem one_proposal_of_handoffs (config : ServiceConfig) (services : WorkspaceServices)
    (collation : LinearOrder String) (workspaceId : String) (store : WorkspaceStore PostgresStore)
    (labels : List (Label HandoffCall WorkspaceDrawn)) (hstore : HandoffsKept workspaceId store)
    (hguard : EveryStep
      (workspaceHandoffs services (proposalLifecycle config services.proposals
        (postgresRepository collation)) workspaceId).next
      (Program.Guard (CreatesUnderOneKey services.proposals collation workspaceId))
      (.initial store) labels) :
    EveryState
      (workspaceHandoffs services (proposalLifecycle config services.proposals
        (postgresRepository collation)) workspaceId).next
      (fun pool => OneProposal workspaceId pool.store) (.initial store) labels :=
  handoffs_outline.everyState (fun _ hholds => hholds.store.toOneProposal)
    (Program.holds_initial hstore) hguard

/-! ## Runs -/

/-- A session that was just created. -/
def newWorkspace : WorkspaceStore PostgresStore :=
  ((run (workspaceCommands Sample.services Sample.port).next (.initial Sample.store)
    (Sample.alone 0 0 2 Sample.create)).map (·.store)).getD Sample.store

theorem newWorkspace_handoffsKept : HandoffsKept "aws_1" newWorkspace := by
  have hsession : ∃ session ∈ (newWorkspace.tables.get "aws_1").toOption,
      session.workspaceId = "aws_1" ∧ session.lifecycleLink.isNone = true := by decide
  have hproposals : newWorkspace.proposals = .empty := by decide
  obtain ⟨session, hget, hid, hlink⟩ := hsession
  refine .of_unlinked "aws_1" (toOption_eq_some.mp hget) hid (Option.isNone_iff_eq_none.mp hlink) ?_
  rintro proposalId ⟨proposal, hstored, -⟩
  rw [hproposals] at hstored
  cases hstored

def handoffCall (idempotencyKey : String) : HandoffCall where
  request := { handoffBy := "advisor_1" }
  idempotencyKey := some idempotencyKey

/-- Two handoffs under one key, which both read the session before either creates, and a third one. -/
def handoffsUnderOneKey : List (Label HandoffCall WorkspaceDrawn) :=
  [.start 0 (handoffCall "key-1"), .start 1 (handoffCall "key-1"), .advance 0 (Sample.drawn 2),
    .advance 1 (Sample.drawn 3), .advance 0 (Sample.drawn 4), .advance 1 (Sample.drawn 5),
    .advance 0 (Sample.drawn 6), .advance 1 (Sample.drawn 7), .start 2 (handoffCall "key-2"),
    .advance 2 (Sample.drawn 8), .advance 2 (Sample.drawn 9), .advance 2 (Sample.drawn 10)]

theorem one_proposal_of_handoffs_underOneKey :
    EveryState (workspaceHandoffs Sample.services Sample.port "aws_1").next
      (fun pool => OneProposal "aws_1" pool.store) (.initial newWorkspace) handoffsUnderOneKey :=
  one_proposal_of_handoffs Proposals.Sample.config Sample.services Proposals.Sample.codePoints "aws_1"
    newWorkspace handoffsUnderOneKey newWorkspace_handoffsKept (by decide +kernel)

/-- Two handoffs under a key each, which both read the session before either creates. -/
def handoffsUnderTwoKeys : List (Label HandoffCall WorkspaceDrawn) :=
  [.start 0 (handoffCall "key-1"), .start 1 (handoffCall "key-2"), .advance 0 (Sample.drawn 2),
    .advance 1 (Sample.drawn 3), .advance 0 (Sample.drawn 4), .advance 1 (Sample.drawn 5)]

theorem two_proposals_of_handoffs :
    HandoffsKept "aws_1" newWorkspace ∧
      ¬ EveryState (workspaceHandoffs Sample.services Sample.port "aws_1").next
        (fun pool => OneProposal "aws_1" pool.store) (.initial newWorkspace) handoffsUnderTwoKeys := by
  refine ⟨newWorkspace_handoffsKept, fun h => ?_⟩
  have hsame : EveryState (workspaceHandoffs Sample.services Sample.port "aws_1").next
      (fun pool => OwnedBy "aws_1" pool.store.proposals "pp_004" →
        OwnedBy "aws_1" pool.store.proposals "pp_005" → "pp_004" = "pp_005")
      (.initial newWorkspace) handoffsUnderTwoKeys :=
    ⟨h.1.unique "pp_004" "pp_005", h.2.mono fun _ _ _ _ hpool => hpool.unique "pp_004" "pp_005"⟩
  revert hsame
  decide +kernel

end LotusAdvise.Workspace

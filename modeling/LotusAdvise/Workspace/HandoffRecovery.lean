import LotusAdvise.Workspace.LinkedProposal
import Mathlib.Logic.Relation

/-! # Recovery of a lost handoff

A handoff that has called the lifecycle and is lost before it saves the session leaves a
proposal or a version without a link. The same handoff again finds the session as it was: a
creation is replayed from the record of its key, a version has no key.
-/

namespace LotusAdvise.Workspace

open Workers Proposals

/-! ## Histories of the tables -/

/-- What lifecycle commands commit to the proposal tables, write by write. -/
def Committed (collation : LinearOrder String) : PostgresStore → PostgresStore → Prop :=
  Relation.ReflTransGen fun before after =>
    ∃ write, (postgresRepository collation).perform before write = .ok after

/-- What commands save to the session tables. -/
def Saved : WorkspaceTables → WorkspaceTables → Prop :=
  Relation.ReflTransGen fun before after => ∃ session, before.save session = .ok after

section Histories

variable {collation : LinearOrder String} {proposals proposals' : PostgresStore}
  {tables : WorkspaceTables} {session : WorkspaceSession} {workspaceId : String}

theorem Committed.keeps (h : Committed collation proposals proposals') :
    proposals.versions ⊆ proposals'.versions ∧ proposals.events ⊆ proposals'.events := by
  induction h with
  | refl => exact ⟨List.Subset.refl _, List.Subset.refl _⟩
  | tail _ hwrite ih =>
    obtain ⟨write, hperform⟩ := hwrite
    have heffects := tableEffects_of_perform hperform
    exact ⟨List.Subset.trans ih.1 heffects.keepsVersions,
      List.Subset.trans ih.2 heffects.keepsEvents⟩

/-- Every idempotency record names a version that is stored. -/
def Referenced (proposals : PostgresStore) : Prop :=
  ∀ record ∈ proposals.idempotency, ∃ version ∈ proposals.versions,
    version.slot = (record.proposalId, record.proposalVersionNo)

theorem Referenced.committed (h : Referenced proposals)
    (hcommitted : Committed collation proposals proposals') : Referenced proposals' := by
  induction hcommitted with
  | refl => exact h
  | @tail between after _ hwrite ih =>
    obtain ⟨write, hperform⟩ := hwrite
    have heffects := tableEffects_of_perform hperform
    have hkept : ∀ record ∈ between.idempotency, ∃ version ∈ after.versions,
        version.slot = (record.proposalId, record.proposalVersionNo) := by
      intro record hmem
      obtain ⟨version, hversion, hslot⟩ := ih record hmem
      exact ⟨version, heffects.keepsVersions hversion, hslot⟩
    intro record hmem
    rw [heffects.idempotency] at hmem
    rcases hwrite : write.idempotency? with _ | written
    · rw [hwrite] at hmem
      exact hkept record hmem
    · rw [hwrite] at hmem
      rcases Tables.mem_upsert hmem with rfl | hmem
      · exact heffects.referenced record hwrite
      · exact hkept record hmem

theorem Storable.congr {versions others : List WorkspaceSavedVersion} (h : Storable versions)
    (heq : others.map (·.withoutContinuity) = versions.map (·.withoutContinuity)) :
    Storable others := by
  have hmap : ∀ versions : List WorkspaceSavedVersion,
      Storable (versions.map (·.withoutContinuity)) ↔ Storable versions :=
    fun versions => List.pairwise_map
  rw [← hmap, heq, hmap]
  exact h

theorem Storable.byNumber {versions : List WorkspaceSavedVersion} (h : Storable versions) :
    Storable (byNumber versions) := by
  refine ((List.perm_insertionSort _ versions).pairwise_iff ?_).mpr h
  exact fun hne => ⟨hne.1.symm, hne.2.symm⟩

/-- Sessions are stored under their identifiers, with versions that can be stored again. -/
theorem Saved.get (h : Saved {} tables) (hget : tables.get workspaceId = .ok session) :
    session.workspaceId = workspaceId ∧ Storable session.savedVersions := by
  induction h with
  | refl => cases hget
  | tail _ hsave ih =>
    obtain ⟨saved, hsave⟩ := hsave
    by_cases hid : workspaceId = saved.workspaceId
    · subst hid
      obtain rfl := Except.ok.inj (hget.symm.trans (WorkspaceTables.get_save_self hsave))
      exact ⟨rfl, (WorkspaceTables.save_eq_ok.mp hsave).1.byNumber⟩
    · exact ih ((WorkspaceTables.get_save_of_ne hsave hid).symm.trans hget)

end Histories

/-! ## Lost handoffs and their retries -/

/-- The source system gives the same answers. -/
structure SameSource (drawn drawn' : WorkspaceDrawn) : Prop where
  statefulContext : drawn'.statefulContext = drawn.statefulContext
  enrichForTradeDrafts : drawn'.enrichForTradeDrafts = drawn.enrichForTradeDrafts

/-- The proposal that a call creates or continues. -/
def LifecycleCall.proposalId (generated : Generated) : LifecycleCall → String
  | .createProposal _ => generated.proposalId
  | .createVersion proposalId _ _ _ _ => proposalId

/-- A handoff that has read the session and called the lifecycle, which created a proposal or a
version. It takes no further step, or its save fails; other commands may have run between its
steps. -/
structure LostHandoff (services : WorkspaceServices)
    (port : WorkspaceProposalLifecyclePort PostgresStore) (collation : LinearOrder String)
    (workspaceId : String) (call : HandoffCall) where
  atRead : WorkspaceStore PostgresStore
  reading : WorkspaceDrawn
  read : WorkspaceSession
  prepared : PreparedHandoff
  reads : stepWorkspace services port atRead ((workspaceHandoffs services port workspaceId).start call)
    reading = some (atRead, .calling read call.request prepared)
  atCall : WorkspaceStore PostgresStore
  calling : WorkspaceDrawn
  afterCall : WorkspaceStore PostgresStore
  stage : WorkspaceStage
  calls : stepWorkspace services port atCall (.calling read call.request prepared) calling =
    some (afterCall, stage)
  history : Committed collation .empty atCall.proposals
  creates : ∃ version ∈ afterCall.proposals.versions, version ∉ atCall.proposals.versions

/-- The proposal that the handoff was lost for. -/
def LostHandoff.proposalId {services : WorkspaceServices}
    {port : WorkspaceProposalLifecyclePort PostgresStore} {collation : LinearOrder String}
    {workspaceId : String} {call : HandoffCall}
    (lost : LostHandoff services port collation workspaceId call) : String :=
  lost.prepared.call.proposalId lost.calling.lifecycle

/-- A later store, in which the session is the one that was read. -/
structure LostHandoff.Later {services : WorkspaceServices}
    {port : WorkspaceProposalLifecyclePort PostgresStore} {collation : LinearOrder String}
    {workspaceId : String} {call : HandoffCall}
    (lost : LostHandoff services port collation workspaceId call)
    (later : WorkspaceStore PostgresStore) : Prop where
  since : Committed collation lost.afterCall.proposals later.proposals
  saved : Saved {} later.tables
  unchanged : later.tables.get workspaceId = .ok lost.read

/-- Nothing was created, and the link of the workspace is the current version of the proposal. -/
structure Recovered (workspaceId proposalId : String)
    (before after : WorkspaceStore PostgresStore) : Prop where
  noVersion : after.proposals.versions = before.proposals.versions
  noProposal : after.proposals.proposals.map (·.proposalId) =
    before.proposals.proposals.map (·.proposalId)
  linked : ∃ session, after.tables.get workspaceId = .ok session ∧
    ∃ link ∈ session.lifecycleLink, link.proposalId = proposalId ∧
      ∃ proposal ∈ after.proposals.getProposal proposalId,
        proposal.currentVersionNo = link.currentVersionNo

/-- The handoff runs through its three steps, returns, and has recovered. -/
def Recovers (services : WorkspaceServices) (port : WorkspaceProposalLifecyclePort PostgresStore)
    (workspaceId proposalId : String) (call : HandoffCall) (before : WorkspaceStore PostgresStore)
    (reading calling saving : WorkspaceDrawn) : Prop :=
  ∃ after response,
    [reading, calling, saving].foldlM
        (fun (state : WorkspaceStore PostgresStore × WorkspaceStage) drawn =>
          stepWorkspace services port state.1 state.2 drawn)
        (before, (workspaceHandoffs services port workspaceId).start call) =
      some (after, .returned response) ∧
    Recovered workspaceId proposalId before after

/-- The key of a creation is bound to a record of it that matches, and the version on that record is
the current one of the proposal. -/
def KeyNamesCurrent (services : Services) (collation : LinearOrder String)
    (proposals : PostgresStore) (arguments : CreateProposalArguments) (proposalId : String) : Prop :=
  ∃ key ∈ normalizeOptionalIdempotencyKey arguments.idempotencyKey,
    ∃ record ∈ proposals.getProposalIdempotency key,
      (record.requestHash = services.hashCanonicalPayload arguments.payload.dump ∨
        isMatchingLegacyReplay services (postgresRepository collation) proposals arguments.payload
          record = true) ∧
      record.proposalId = proposalId ∧
      ∃ proposal ∈ proposals.getProposal proposalId,
        proposal.currentVersionNo = record.proposalVersionNo

/-- The handoff was lost for a new proposal, and its key still names the current version of it. -/
def LifecycleCall.Recoverable (services : Services) (collation : LinearOrder String)
    (proposals : PostgresStore) (generated : Generated) : LifecycleCall → Prop
  | .createProposal arguments =>
    KeyNamesCurrent services collation proposals arguments generated.proposalId
  | .createVersion _ _ _ _ _ => False

instance (services : Services) (collation : LinearOrder String) (proposals : PostgresStore)
    (arguments : CreateProposalArguments) (proposalId : String) :
    Decidable (KeyNamesCurrent services collation proposals arguments proposalId) := by
  unfold KeyNamesCurrent
  infer_instance

instance (services : Services) (collation : LinearOrder String) (proposals : PostgresStore)
    (generated : Generated) (call : LifecycleCall) :
    Decidable (call.Recoverable services collation proposals generated) := by
  unfold LifecycleCall.Recoverable
  refine LifecycleCall.casesOn call ?_ ?_ <;> intros <;> infer_instance

section Retry

variable {services : WorkspaceServices} {config : ServiceConfig} {collation : LinearOrder String}
  {drawn drawn' reading calling saving : WorkspaceDrawn} {session : WorkspaceSession}
  {workspaceId : String} {prepared : PreparedHandoff} {store after : WorkspaceStore PostgresStore}
  {port : WorkspaceProposalLifecyclePort PostgresStore} {call : HandoffCall}

/-- Two creations that agree in all that decides whether one replays the other. -/
structure SameCreation (a b : CreateProposalArguments) : Prop where
  payload : b.payload = a.payload
  idempotencyKey : b.idempotencyKey = a.idempotencyKey
  lifecycleOrigin : b.lifecycleOrigin = a.lifecycleOrigin
  sourceWorkspaceId : b.sourceWorkspaceId = a.sourceWorkspaceId

theorem buildSimulateRequest_of_sameSource (h : SameSource drawn drawn') :
    buildSimulateRequest drawn' session = buildSimulateRequest drawn session := by
  unfold buildSimulateRequest
  rw [h.statefulContext, h.enrichForTradeDrafts]

/-- The same handoff of a session without a link prepares the same creation. -/
theorem prepareHandoff_of_sameSource (hsource : SameSource drawn drawn')
    (hlink : session.lifecycleLink = none)
    (h : prepareHandoff services drawn session call.request workspaceId call.idempotencyKey
      call.correlationId = .ok prepared) :
    ∃ prepared' arguments arguments',
      prepareHandoff services drawn' session call.request workspaceId call.idempotencyKey
        call.correlationId = .ok prepared' ∧
      prepared.call = .createProposal arguments ∧ prepared'.call = .createProposal arguments' ∧
      SameCreation arguments arguments' := by
  simp only [prepareHandoff, hlink, bind_eq_ok, Prod.exists] at h
  obtain ⟨key, hkey, session', simulateRequest, hbuilt, override, hoverride, h⟩ := h
  cases h
  refine ⟨{
    session := session'
    replayLineage := buildWorkspaceHandoffReplayLineage services drawn' session'
      call.request.handoffBy .createdProposal "" 1
    call := .createProposal
      { payload := buildProposalCreateRequest session' call.request simulateRequest
        idempotencyKey := some key
        correlationId := call.correlationId
        lifecycleOrigin := .workspaceHandoff
        sourceWorkspaceId := some workspaceId
        replayLineage := some (buildWorkspaceHandoffReplayLineage services drawn' session'
          call.request.handoffBy .createdProposal "" 1).dump
        contextResolutionOverride := some override } }, _, _, ?_, rfl, rfl, ⟨rfl, rfl, rfl, rfl⟩⟩
  simp only [prepareHandoff, hlink, bind_eq_ok, Prod.exists]
  exact ⟨key, hkey, session', simulateRequest,
    (buildSimulateRequest_of_sameSource hsource).trans hbuilt, override, hoverride, rfl⟩

/-- The first step of a handoff. -/
theorem step_start : stepWorkspace services port store
      ((workspaceHandoffs services port workspaceId).start call) reading =
    match store.tables.get workspaceId with
    | .error error => some (store, .raised error)
    | .ok session =>
      match prepareHandoff services reading session call.request workspaceId call.idempotencyKey
        call.correlationId with
      | .error error => some (store, .raised (handoffError services error))
      | .ok prepared => some (store, .calling session call.request prepared) := by
  simp only [workspaceHandoffs, stepWorkspace, beginWork, workOn, bind, Except.bind]
  rcases store.tables.get workspaceId with error | session
  · rfl
  · dsimp only
    rcases prepareHandoff services reading session call.request workspaceId call.idempotencyKey
      call.correlationId with error | prepared
    · rfl
    · refine congrArg (fun evaluations => some (WorkspaceStore.mk store.tables store.proposals
        evaluations, WorkspaceStage.calling session call.request prepared)) ?_
      exact List.append_nil _

/-- Everything a handoff does that runs alone and returns. -/
theorem runs_iff {response : WorkspaceResponse} :
    [reading, calling, saving].foldlM
        (fun (state : WorkspaceStore PostgresStore × WorkspaceStage) drawn =>
          stepWorkspace services port state.1 state.2 drawn)
        (store, (workspaceHandoffs services port workspaceId).start call) =
      some (after, .returned response) ↔
    ∃ session prepared proposals answer tables, store.tables.get workspaceId = .ok session ∧
      prepareHandoff services reading session call.request workspaceId call.idempotencyKey
        call.correlationId = .ok prepared ∧
      port.call store.proposals calling.lifecycle prepared.call = (proposals, .ok answer) ∧
      store.tables.save (handedOff services calling call.request prepared answer).1 = .ok tables ∧
      after = { store with proposals, tables } ∧
      response = (handedOff services calling call.request prepared answer).2 := by
  simp only [List.foldlM_cons, List.foldlM_nil, step_start]
  constructor
  · intro h
    obtain ⟨⟨read, stage⟩, hread, ⟨called, stage'⟩, hcall, ⟨saved, stage''⟩, hsave, h⟩ :=
      (by simpa only [Option.bind_eq_bind, Option.bind_eq_some_iff] using h)
    cases h
    split at hread
    · cases hread
      cases hcall
    · next session hget =>
      split at hread
      · cases hread
        cases hcall
      · next prepared hprepare =>
        cases hread
        simp only [stepWorkspace] at hcall
        split at hcall
        · cases hcall
          cases hsave
        · next proposals answer hanswer =>
          cases hcall
          simp only [stepWorkspace] at hsave
          split at hsave
          · cases hsave
          · next tables htables =>
            cases hsave
            exact ⟨session, prepared, proposals, answer, tables, hget, hprepare, hanswer, htables,
              rfl, rfl⟩
  · rintro ⟨session, prepared, proposals, answer, tables, hget, hprepare, hcall, hsave, rfl, rfl⟩
    simp only [hget, hprepare, stepWorkspace, hcall, hsave, Option.bind_eq_bind, Option.bind_some]
    rfl

/-- A creation replays the record of its key when that names the current version. -/
theorem replays_of_keyNamesCurrent {proposals : PostgresStore} {generated : Generated}
    {arguments arguments' : CreateProposalArguments} {proposalId : String}
    (hreferenced : Referenced proposals)
    (hevent : ∃ event ∈ proposals.events, event.proposalId = proposalId)
    (horigin : validateLifecycleOrigin arguments.lifecycleOrigin arguments.sourceWorkspaceId = .ok ())
    (hsame : SameCreation arguments arguments')
    (h : KeyNamesCurrent services.proposals collation proposals arguments proposalId) :
    ∃ response, (proposalLifecycle config services.proposals
        (postgresRepository collation)).createProposal proposals generated arguments' =
          (proposals, .ok response) ∧
      response.proposal.proposalId = proposalId ∧
      ∃ proposal ∈ proposals.getProposal proposalId,
        proposal.currentVersionNo = response.version.versionNo := by
  obtain ⟨key, hkey, record, hrecord, hmatch, rfl, proposal, hproposal, hcurrent⟩ := h
  obtain ⟨hmem, hbound⟩ := Tables.lookup_some hrecord
  obtain ⟨event, hevent, hid⟩ := hevent
  have hversion : ∃ version, proposals.getVersion record.proposalId record.proposalVersionNo =
      some version := by
    rw [← Option.ne_none_iff_exists', PostgresStore.getVersion, Ne, Tables.lookup_eq_none]
    intro hnone
    obtain ⟨version, hversion, hslot⟩ := hreferenced record hmem
    exact hnone version hversion hslot
  have hlast : ∃ last, (proposals.listEvents collation record.proposalId).getLast? = some last := by
    rw [← Option.ne_none_iff_exists', Ne, List.getLast?_eq_none_iff]
    refine List.ne_nil_of_mem (a := event) ?_
    rw [PostgresStore.listEvents, Tables.orderBy, List.mem_insertionSort]
    exact List.mem_filter.mpr ⟨hevent, decide_eq_true hid⟩
  obtain ⟨version, hversion⟩ := hversion
  obtain ⟨last, hlast⟩ := hlast
  have hreplays : buildCreateResponseFromReplayReferents (postgresRepository collation) proposals
      record.proposalId record.proposalVersionNo = .ok (toCreateResponse proposal version last) := by
    have hreferents : buildCreateResponseFromReferents
        ((postgresRepository collation).getProposal proposals record.proposalId)
        ((postgresRepository collation).getVersion proposals record.proposalId
          record.proposalVersionNo)
        ((postgresRepository collation).listEvents proposals record.proposalId) =
          some (toCreateResponse proposal version last) := by
      have hproposal : (postgresRepository collation).getProposal proposals record.proposalId =
        some proposal := hproposal
      have hversion : (postgresRepository collation).getVersion proposals record.proposalId
        record.proposalVersionNo = some version := hversion
      have hlast : ((postgresRepository collation).listEvents proposals record.proposalId).getLast? =
        some last := hlast
      simp only [buildCreateResponseFromReferents, hproposal, hversion, hlast]
    simp only [buildCreateResponseFromReplayReferents, hreferents]
  refine ⟨toCreateResponse proposal version last, ?_, (Tables.lookup_some hproposal).2, proposal,
    hproposal, ?_⟩
  · refine createProposal_of_bound ?_ ?_ hrecord ?_ hreplays
    · rw [hsame.idempotencyKey]
      exact hkey
    · rw [hsame.lifecycleOrigin, hsame.sourceWorkspaceId]
      exact horigin
    · rw [hsame.payload]
      exact hmatch
  · exact hcurrent.trans (congrArg Prod.snd (Tables.lookup_some hversion).2).symm

/-- What a handoff saves can be stored when what it read could. -/
theorem storable_handedOff {request : WorkspaceLifecycleHandoffRequest}
    {idempotencyKey correlationId : Option String} {answer : ProposalCreateResponse}
    (hstorable : Storable session.savedVersions)
    (h : Prepares services drawn session request workspaceId idempotencyKey correlationId prepared) :
    Storable (handedOff services drawn' request prepared answer).1.savedVersions := by
  obtain ⟨resolvedContext, hsession⟩ := session_of_prepares h
  refine hstorable.congr (handedOff_savedVersions.trans ?_)
  rw [hsession]

/-- The identifier of a workspace is that of its session, also after a handoff. -/
theorem workspaceId_handedOff {request : WorkspaceLifecycleHandoffRequest}
    {idempotencyKey correlationId : Option String} {answer : ProposalCreateResponse}
    (h : Prepares services drawn session request workspaceId idempotencyKey correlationId prepared) :
    (handedOff services drawn' request prepared answer).1.workspaceId = session.workspaceId := by
  obtain ⟨resolvedContext, hsession⟩ := session_of_prepares h
  change prepared.session.workspaceId = session.workspaceId
  rw [hsession]

theorem recovers_of_answered {answer : ProposalCreateResponse} {proposalId : String}
    (hsaved : Saved {} store.tables) (hget : store.tables.get workspaceId = .ok session)
    (hprepare : prepareHandoff services reading session call.request workspaceId call.idempotencyKey
      call.correlationId = .ok prepared)
    (hcall : port.call store.proposals calling.lifecycle prepared.call =
      (store.proposals, .ok answer))
    (hid : answer.proposal.proposalId = proposalId)
    (hcurrent : ∃ proposal ∈ store.proposals.getProposal proposalId,
      proposal.currentVersionNo = answer.version.versionNo) :
    Recovers services port workspaceId proposalId call store reading calling saving := by
  have hprepares := prepareHandoff_eq_ok hprepare
  obtain ⟨hworkspace, hstorable⟩ := hsaved.get hget
  have hhandedOff : Storable
      (handedOff services calling call.request prepared answer).1.savedVersions :=
    storable_handedOff hstorable hprepares
  obtain ⟨tables, hsave⟩ : ∃ tables, store.tables.save
      (handedOff services calling call.request prepared answer).1 = .ok tables :=
    WorkspaceTables.save_of_storable hhandedOff
  have hstored := WorkspaceTables.get_save_self hsave
  rw [workspaceId_handedOff hprepares, hworkspace] at hstored
  refine ⟨_, _, runs_iff.mpr ⟨session, prepared, _, answer, tables, hget, hprepare, hcall, hsave,
    rfl, rfl⟩, rfl, rfl, _, hstored, _, rfl, hid, ?_⟩
  exact hcurrent

/-- What a handoff that runs alone and returns has answered and linked. -/
theorem answered_of_recovers {proposalId : String}
    (hsaved : Saved {} store.tables) (hget : store.tables.get workspaceId = .ok session)
    (h : Recovers services port workspaceId proposalId call store reading calling saving) :
    ∃ prepared proposals answer, prepareHandoff services reading session call.request workspaceId
        call.idempotencyKey call.correlationId = .ok prepared ∧
      port.call store.proposals calling.lifecycle prepared.call = (proposals, .ok answer) ∧
      proposals.versions = store.proposals.versions ∧ answer.proposal.proposalId = proposalId ∧
      ∃ proposal ∈ proposals.getProposal proposalId,
        proposal.currentVersionNo = answer.version.versionNo := by
  obtain ⟨after, response, hrun, hrecovered⟩ := h
  obtain ⟨read, prepared, proposals, answer, tables, hread, hprepare, hcall, hsave, rfl, rfl⟩ :=
    runs_iff.mp hrun
  obtain rfl := Except.ok.inj (hget.symm.trans hread)
  have hprepares := prepareHandoff_eq_ok hprepare
  obtain ⟨saved, hstored, link, hlink, hid, hcurrent⟩ := hrecovered.linked
  have hself := WorkspaceTables.get_save_self hsave
  rw [workspaceId_handedOff hprepares, (hsaved.get hget).1] at hself
  obtain rfl := Except.ok.inj (hself.symm.trans hstored)
  obtain rfl := Option.some.inj hlink
  exact ⟨prepared, proposals, answer, hprepare, hcall, hrecovered.noVersion, hid, hcurrent⟩

/-- A creation that answers without a new version replays the record of its key. -/
theorem keyNamesCurrent_of_answered {proposals proposals' : PostgresStore} {generated : Generated}
    {arguments arguments' : CreateProposalArguments} {answer : ProposalCreateResponse}
    {proposalId : String} (hfresh : proposals.VersionUnused generated.proposalVersionId)
    (hsame : SameCreation arguments arguments')
    (hcall : (proposalLifecycle config services.proposals
      (postgresRepository collation)).createProposal proposals generated arguments' =
        (proposals', .ok answer))
    (hversions : proposals'.versions = proposals.versions)
    (hid : answer.proposal.proposalId = proposalId)
    (hcurrent : ∃ proposal ∈ proposals'.getProposal proposalId,
      proposal.currentVersionNo = answer.version.versionNo) :
    KeyNamesCurrent services.proposals collation proposals arguments proposalId := by
  cases creates_of_createProposal hcall with
  | replayed key existing response normalized bound matching replays =>
    obtain ⟨hproposal, hversion⟩ := names_of_replay (postgres_keyedReads collation proposals) replays
    obtain ⟨proposal, hstored, hcurrent⟩ := hcurrent
    rw [hsame.idempotencyKey] at normalized
    rw [hsame.payload] at matching
    exact ⟨key, normalized, existing, bound, matching, hproposal.symm.trans hid, proposal, hstored,
      hcurrent.trans hversion⟩
  | created key resolved version idempotency event proposals' normalized origin unbound recorded
      located materialized performed =>
    have hmem := (tableEffects_of_perform performed).version version rfl
    rw [hversions] at hmem
    exact (hfresh version hmem (materializeFirstVersion_eq_ok materialized).1).elim

/-- A new version is never answered without storing it. -/
theorem not_answered_of_createVersion {proposals proposals' : PostgresStore} {generated : Generated}
    {proposalId : String} {payload : ProposalVersionRequest} {correlationId : Option String}
    {replayLineage contextResolutionOverride : Option JsonObject} {answer : ProposalCreateResponse}
    (hfresh : proposals.VersionUnused generated.proposalVersionId)
    (hcall : (proposalLifecycle config services.proposals
      (postgresRepository collation)).createVersion proposals generated proposalId payload
        correlationId replayLineage contextResolutionOverride = (proposals', .ok answer)) :
    proposals'.versions ≠ proposals.versions := by
  cases revises_of_createVersion hcall with
  | revised proposal version event between proposals' stored valid drawn identity next inserted
      moved =>
    intro hversions
    have hmem := (tableEffects_of_perform moved).keepsVersions
      ((tableEffects_of_perform inserted).version version rfl)
    rw [hversions] at hmem
    exact hfresh version hmem drawn

end Retry

section Lost

variable {config : ServiceConfig} {services : WorkspaceServices} {collation : LinearOrder String}
  {workspaceId : String} {call : HandoffCall} {later : WorkspaceStore PostgresStore}
  {reading calling saving : WorkspaceDrawn}
  {lost : LostHandoff services (proposalLifecycle config services.proposals
    (postgresRepository collation)) collation workspaceId call}

theorem LostHandoff.prepares : prepareHandoff services lost.reading lost.read call.request workspaceId
    call.idempotencyKey call.correlationId = .ok lost.prepared := by
  have hreads := lost.reads
  rw [step_start] at hreads
  split at hreads
  · cases hreads
  · split at hreads
    · cases hreads
    · next hprepare =>
      obtain ⟨hread, hprepared⟩ : _ ∧ _ := by simpa using hreads
      rwa [hread, hprepared] at hprepare

/-- A lost creation has committed a proposal with its first event. -/
theorem LostHandoff.created {arguments : CreateProposalArguments}
    (hcall : lost.prepared.call = .createProposal arguments) :
    validateLifecycleOrigin arguments.lifecycleOrigin arguments.sourceWorkspaceId = .ok () ∧
      (∃ event ∈ lost.afterCall.proposals.events,
        event.proposalId = lost.calling.lifecycle.proposalId) ∧
      Referenced lost.afterCall.proposals := by
  have hcalls := lost.calls
  simp only [stepWorkspace, hcall, WorkspaceProposalLifecyclePort.call] at hcalls
  obtain ⟨result, hcreates⟩ : ∃ result, (proposalLifecycle config services.proposals
      (postgresRepository collation)).createProposal lost.atCall.proposals lost.calling.lifecycle
        arguments = (lost.afterCall.proposals, result) := by
    split at hcalls <;> next heq =>
      have hstore := congrArg (·.1.proposals) (Option.some.inj hcalls)
      exact ⟨_, heq.trans (Prod.ext hstore rfl)⟩
  obtain ⟨version, hmem, hnew⟩ := lost.creates
  have hhistory : Referenced lost.atCall.proposals :=
    Referenced.committed (fun _ h => by cases h) lost.history
  generalize hafter : lost.afterCall.proposals = proposals' at hcreates hmem
  cases creates_of_createProposal hcreates with
  | failed => exact (hnew hmem).elim
  | replayed => exact (hnew hmem).elim
  | created key resolved first idempotency event proposals' normalized origin unbound recorded
      located materialized performed =>
    refine ⟨origin, ⟨_, (tableEffects_of_perform performed).event event rfl, located⟩,
      hhistory.committed (.single ⟨_, performed⟩)⟩

end Lost

/-- The retry may run at any later time at which the session and the answers of its source are as they
were; whatever lifecycle commands have committed in between. -/
theorem handoff_recovers_iff (config : ServiceConfig) (services : WorkspaceServices)
    (collation : LinearOrder String) (workspaceId : String) (call : HandoffCall)
    (lost : LostHandoff services (proposalLifecycle config services.proposals
      (postgresRepository collation)) collation workspaceId call)
    (later : WorkspaceStore PostgresStore) (hlater : lost.Later later)
    (reading calling saving : WorkspaceDrawn) (hsource : SameSource lost.reading reading)
    (hfresh : later.proposals.VersionUnused calling.lifecycle.proposalVersionId) :
    Recovers services (proposalLifecycle config services.proposals (postgresRepository collation))
        workspaceId lost.proposalId call later reading calling saving ↔
      lost.prepared.call.Recoverable services.proposals collation later.proposals
        lost.calling.lifecycle := by
  cases hcall : lost.prepared.call with
  | createProposal arguments =>
    have hlink : lost.read.lifecycleLink = none := by
      have hprepares := prepareHandoff_eq_ok lost.prepares
      generalize lost.prepared = prepared at hprepares hcall
      cases hprepares with
      | createProposal _ _ _ _ _ unlinked => exact unlinked
      | createVersion => cases hcall
    obtain ⟨prepared, arguments₀, arguments', hprepare, hcall₀, hcall', hsame⟩ :=
      prepareHandoff_of_sameSource hsource hlink lost.prepares
    obtain rfl : arguments = arguments₀ := by simpa [hcall] using hcall₀
    obtain ⟨horigin, ⟨event, hevent, hid⟩, hreferenced⟩ := lost.created hcall
    have hid : lost.proposalId = lost.calling.lifecycle.proposalId := by
      rw [LostHandoff.proposalId, hcall, LifecycleCall.proposalId]
    rw [hid]
    constructor
    · intro h
      obtain ⟨prepared', proposals, answer, hprepare', hanswer, hversions, hanswered, hcurrent⟩ :=
        answered_of_recovers hlater.saved hlater.unchanged h
      obtain rfl := Except.ok.inj (hprepare.symm.trans hprepare')
      rw [hcall'] at hanswer
      exact keyNamesCurrent_of_answered hfresh hsame hanswer hversions hanswered hcurrent
    · intro h
      obtain ⟨answer, hanswer, hanswered, hcurrent⟩ := replays_of_keyNamesCurrent
        (hreferenced.committed hlater.since) ⟨event, hlater.since.keeps.2 hevent, ‹_›⟩ horigin hsame h
      refine recovers_of_answered hlater.saved hlater.unchanged hprepare ?_ hanswered hcurrent
      rw [hcall']
      exact hanswer
  | createVersion proposalId payload correlationId replayLineage contextResolutionOverride =>
    refine iff_of_false (fun h => ?_) id
    obtain ⟨prepared, proposals, answer, hprepare, hanswer, hversions, -, -⟩ :=
      answered_of_recovers hlater.saved hlater.unchanged h
    have hlinked : ∃ link, lost.read.lifecycleLink = some link := by
      have hprepares := prepareHandoff_eq_ok lost.prepares
      generalize lost.prepared = prepared at hprepares hcall
      cases hprepares with
      | createProposal => cases hcall
      | createVersion link _ _ _ _ linked => exact ⟨link, linked⟩
    obtain ⟨link, hlink⟩ := hlinked
    cases prepareHandoff_eq_ok hprepare with
    | createProposal _ _ _ _ _ unlinked =>
      rw [hlink] at unlinked
      cases unlinked
    | createVersion => exact not_answered_of_createVersion hfresh hanswer hversions

/-! ## Runs -/

theorem newWorkspace_saved : Saved {} newWorkspace.tables := by
  have hsession : ∃ session ∈ (createdSession Sample.services (Sample.drawn 0)
      { workspaceName := "Growth"
        createdBy := "advisor_1"
        inputMode := .stateless
        statelessInput := some ⟨Sample.simulateRequest⟩ }).toOption,
      ∃ tables ∈ (WorkspaceTables.save {} session).toOption,
        tables.sessions = newWorkspace.tables.sessions ∧
          tables.savedVersions = newWorkspace.tables.savedVersions := by
    decide
  obtain ⟨session, -, ⟨sessions, savedVersions⟩, hsave, rfl, rfl⟩ := hsession
  exact .single ⟨session, toOption_eq_some.mp hsave⟩

/-- The store after the steps of some commands, one after the other. -/
def storeAfter (labels : List (Label WorkspaceCommand WorkspaceDrawn)) :
    WorkspaceStore PostgresStore :=
  ((Runs.run (workspaceCommands Sample.services Sample.port).next (.initial Sample.store) labels).map
    (·.store)).getD Sample.store

/-- A handoff that has created a proposal and was lost before its save. -/
def lostCreation : WorkspaceStore PostgresStore :=
  storeAfter (Sample.alone 0 0 2 Sample.create ++ Sample.alone 1 2 2 (Sample.handoff "key-1"))

theorem lost_creation_recovers : Recovers Sample.services Sample.port "aws_1" "pp_003"
    (handoffCall "key-1") { newWorkspace with proposals := lostCreation.proposals }
    (Sample.drawn 4) (Sample.drawn 5) (Sample.drawn 6) := by
  have hlost : ∃ session ∈ (newWorkspace.tables.get "aws_1").toOption,
      ∃ prepared ∈ (prepareHandoff Sample.services (Sample.drawn 2) session
        (handoffCall "key-1").request "aws_1" (handoffCall "key-1").idempotencyKey
        (handoffCall "key-1").correlationId).toOption,
      ∃ called ∈ stepWorkspace Sample.services Sample.port newWorkspace
        (.calling session (handoffCall "key-1").request prepared) (Sample.drawn 3),
      called.1.proposals = lostCreation.proposals ∧
        (∃ version ∈ called.1.proposals.versions, version ∉ newWorkspace.proposals.versions) ∧
        prepared.call.proposalId (Sample.drawn 3).lifecycle = "pp_003" ∧
        prepared.call.Recoverable Sample.services.proposals Proposals.Sample.codePoints
          lostCreation.proposals (Sample.drawn 3).lifecycle := by
    decide +kernel
  obtain ⟨session, hget, prepared, hprepare, ⟨afterCall, stage⟩, hcall, hafter, hcreates, hid,
    hrecoverable⟩ := hlost
  have hempty : newWorkspace.proposals = .empty := by decide +kernel
  have hfresh : lostCreation.proposals.VersionUnused (Sample.drawn 5).lifecycle.proposalVersionId := by
    decide +kernel
  have hreads : stepWorkspace Sample.services Sample.port newWorkspace
      ((workspaceHandoffs Sample.services Sample.port "aws_1").start (handoffCall "key-1"))
      (Sample.drawn 2) = some (newWorkspace, .calling session (handoffCall "key-1").request prepared) := by
    rw [step_start, toOption_eq_some.mp hget]
    dsimp only
    rw [toOption_eq_some.mp hprepare]
  have hhistory : Committed Proposals.Sample.codePoints .empty newWorkspace.proposals := by
    rw [hempty]
    exact .refl
  have hrecovers := (handoff_recovers_iff Proposals.Sample.config Sample.services
    Proposals.Sample.codePoints "aws_1" (handoffCall "key-1")
    ⟨newWorkspace, Sample.drawn 2, session, prepared, hreads, newWorkspace, Sample.drawn 3, afterCall,
      stage, hcall, hhistory, hcreates⟩
    { newWorkspace with proposals := lostCreation.proposals }
    ⟨hafter ▸ .refl, newWorkspace_saved, toOption_eq_some.mp hget⟩
    (Sample.drawn 4) (Sample.drawn 5) (Sample.drawn 6) ⟨rfl, rfl⟩ hfresh).mpr hrecoverable
  exact hid ▸ hrecovers

/-- A later handoff that has created a version and was lost before its save. -/
def lostVersion : WorkspaceStore PostgresStore :=
  storeAfter (Sample.alone 0 0 2 Sample.create ++ Sample.alone 1 2 3 (Sample.handoff "key-1") ++
    Sample.alone 2 5 2 (Sample.handoff "key-2"))

/-- The version is stored, and no retry of its handoff returns. -/
theorem lost_version_not_recovered :
    (lostVersion.proposals.getVersion "pp_003" 2).isSome = true ∧
      ¬ Recovers Sample.services Sample.port "aws_1" "pp_003" (handoffCall "key-2") lostVersion
        (Sample.drawn 7) (Sample.drawn 8) (Sample.drawn 9) := by
  refine ⟨by decide +kernel, ?_⟩
  rintro ⟨after, response, hrun, -⟩
  have hnone : ([Sample.drawn 7, Sample.drawn 8, Sample.drawn 9].foldlM
      (fun (state : WorkspaceStore PostgresStore × WorkspaceStage) drawn =>
        stepWorkspace Sample.services Sample.port state.1 state.2 drawn)
      (lostVersion, (workspaceHandoffs Sample.services Sample.port "aws_1").start
        (handoffCall "key-2"))).isNone = true := by decide +kernel
  rw [hrun] at hnone
  cases hnone

end LotusAdvise.Workspace

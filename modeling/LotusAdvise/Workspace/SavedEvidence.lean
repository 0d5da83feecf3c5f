import LotusAdvise.Workspace.Commands

/-! # The evidence of saved versions

A saved version should carry evidence of its own draft. An evaluation changes result, summary
and evidence together, but a draft action saves its draft before that; versions carry their
own evidence as long as none is saved while the latest evidence is of another draft.
-/

namespace LotusAdvise.Workspace

open Workers Runs

/-- The summary, the result and the request hash are those of one evaluation of the draft, or there
are none. -/
def ComesFrom (evaluations : List WorkspaceEvaluation) (evaluates : WorkspaceEvaluation → Prop)
    (summary : Option WorkspaceEvaluationSummary) (result : Option Proposals.ProposalResult)
    (requestHash : Option String) : Prop :=
  (summary = none ∧ result = none ∧ requestHash = none) ∨
    ∃ evaluation ∈ evaluations, evaluates evaluation ∧
      summary = some evaluation.outcome.evaluationSummary ∧
      result = some evaluation.outcome.proposalResult ∧
      requestHash = evaluation.outcome.replayEvidence.evaluationRequestHash

instance (evaluations : List WorkspaceEvaluation) (evaluates : WorkspaceEvaluation → Prop)
    [DecidablePred evaluates] (summary : Option WorkspaceEvaluationSummary)
    (result : Option Proposals.ProposalResult) (requestHash : Option String) :
    Decidable (ComesFrom evaluations evaluates summary result requestHash) :=
  inferInstanceAs (Decidable (_ ∨ ∃ evaluation ∈ evaluations, _))

/-- The version carries its own evidence: the hash of its draft, and the pieces of an evaluation of
that draft. -/
structure Evidenced (services : WorkspaceServices) (evaluations : List WorkspaceEvaluation)
    (version : WorkspaceSavedVersion) : Prop where
  draftStateHash :
    version.replayEvidence.draftStateHash = buildDraftStateHash services version.draftState
  evaluated : ComesFrom evaluations (·.draftState.SameContent version.draftState)
    version.evaluationSummary version.latestProposalResult
    version.replayEvidence.evaluationRequestHash

theorem evidenced_iff {services : WorkspaceServices} {evaluations : List WorkspaceEvaluation}
    {version : WorkspaceSavedVersion} : Evidenced services evaluations version ↔
      version.replayEvidence.draftStateHash = buildDraftStateHash services version.draftState ∧
        ComesFrom evaluations (·.draftState.SameContent version.draftState)
          version.evaluationSummary version.latestProposalResult
          version.replayEvidence.evaluationRequestHash :=
  ⟨fun ⟨hash, evaluated⟩ => ⟨hash, evaluated⟩, fun ⟨hash, evaluated⟩ => ⟨hash, evaluated⟩⟩

instance (services : WorkspaceServices) (evaluations : List WorkspaceEvaluation)
    (version : WorkspaceSavedVersion) : Decidable (Evidenced services evaluations version) :=
  decidable_of_iff _ evidenced_iff.symm

/-- The version that the lineage of a handoff names, if it names one, is saved, and has the draft that
is handed off. -/
def NamesHandedOffDraft (prepared : PreparedHandoff) : Prop :=
  ∀ id ∈ prepared.replayLineage.workspaceVersionId,
    ∃ version ∈ prepared.session.savedVersions, version.workspaceVersionId = id ∧
      version.draftState.SameContent prepared.session.draftState

/-- Every stored version carries its own evidence, and every handoff that is about to call the
lifecycle names a version with the draft that it hands off. -/
structure VersionsEvidenced {P : Type} (services : WorkspaceServices)
    (pool : Pool (WorkspaceStore P) WorkspaceStage) : Prop where
  stored : ∀ row ∈ pool.store.tables.savedVersions,
    Evidenced services pool.store.evaluations row.savedVersionJson
  lineage : ∀ i read request prepared, pool.worker i = some (.calling read request prepared) →
    NamesHandedOffDraft prepared

/-- The latest evidence of the session, if there is any, is of its draft. -/
def EvidenceInStep (services : WorkspaceServices) (session : WorkspaceSession) : Prop :=
  ∀ evidence ∈ session.latestReplayEvidence,
    evidence.draftStateHash = buildDraftStateHash services session.draftState

instance (services : WorkspaceServices) (session : WorkspaceSession) :
    Decidable (EvidenceInStep services session) :=
  inferInstanceAs (Decidable (∀ evidence ∈ _, _))

section Conditions

variable {P : Type} (services : WorkspaceServices) (store : WorkspaceStore P)

/-- The session that a command is about to read. -/
def readSession : WorkspaceStage → Option WorkspaceSession
  | .reading (.onSession workspaceId _) => (store.tables.get workspaceId).toOption
  | _ => none

/-- A version is saved only while the latest evidence of the session is of its draft. -/
def SavesInStep : WorkspaceStage → WorkspaceDrawn → Prop
  | .reading (.onSession workspaceId (.saveVersion _)), _ =>
    ∀ session ∈ (store.tables.get workspaceId).toOption, EvidenceInStep services session
  | _, _ => True

instance (stage : WorkspaceStage) (drawn : WorkspaceDrawn) :
    Decidable (SavesInStep services store stage drawn) := by
  unfold SavesInStep
  split <;> infer_instance

/-- The drafts whose hashes a command may compare. -/
def draftPayloads (session : WorkspaceSession) : List JsonObject :=
  session.draftState.dump :: (store.evaluations.map (·.draftState.dump) ++
    session.savedVersions.map (·.draftState.dump))

/-- The digest does not collide on the drafts of the session that is read and of the evaluations. -/
def DraftsCollisionFree (stage : WorkspaceStage) (_ : WorkspaceDrawn) : Prop :=
  ∀ session ∈ readSession store stage,
    services.proposals.CollisionFree (draftPayloads store session)

instance (stage : WorkspaceStage) (drawn : WorkspaceDrawn) :
    Decidable (DraftsCollisionFree services store stage drawn) :=
  inferInstanceAs (Decidable (∀ session ∈ _, ∀ a ∈ _, ∀ b ∈ _, _ → _))

end Conditions

section Evidence

variable {services : WorkspaceServices} {evaluations more : List WorkspaceEvaluation}
  {evaluates : WorkspaceEvaluation → Prop} {summary : Option WorkspaceEvaluationSummary}
  {result : Option Proposals.ProposalResult} {requestHash : Option String}
  {version other : WorkspaceSavedVersion} {session session' : WorkspaceSession}

theorem ComesFrom.mono (h : ComesFrom evaluations evaluates summary result requestHash) :
    ComesFrom (evaluations ++ more) evaluates summary result requestHash := by
  obtain hnone | ⟨evaluation, hmem, hpieces⟩ := h
  · exact .inl hnone
  · exact .inr ⟨evaluation, List.mem_append_left _ hmem, hpieces⟩

theorem ComesFrom.imp {evaluates' : WorkspaceEvaluation → Prop}
    (h : ComesFrom evaluations evaluates summary result requestHash)
    (himp : ∀ evaluation ∈ evaluations, evaluates evaluation → evaluates' evaluation) :
    ComesFrom evaluations evaluates' summary result requestHash := by
  obtain hnone | ⟨evaluation, hmem, hevaluates, hpieces⟩ := h
  · exact .inl hnone
  · exact .inr ⟨evaluation, hmem, himp evaluation hmem hevaluates, hpieces⟩

theorem Evidenced.mono (h : Evidenced services evaluations version) :
    Evidenced services (evaluations ++ more) version :=
  ⟨h.draftStateHash, h.evaluated.mono⟩

/-- The continuity of the evidence does not matter. -/
theorem Evidenced.congr (h : Evidenced services evaluations version)
    (heq : other.withoutContinuity = version.withoutContinuity) :
    Evidenced services evaluations other := by
  obtain ⟨-, -, -, -, -, hdraft, hsummary, hresult, hevidence⟩ :=
    WorkspaceSavedVersion.mk.inj heq
  obtain ⟨-, -, hhash, hrequest, -⟩ := WorkspaceReplayEvidence.mk.inj hevidence
  refine ⟨?_, ?_⟩
  · rw [hhash, hdraft, h.draftStateHash]
  · rw [hdraft, hsummary, hresult, hrequest]
    exact h.evaluated

/-- Drafts with the same content have the same hash. -/
theorem WorkspaceDraftState.SameContent.hash_eq {a b : WorkspaceDraftState}
    (h : a.SameContent b) : buildDraftStateHash services a = buildDraftStateHash services b := by
  unfold buildDraftStateHash Proposals.Services.hashCanonicalPayload
  rw [show (Json.obj a.dump).canonical = (Json.obj b.dump).canonical from h]

theorem sameContent_of_hash_eq {payloads : List JsonObject} {a b : WorkspaceDraftState}
    (hfree : services.proposals.CollisionFree payloads) (ha : a.dump ∈ payloads)
    (hb : b.dump ∈ payloads)
    (h : buildDraftStateHash services a = buildDraftStateHash services b) : a.SameContent b :=
  hfree _ ha _ hb ((String.append_right_inj _).mp h)

/-- What holds of a session with its evidence, whatever its draft is: its versions carry their own
evidence, and result, summary and evidence are of one evaluation, or there are none. -/
structure SessionEvidence (services : WorkspaceServices) (evaluations : List WorkspaceEvaluation)
    (session : WorkspaceSession) : Prop where
  versions : ∀ version ∈ session.savedVersions, Evidenced services evaluations version
  unevaluated : session.latestReplayEvidence = none →
    session.evaluationSummary = none ∧ session.latestProposalResult = none
  latest : ∀ evidence ∈ session.latestReplayEvidence,
    ComesFrom evaluations (buildDraftStateHash services ·.draftState = evidence.draftStateHash)
      session.evaluationSummary session.latestProposalResult evidence.evaluationRequestHash

namespace SessionEvidence

theorem mono (h : SessionEvidence services evaluations session) :
    SessionEvidence services (evaluations ++ more) session where
  versions version hmem := (h.versions version hmem).mono
  unevaluated := h.unevaluated
  latest evidence hevidence := (h.latest evidence hevidence).mono

/-- Another session with the same pieces, but for the continuity of its evidence. -/
theorem transfer (h : SessionEvidence services evaluations session)
    (hversions : ∀ other ∈ session'.savedVersions, ∃ version ∈ session.savedVersions,
      other.withoutContinuity = version.withoutContinuity)
    (hsummary : session'.evaluationSummary = session.evaluationSummary)
    (hresult : session'.latestProposalResult = session.latestProposalResult)
    (hlatest : session'.latestReplayEvidence.map (·.withContinuity []) =
      session.latestReplayEvidence.map (·.withContinuity [])) :
    SessionEvidence services evaluations session' where
  versions other hmem := by
    obtain ⟨version, hversion, heq⟩ := hversions other hmem
    exact (h.versions version hversion).congr heq
  unevaluated hnone := by
    rw [hnone, Option.map_none, eq_comm, Option.map_eq_none_iff] at hlatest
    rw [hsummary, hresult]
    exact h.unevaluated hlatest
  latest evidence' hevidence' := by
    rw [Option.mem_def] at hevidence'
    rw [hevidence', Option.map_some] at hlatest
    obtain ⟨evidence, hevidence, heq⟩ := Option.map_eq_some_iff.mp hlatest.symm
    obtain ⟨-, -, hhash, hrequest, -⟩ := WorkspaceReplayEvidence.mk.inj heq
    rw [hsummary, hresult, ← hhash, ← hrequest]
    exact h.latest evidence hevidence

theorem stored (h : SessionEvidence services evaluations session) :
    SessionEvidence services evaluations session.stored :=
  h.transfer (fun version hmem => ⟨version, (List.mem_insertionSort _).mp hmem, rfl⟩) rfl rfl rfl

/-- A version saved while the evidence is in step carries its own evidence. -/
theorem evidenced_saved {drawn : WorkspaceDrawn} {request : WorkspaceSaveRequest}
    {payloads : List JsonObject} (h : SessionEvidence services evaluations session)
    (hstep : EvidenceInStep services session)
    (hfree : services.proposals.CollisionFree payloads)
    (hdraft : session.draftState.dump ∈ payloads)
    (hevaluations : ∀ evaluation ∈ evaluations, evaluation.draftState.dump ∈ payloads) :
    Evidenced services evaluations (buildSavedWorkspaceVersion services drawn session request) := by
  rcases hevidence : session.latestReplayEvidence with _ | evidence
  · obtain ⟨hsummary, hresult⟩ := h.unevaluated hevidence
    refine ⟨?_, .inl ⟨hsummary, hresult, ?_⟩⟩
    · rw [buildSavedWorkspaceVersion, hevidence]
      rfl
    · rw [buildSavedWorkspaceVersion, hevidence]
      rfl
  · have hhash := hstep evidence hevidence
    refine ⟨?_, ?_⟩
    · rw [buildSavedWorkspaceVersion, hevidence]
      exact hhash
    · have hlatest := h.latest evidence hevidence
      simp only [buildSavedWorkspaceVersion, hevidence, Option.getD_some]
      refine hlatest.imp fun evaluation hmem heq => ?_
      exact sameContent_of_hash_eq hfree (hevaluations evaluation hmem) hdraft (heq.trans hhash)

/-- What a command makes of a session keeps the evidence, if a version that it saves is evidenced. -/
theorem reworked {drawn : WorkspaceDrawn} {workspaceId : String} {after : AfterSave}
    {evaluation : Option WorkspaceEvaluation} (h : SessionEvidence services evaluations session)
    (hreworked : Reworked services drawn workspaceId session session' after evaluation)
    (hsaved : ∀ request, after = .returns (.savedVersion session'
      (buildSavedWorkspaceVersion services drawn session request)) →
        Evidenced services evaluations (buildSavedWorkspaceVersion services drawn session request)) :
    SessionEvidence services (evaluations ++ evaluation.toList) session' := by
  have hmono : SessionEvidence services (evaluations ++ evaluation.toList) session := h.mono
  cases hreworked with
  | evaluated resolvedContext request outcome evaluates =>
    refine ⟨fun version hmem => (h.versions version hmem).mono, (fun hnone => by cases hnone), ?_⟩
    rintro _ ⟨⟩
    have hhash := (evaluate_eq_ok evaluates).1
    exact .inr ⟨_, List.mem_append_right _ (List.mem_singleton_self _), hhash.symm, rfl, rfl, rfl⟩
  | draftChanged draftState =>
    exact hmono.transfer (fun version hmem => ⟨version, hmem, rfl⟩) rfl rfl rfl
  | versionSaved request =>
    refine ⟨fun version hmem => ?_, hmono.unevaluated, hmono.latest⟩
    rcases List.mem_append.mp hmem with hmem | hmem
    · exact (h.versions version hmem).mono
    · rw [List.mem_singleton.mp hmem]
      exact (hsaved request rfl).mono
  | versionResumed version saved =>
    refine ⟨hmono.versions, (fun hnone => by cases hnone), ?_⟩
    rintro _ ⟨⟩
    have hversion := h.versions version saved
    refine hversion.evaluated.mono.imp fun evaluation _ hsame => ?_
    rw [hversion.draftStateHash]
    exact hsame.hash_eq

/-- A handoff changes the continuity and the link. -/
theorem handedOff {drawn : WorkspaceDrawn} {request : WorkspaceLifecycleHandoffRequest}
    {prepared : PreparedHandoff} {response : Proposals.ProposalCreateResponse}
    (h : SessionEvidence services evaluations prepared.session) :
    SessionEvidence services evaluations (handedOff services drawn request prepared response).1 := by
  refine h.transfer (fun other hmem => ?_) rfl rfl ?_
  · have hother : other.withoutContinuity ∈ prepared.session.savedVersions.map
        WorkspaceSavedVersion.withoutContinuity := by
      rw [← handedOff_savedVersions]
      exact List.mem_map_of_mem hmem
    obtain ⟨version, hversion, heq⟩ := List.mem_map.mp hother
    exact ⟨version, hversion, heq.symm⟩
  · show Option.map _ (Option.map _ _) = _
    rw [Option.map_map]
    rfl

end SessionEvidence

theorem SessionEvidence.prepared {drawn : WorkspaceDrawn} {workspaceId : String}
    {request : WorkspaceLifecycleHandoffRequest} {idempotencyKey correlationId : Option String}
    {prepared : PreparedHandoff} (h : SessionEvidence services evaluations session)
    (hprepares : Prepares services drawn session request workspaceId idempotencyKey correlationId
      prepared) : SessionEvidence services evaluations prepared.session := by
  obtain ⟨resolvedContext, hsession⟩ := session_of_prepares hprepares
  rw [hsession]
  exact h.transfer (fun version hmem => ⟨version, hmem, rfl⟩) rfl rfl rfl

theorem findMatchingSavedVersion_eq_some
    (h : findMatchingSavedVersion services session = some version) :
    version ∈ session.savedVersions ∧
      version.replayEvidence.draftStateHash = buildDraftStateHash services session.draftState := by
  unfold findMatchingSavedVersion at h
  have hmatches := List.find?_some h
  rw [decide_eq_true_eq] at hmatches
  exact ⟨List.mem_reverse.mp (List.mem_of_find?_eq_some h), hmatches.1⟩

/-- The version found by the hash of the draft has that draft. -/
theorem SessionEvidence.names {payloads : List JsonObject}
    (h : SessionEvidence services evaluations session)
    (hfree : services.proposals.CollisionFree payloads)
    (hdraft : session.draftState.dump ∈ payloads)
    (hversions : ∀ version ∈ session.savedVersions, version.draftState.dump ∈ payloads) :
    ∀ id ∈ (findMatchingSavedVersion services session).map (·.workspaceVersionId),
      ∃ version ∈ session.savedVersions, version.workspaceVersionId = id ∧
        version.draftState.SameContent session.draftState := by
  intro id hid
  obtain ⟨version, hfound, rfl⟩ := Option.map_eq_some_iff.mp hid
  obtain ⟨hmem, hhash⟩ := findMatchingSavedVersion_eq_some hfound
  refine ⟨version, hmem, rfl, ?_⟩
  refine sameContent_of_hash_eq hfree (hversions version hmem) hdraft ?_
  exact (h.versions version hmem).draftStateHash.symm.trans hhash

end Evidence

section Run

variable {P : Type} {services : WorkspaceServices} {port : WorkspaceProposalLifecyclePort P}
  {store store' : WorkspaceStore P} {stage stage' : WorkspaceStage} {drawn : WorkspaceDrawn}

/-- The stored versions carry their own evidence, and so does every session as it is read. -/
structure StoreEvidence (services : WorkspaceServices) (store : WorkspaceStore P) : Prop where
  rows : ∀ row ∈ store.tables.savedVersions,
    Evidenced services store.evaluations row.savedVersionJson
  sessions : ∀ workspaceId session, store.tables.get workspaceId = .ok session →
    SessionEvidence services store.evaluations session

/-- What holds of the copy of a session that a command works with. -/
def StageEvidence (services : WorkspaceServices) (store : WorkspaceStore P) :
    WorkspaceStage → Prop
  | .calling _ _ prepared => SessionEvidence services store.evaluations prepared.session ∧
      NamesHandedOffDraft prepared
  | .saving _ session _ => SessionEvidence services store.evaluations session
  | _ => True

theorem StoreEvidence.mono {more : List WorkspaceEvaluation} (h : StoreEvidence services store) :
    StoreEvidence services { store with evaluations := store.evaluations ++ more } where
  rows row hrow := (h.rows row hrow).mono
  sessions workspaceId session hget := (h.sessions workspaceId session hget).mono

theorem StageEvidence.mono {more : List WorkspaceEvaluation}
    (hmore : store'.evaluations = store.evaluations ++ more)
    (h : StageEvidence services store stage) : StageEvidence services store' stage := by
  cases stage with
  | calling read request prepared =>
    unfold StageEvidence at h ⊢
    rw [hmore]
    exact ⟨h.1.mono, h.2⟩
  | saving read session after =>
    unfold StageEvidence at h ⊢
    rw [hmore]
    exact h.mono
  | _ => trivial

theorem StoreEvidence.save {tables : WorkspaceTables} {session : WorkspaceSession}
    (h : StoreEvidence services store) (hsession : SessionEvidence services store.evaluations session)
    (hsave : store.tables.save session = .ok tables) :
    StoreEvidence services { store with tables } where
  rows row hrow := by
    obtain ⟨-, rfl⟩ := WorkspaceTables.save_eq_ok.mp hsave
    rcases List.mem_append.mp hrow with hrow | hrow
    · exact h.rows row (List.mem_filter.mp hrow).1
    · obtain ⟨version, hversion, rfl⟩ := List.mem_map.mp hrow
      exact hsession.versions version hversion
  sessions workspaceId read hget := by
    by_cases hid : workspaceId = session.workspaceId
    · subst hid
      have hread := hget.symm.trans (WorkspaceTables.get_save_self hsave)
      obtain rfl := Except.ok.inj hread
      exact hsession.stored
    · exact h.sessions workspaceId read
        ((WorkspaceTables.get_save_of_ne hsave hid).symm.trans hget)

/-- A step only adds to the evaluations on record. -/
theorem evaluations_of_step (h : StepsTo services port store stage drawn store' stage') :
    ∃ more, store'.evaluations = store.evaluations ++ more := by
  cases h with
  | works _ _ _ _ _ _ evaluation => exact ⟨evaluation.toList, rfl⟩
  | _ => exact ⟨[], (List.append_nil _).symm⟩

/-- A session that was just created has neither versions nor evidence. -/
theorem sessionEvidence_created {request : WorkspaceSessionCreateRequest}
    {session : WorkspaceSession} {evaluations : List WorkspaceEvaluation}
    (h : createdSession services drawn request = .ok session) :
    SessionEvidence services evaluations session := by
  simp only [createdSession, bind_eq_ok, Prod.exists] at h
  obtain ⟨_, _, _, h⟩ := h
  cases h
  exact ⟨fun _ hmem => (by cases hmem), fun _ => ⟨rfl, rfl⟩, fun _ hmem => (by cases hmem)⟩

theorem mem_readSession {workspaceId : String} {command : SessionCommand}
    {session : WorkspaceSession} (h : store.tables.get workspaceId = .ok session) :
    session ∈ readSession store (.reading (.onSession workspaceId command)) :=
  toOption_eq_some.mpr h

theorem mem_draftPayloads {session : WorkspaceSession} :
    session.draftState.dump ∈ draftPayloads store session ∧
      (∀ evaluation ∈ store.evaluations,
        evaluation.draftState.dump ∈ draftPayloads store session) ∧
      ∀ version ∈ session.savedVersions,
        version.draftState.dump ∈ draftPayloads store session := by
  refine ⟨List.mem_cons_self, fun evaluation hmem => ?_, fun version hmem => ?_⟩
  · exact List.mem_cons_of_mem _ (List.mem_append_left _ (List.mem_map_of_mem hmem))
  · exact List.mem_cons_of_mem _ (List.mem_append_right _ (List.mem_map_of_mem hmem))

/-- Each step keeps the evidence of the store and of the copy, when saves are in step. -/
theorem evidence_of_step (h : StepsTo services port store stage drawn store' stage')
    (hstore : StoreEvidence services store) (hstage : StageEvidence services store stage)
    (hsaves : SavesInStep services store stage drawn)
    (hfree : DraftsCollisionFree services store stage drawn) :
    StoreEvidence services store' ∧ StageEvidence services store' stage' := by
  cases h with
  | fails => exact ⟨hstore, trivial⟩
  | creates request drawn session created => exact ⟨hstore, sessionEvidence_created created⟩
  | works workspaceId command drawn session session' after evaluation reads work =>
    refine ⟨hstore.mono, ?_⟩
    have hsession := hstore.sessions workspaceId session reads
    refine hsession.reworked (reworked_of_workOn work) fun request hafter => ?_
    obtain ⟨hdraft, hevaluations, -⟩ := @mem_draftPayloads P store session
    have hcollision := hfree session (mem_readSession reads)
    refine hsession.evidenced_saved ?_ hcollision hdraft hevaluations
    -- only `save_version` answers with a saved version
    cases command with
    | saveVersion => exact hsaves session (toOption_eq_some.mpr reads)
    | handoffToProposalLifecycle =>
      obtain ⟨_, _, hwork⟩ := map_eq_ok.mp (mapError_eq_ok.mp work)
      cases hwork
    | _ =>
      obtain ⟨_, _, hwork⟩ := map_eq_ok.mp work
      cases hwork
      cases hafter
  | prepares workspaceId request idempotencyKey correlationId drawn session prepared reads prepares =>
    refine ⟨hstore, ?_⟩
    have hprepared := (hstore.sessions workspaceId session reads).prepared prepares
    refine ⟨hprepared, ?_⟩
    obtain ⟨hdraft, -, hversions⟩ := @mem_draftPayloads P store session
    have hcollision := hfree session (mem_readSession reads)
    obtain ⟨resolvedContext, hsession⟩ := session_of_prepares prepares
    have hlineage : prepared.replayLineage.workspaceVersionId =
        (findMatchingSavedVersion services prepared.session).map (·.workspaceVersionId) := by
      cases prepares with
      | createProposal _ _ _ _ _ _ _ _ lineage => rw [lineage]; rfl
      | createVersion _ _ _ _ _ _ _ lineage => rw [lineage]; rfl
    unfold NamesHandedOffDraft
    rw [hlineage]
    refine hprepared.names hcollision ?_ ?_
    · rw [hsession]
      exact hdraft
    · rw [hsession]
      exact hversions
  | refused => exact ⟨⟨hstore.rows, hstore.sessions⟩, trivial⟩
  | answered read request prepared => exact ⟨⟨hstore.rows, hstore.sessions⟩, hstage.1.handedOff⟩
  | saves read session after drawn tables saved =>
    refine ⟨hstore.save hstage saved, ?_⟩
    cases after <;> trivial
  | saveFails => exact ⟨hstore, trivial⟩

theorem evidence_outline : (workspaceCommands services port).Outline (StoreEvidence services)
    (fun _ => StageEvidence services) fun store stage drawn =>
      SavesInStep services store stage drawn ∧ DraftsCollisionFree services store stage drawn where
  start _ _ _ _ := trivial
  step _ _ _ _ _ _ hstore hstage hguard hstep :=
    evidence_of_step (stepsTo_of_step hstep) hstore hstage hguard.1 hguard.2
  stable _ _ _ _ _ _ _ _ _ _ _ hstep hother := by
    obtain ⟨more, hmore⟩ := evaluations_of_step (stepsTo_of_step hstep)
    exact hother.mono hmore

theorem VersionsEvidenced.of_holds {pool : Pool (WorkspaceStore P) WorkspaceStage}
    (h : Program.Holds (StoreEvidence services) (fun _ => StageEvidence services) pool) :
    VersionsEvidenced services pool where
  stored := h.store.rows
  lineage i _ _ _ hworker := (h.worker i _ hworker).2

theorem guard_and {Q R : WorkspaceStore P → WorkspaceStage → WorkspaceDrawn → Prop}
    {pool : Pool (WorkspaceStore P) WorkspaceStage}
    {labels : List (Label WorkspaceCommand WorkspaceDrawn)}
    (hQ : EveryStep (workspaceCommands services port).next (Program.Guard Q) pool labels)
    (hR : EveryStep (workspaceCommands services port).next (Program.Guard R) pool labels) :
    EveryStep (workspaceCommands services port).next
      (Program.Guard fun store stage drawn => Q store stage drawn ∧ R store stage drawn) pool
      labels := by
  refine (everyStep_and.mpr ⟨hQ, hR⟩).mono fun p label q _ h => ?_
  cases label with
  | start => trivial
  | advance i drawn => exact fun stage hstage => ⟨h.1 stage hstage, h.2 stage hstage⟩

end Run

/-- The commands may be interleaved in any way, may fail, and may stop between two of their steps;
one after the other is a special case. -/
theorem saved_versions_evidenced {P : Type} (services : WorkspaceServices)
    (port : WorkspaceProposalLifecyclePort P) (proposals : P)
    (labels : List (Label WorkspaceCommand WorkspaceDrawn))
    (hfree : EveryStep (workspaceCommands services port).next
      (Program.Guard (DraftsCollisionFree services)) (.initial ⟨{}, proposals, []⟩) labels)
    (hsaves : EveryStep (workspaceCommands services port).next
      (Program.Guard (SavesInStep services)) (.initial ⟨{}, proposals, []⟩) labels) :
    EveryState (workspaceCommands services port).next (VersionsEvidenced services)
      (.initial ⟨{}, proposals, []⟩) labels := by
  refine evidence_outline.everyState (fun _ => VersionsEvidenced.of_holds) ?_
    (guard_and hsaves hfree)
  refine Program.holds_initial ⟨fun row hrow => (by cases hrow), fun workspaceId session hget => ?_⟩
  cases hget

/-- A version that is saved after a draft action, and handed off. -/
def savedAfterAction : List (Label WorkspaceCommand WorkspaceDrawn) :=
  Sample.alone 0 0 2 Sample.create ++ Sample.alone 1 2 4 Sample.addTrade ++
    Sample.alone 2 6 2 Sample.save ++ Sample.alone 3 8 3 (Sample.handoff "key-1")

theorem saved_versions_evidenced_afterAction :
    EveryState (workspaceCommands Sample.services Sample.port).next
      (VersionsEvidenced Sample.services) (.initial Sample.store) savedAfterAction :=
  saved_versions_evidenced Sample.services Sample.port .empty savedAfterAction (by decide +kernel)
    (by decide +kernel)

/-- The re-evaluation of a draft action fails, and a version is saved after it. -/
def savedAfterFailure : List (Label WorkspaceCommand WorkspaceDrawn) :=
  Sample.alone 0 0 2 Sample.create ++
    Sample.alone 1 2 2 (Sample.onSession .reevaluateSession) ++
    Sample.alone 2 4 2 Sample.addTrade ++ [.advance 2 (Sample.unavailable 6)] ++
    Sample.alone 3 7 2 Sample.save

theorem saved_versions_evidenced_afterFailure :
    ¬ EveryState (workspaceCommands Sample.services Sample.port).next
      (VersionsEvidenced Sample.services) (.initial Sample.store) savedAfterFailure := by
  intro h
  have hstored : EveryState (workspaceCommands Sample.services Sample.port).next
      (fun pool => ∀ row ∈ pool.store.tables.savedVersions,
        Evidenced Sample.services pool.store.evaluations row.savedVersionJson)
      (.initial Sample.store) savedAfterFailure :=
    ⟨h.1.stored, h.2.mono fun _ _ _ _ hpool => hpool.stored⟩
  revert hstored
  decide +kernel

end LotusAdvise.Workspace

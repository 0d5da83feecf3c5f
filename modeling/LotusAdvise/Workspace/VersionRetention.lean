import LotusAdvise.Workspace.Commands

/-! # Retention of saved versions

A save replaces all of a session by a copy that was read earlier. Versions and the lifecycle
link stay exactly as long as each copy that is saved still had everything that is stored
under it; version numbers are in order in any case.
-/

namespace LotusAdvise.Workspace

open Workers Runs

/-- What of a saved version is to be kept. -/
def WorkspaceSavedVersion.kept (version : WorkspaceSavedVersion) :
    String × ℕ × WorkspaceDraftState :=
  (version.workspaceVersionId, version.versionNumber, version.draftState)

/-- The versions carry the numbers from one on, in order. -/
def NumberedFromOne (versions : List WorkspaceSavedVersion) : Prop :=
  versions.map (·.versionNumber) = List.range' 1 versions.length

/-- The version that a `save_version` has returned is stored, with its draft. -/
def ReturnedVersionStored {P : Type} (store : WorkspaceStore P) : WorkspaceStage → Prop
  | .returned (.savedVersion session version) =>
    ∃ current ∈ (store.tables.get session.workspaceId).toOption,
      version.kept ∈ current.savedVersions.map (·.kept)
  | _ => True

instance {P : Type} (store : WorkspaceStore P) (stage : WorkspaceStage) :
    Decidable (ReturnedVersionStored store stage) := by
  unfold ReturnedVersionStored
  split <;> infer_instance

/-- Every version whose `save_version` has returned is stored, and the numbers of the stored versions
of a session are `1, …, n`. -/
structure VersionsRetained {P : Type} (pool : Pool (WorkspaceStore P) WorkspaceStage) : Prop where
  present : ∀ i stage, pool.worker i = some stage → ReturnedVersionStored pool.store stage
  numbered : ∀ workspaceId session, pool.store.tables.get workspaceId = .ok session →
    NumberedFromOne session.savedVersions

/-- A stored session that has a lifecycle link still has one after the step. -/
def LinkKept {P : Type} (before : Pool (WorkspaceStore P) WorkspaceStage)
    (_ : Label WorkspaceCommand WorkspaceDrawn) (after : Pool (WorkspaceStore P) WorkspaceStage) :
    Prop :=
  ∀ workspaceId session, before.store.tables.get workspaceId = .ok session →
    session.lifecycleLink.isSome = true →
      ∃ current, after.store.tables.get workspaceId = .ok current ∧
        current.lifecycleLink.isSome = true

/-- The versions of the copy that a command read. -/
def versionsRead (read : Option WorkspaceSession) : List WorkspaceSavedVersion :=
  (read.map (·.savedVersions)).getD []

/-- A handoff writes a link of its own. -/
def AfterSave.writesLink : AfterSave → Bool
  | .returns (.handedOff _ _ _) => true
  | _ => false

/-- The copy that was read has every version that is stored now, and a link if there is one now. -/
def CopyHolds (read : Option WorkspaceSession) (after : AfterSave) (current : WorkspaceSession) :
    Prop :=
  (∀ version ∈ current.savedVersions, version.kept ∈ (versionsRead read).map (·.kept)) ∧
    (after.writesLink = false → current.lifecycleLink.isSome = true →
      (read.bind (·.lifecycleLink)).isSome = true)

instance (read : Option WorkspaceSession) (after : AfterSave) (current : WorkspaceSession) :
    Decidable (CopyHolds read after current) :=
  inferInstanceAs (Decidable ((∀ version ∈ _, _) ∧ _))

/-- A session is saved only over one that holds nothing the copy did not have when it was read. -/
def SavesOverItsCopy {P : Type} (store : WorkspaceStore P) :
    WorkspaceStage → WorkspaceDrawn → Prop
  | .saving read session after, _ =>
    ∀ current ∈ (store.tables.get session.workspaceId).toOption, CopyHolds read after current
  | _, _ => True

instance {P : Type} (store : WorkspaceStore P) (stage : WorkspaceStage) (drawn : WorkspaceDrawn) :
    Decidable (SavesOverItsCopy store stage drawn) := by
  unfold SavesOverItsCopy
  split <;> infer_instance

section Versions

variable {versions others : List WorkspaceSavedVersion} {version : WorkspaceSavedVersion}

theorem NumberedFromOne.concat (h : NumberedFromOne versions)
    (hversion : version.versionNumber = versions.length + 1) :
    NumberedFromOne (versions ++ [version]) := by
  unfold NumberedFromOne at h ⊢
  rw [List.map_append, h, List.map_singleton, hversion, List.length_append, List.length_singleton,
    List.range'_concat, Nat.one_mul, Nat.add_comm]

theorem NumberedFromOne.byNumber (h : NumberedFromOne versions) : byNumber versions = versions := by
  refine List.Pairwise.insertionSort_eq ?_
  have hnumbers : (versions.map (·.versionNumber)).Pairwise (· < ·) := by
    rw [h]
    exact List.pairwise_lt_range'
  exact (List.pairwise_map.mp hnumbers).imp le_of_lt

theorem NumberedFromOne.congr (h : NumberedFromOne versions)
    (heq : others.map (·.withoutContinuity) = versions.map (·.withoutContinuity)) :
    NumberedFromOne others := by
  have hnumbers := congrArg (List.map (·.versionNumber)) heq
  have hlength := congrArg List.length heq
  rw [List.map_map, List.map_map] at hnumbers
  rw [List.length_map, List.length_map] at hlength
  unfold NumberedFromOne at h ⊢
  rw [hlength, ← h]
  exact hnumbers

theorem map_kept_congr
    (heq : others.map (·.withoutContinuity) = versions.map (·.withoutContinuity)) :
    others.map (·.kept) = versions.map (·.kept) := by
  have hkept := congrArg (List.map (·.kept)) heq
  rw [List.map_map, List.map_map] at hkept
  exact hkept

end Versions

section Steps

variable {P : Type} {services : WorkspaceServices} {port : WorkspaceProposalLifecyclePort P}
  {store store' : WorkspaceStore P} {stage stage' : WorkspaceStage} {drawn : WorkspaceDrawn}
  {read : Option WorkspaceSession} {session session' : WorkspaceSession} {after : AfterSave}

/-- How the session that a command saves relates to the copy that it read. -/
structure Carries (read : Option WorkspaceSession) (session : WorkspaceSession)
    (after : AfterSave) : Prop where
  numbered : NumberedFromOne session.savedVersions
  versions : ∀ version ∈ versionsRead read, version.kept ∈ session.savedVersions.map (·.kept)
  link : (read.bind (·.lifecycleLink)).isSome = true → session.lifecycleLink.isSome = true
  writesLink : after.writesLink = true → session.lifecycleLink.isSome = true
  returns : ∀ saved version, after = .returns (.savedVersion saved version) →
    saved.workspaceId = session.workspaceId ∧ version.kept ∈ session.savedVersions.map (·.kept)

/-- Every stored session is the one of its identifier, and its versions are numbered. -/
def SessionsNumbered (tables : WorkspaceTables) : Prop :=
  ∀ workspaceId session, tables.get workspaceId = .ok session →
    session.workspaceId = workspaceId ∧ NumberedFromOne session.savedVersions

/-- What holds of a command between its steps. -/
def StageCarries (store : WorkspaceStore P) : WorkspaceStage → Prop
  | .calling read _ prepared => NumberedFromOne read.savedVersions ∧
      ∃ resolvedContext, prepared.session = { read with resolvedContext }
  | .saving read session after => Carries read session after
  | stage => ReturnedVersionStored store stage

theorem StageCarries.returned (h : StageCarries store stage) :
    ReturnedVersionStored store stage := by
  cases stage with
  | calling => trivial
  | saving => trivial
  | _ => exact h

theorem kept_mem {version : WorkspaceSavedVersion} {versions : List WorkspaceSavedVersion}
    (h : version ∈ versions) : version.kept ∈ versions.map (·.kept) :=
  List.mem_map_of_mem h

theorem Carries.of_reworked {workspaceId : String} {evaluation : Option WorkspaceEvaluation}
    (h : Reworked services drawn workspaceId session session' after evaluation)
    (hnumbered : NumberedFromOne session.savedVersions) : Carries (some session) session' after := by
  cases h with
  | versionSaved request =>
    refine ⟨hnumbered.concat rfl, fun version hmem => ?_, fun hlink => hlink, fun hwrites => ?_, ?_⟩
    · exact kept_mem (List.mem_append_left _ hmem)
    · cases hwrites
    · rintro _ _ ⟨⟩
      exact ⟨rfl, kept_mem (List.mem_append_right _ (List.mem_singleton_self _))⟩
  | _ =>
    refine ⟨hnumbered, fun version hmem => kept_mem hmem, fun hlink => hlink, fun h => ?_, ?_⟩
    · cases h
    · rintro _ _ ⟨⟩

theorem Carries.of_created {request : WorkspaceSessionCreateRequest}
    (h : createdSession services drawn request = .ok session) :
    Carries none session (.returns (.session session)) := by
  simp only [createdSession, bind_eq_ok, Prod.exists] at h
  obtain ⟨_, _, _, h⟩ := h
  cases h
  refine ⟨rfl, fun _ hmem => ?_, fun hlink => ?_, fun hlink => ?_, ?_⟩
  · cases hmem
  · cases hlink
  · cases hlink
  · rintro _ _ ⟨⟩

theorem Carries.of_handoff {request : WorkspaceLifecycleHandoffRequest} {prepared : PreparedHandoff}
    {response : Proposals.ProposalCreateResponse}
    (hnumbered : NumberedFromOne session.savedVersions)
    (hprepared : ∃ resolvedContext, prepared.session = { session with resolvedContext }) :
    Carries (some session) (handedOff services drawn request prepared response).1
      (.returns (handedOff services drawn request prepared response).2) := by
  obtain ⟨resolvedContext, hprepared⟩ := hprepared
  have hversions : (handedOff services drawn request prepared response).1.savedVersions.map
      (·.withoutContinuity) = session.savedVersions.map (·.withoutContinuity) := by
    refine handedOff_savedVersions.trans ?_
    rw [hprepared]
  refine ⟨hnumbered.congr hversions, fun version hmem => ?_, fun _ => rfl, fun _ => rfl, ?_⟩
  · rw [map_kept_congr hversions]
    exact kept_mem hmem
  · rintro _ _ ⟨⟩

theorem SessionsNumbered.save {tables tables' : WorkspaceTables} (h : SessionsNumbered tables)
    (hsession : NumberedFromOne session.savedVersions) (hsave : tables.save session = .ok tables') :
    SessionsNumbered tables' := by
  intro workspaceId read hget
  by_cases hid : workspaceId = session.workspaceId
  · subst hid
    obtain rfl := Except.ok.inj (hget.symm.trans (WorkspaceTables.get_save_self hsave))
    refine ⟨rfl, ?_⟩
    show NumberedFromOne (byNumber session.savedVersions)
    rwa [hsession.byNumber]
  · exact h workspaceId read ((WorkspaceTables.get_save_of_ne hsave hid).symm.trans hget)

/-- A save over its copy keeps every version that was stored, and the link. -/
theorem retained_of_save {tables tables' : WorkspaceTables} (h : Carries read session after)
    (hsave : tables.save session = .ok tables')
    (hguard : ∀ current ∈ (tables.get session.workspaceId).toOption, CopyHolds read after current)
    {workspaceId : String} {current : WorkspaceSession} (hget : tables.get workspaceId = .ok current) :
    ∃ current', tables'.get workspaceId = .ok current' ∧
      (∀ version ∈ current.savedVersions.map (·.kept),
        version ∈ current'.savedVersions.map (·.kept)) ∧
      (current.lifecycleLink.isSome = true → current'.lifecycleLink.isSome = true) := by
  by_cases hid : workspaceId = session.workspaceId
  · subst hid
    obtain ⟨hversions, hlink⟩ := hguard current (toOption_eq_some.mpr hget)
    refine ⟨_, WorkspaceTables.get_save_self hsave, fun kept hkept => ?_, fun hcurrent => ?_⟩
    · obtain ⟨version, hmem, rfl⟩ := List.mem_map.mp hkept
      obtain ⟨copy, hcopy, heq⟩ := List.mem_map.mp (hversions version hmem)
      show _ ∈ (byNumber session.savedVersions).map _
      rw [h.numbered.byNumber, ← heq]
      exact h.versions copy hcopy
    · rcases hwrites : after.writesLink
      · exact h.link (hlink hwrites hcurrent)
      · exact h.writesLink hwrites
  · exact ⟨current, (WorkspaceTables.get_save_of_ne hsave hid).trans hget, fun _ h => h, fun h => h⟩

theorem stageCarries_afterSave {tables tables' : WorkspaceTables} (h : Carries read session after)
    (hsave : tables.save session = .ok tables') :
    StageCarries { store with tables := tables' } after.stage := by
  cases after with
  | reevaluates => trivial
  | returns response =>
    cases response with
    | savedVersion saved version =>
      obtain ⟨hid, hmem⟩ := h.returns saved version rfl
      refine ⟨session.stored, toOption_eq_some.mpr ?_, ?_⟩
      · rw [hid]
        exact WorkspaceTables.get_save_self hsave
      · show _ ∈ (byNumber session.savedVersions).map _
        rwa [h.numbered.byNumber]
    | _ => trivial

/-- Each step keeps the numbers of the stored versions, and what is known of the command. -/
theorem carries_of_step (h : StepsTo services port store stage drawn store' stage')
    (hstore : SessionsNumbered store.tables) (hstage : StageCarries store stage) :
    SessionsNumbered store'.tables ∧ StageCarries store' stage' := by
  cases h with
  | fails => exact ⟨hstore, trivial⟩
  | creates request drawn session created => exact ⟨hstore, .of_created created⟩
  | works workspaceId command drawn session session' after evaluation reads work =>
    exact ⟨hstore, .of_reworked (reworked_of_workOn work) (hstore workspaceId session reads).2⟩
  | prepares workspaceId _ _ _ _ session _ reads prepares =>
    exact ⟨hstore, (hstore workspaceId session reads).2, session_of_prepares prepares⟩
  | refused => exact ⟨hstore, trivial⟩
  | answered read request prepared => exact ⟨hstore, .of_handoff hstage.1 hstage.2⟩
  | saves read session after drawn tables saved =>
    exact ⟨hstore.save hstage.numbered saved, stageCarries_afterSave hstage saved⟩
  | saveFails => exact ⟨hstore, trivial⟩

/-- A step leaves what is stored, when it saves over its copy. -/
theorem retained_of_step (h : StepsTo services port store stage drawn store' stage')
    (hstage : StageCarries store stage) (hguard : SavesOverItsCopy store stage drawn)
    {workspaceId : String} {current : WorkspaceSession}
    (hget : store.tables.get workspaceId = .ok current) :
    ∃ current', store'.tables.get workspaceId = .ok current' ∧
      (∀ version ∈ current.savedVersions.map (·.kept),
        version ∈ current'.savedVersions.map (·.kept)) ∧
      (current.lifecycleLink.isSome = true → current'.lifecycleLink.isSome = true) := by
  cases h with
  | saves read session after drawn tables saved => exact retained_of_save hstage saved hguard hget
  | _ => exact ⟨current, hget, fun _ h => h, fun h => h⟩

theorem StageCarries.stable (h : StepsTo services port store stage drawn store' stage')
    (hstage : StageCarries store stage) (hguard : SavesOverItsCopy store stage drawn)
    {other : WorkspaceStage} (hother : StageCarries store other) : StageCarries store' other := by
  cases other with
  | returned response =>
    cases response with
    | savedVersion session version =>
      obtain ⟨current, hget, hmem⟩ := hother
      obtain ⟨current', hget', hversions, -⟩ :=
        retained_of_step h hstage hguard (toOption_eq_some.mp hget)
      exact ⟨current', toOption_eq_some.mpr hget', hversions _ hmem⟩
    | _ => trivial
  | calling => exact hother
  | saving => exact hother
  | _ => trivial

theorem retention_outline : (workspaceCommands services port).Outline
    (fun store => SessionsNumbered store.tables) (fun _ => StageCarries) SavesOverItsCopy where
  start _ _ _ _ := trivial
  step _ _ _ _ _ _ hstore hstage _ hstep := carries_of_step (stepsTo_of_step hstep) hstore hstage
  stable _ _ _ _ _ _ _ _ _ hstage hguard hstep hother :=
    StageCarries.stable (stepsTo_of_step hstep) hstage hguard hother

theorem VersionsRetained.of_holds {pool : Pool (WorkspaceStore P) WorkspaceStage}
    (h : Program.Holds (fun store => SessionsNumbered store.tables) (fun _ => StageCarries) pool) :
    VersionsRetained pool where
  present i stage hworker := (h.worker i stage hworker).returned
  numbered workspaceId session hget := (h.store workspaceId session hget).2

theorem LinkKept.of_next {pool pool' : Pool (WorkspaceStore P) WorkspaceStage}
    {label : Label WorkspaceCommand WorkspaceDrawn}
    (h : Program.Holds (fun store => SessionsNumbered store.tables) (fun _ => StageCarries) pool)
    (hnext : (workspaceCommands services port).next pool label = some pool')
    (hguard : Program.Guard SavesOverItsCopy pool label pool') : LinkKept pool label pool' := by
  intro workspaceId session hget hlink
  cases (workspaceCommands services port).next_iff.mp hnext with
  | start => exact ⟨session, hget, hlink⟩
  | advance i drawn stage store' stage' hworker hstep =>
    obtain ⟨current, hcurrent, -, hkept⟩ := retained_of_step (stepsTo_of_step hstep)
      (h.worker i stage hworker) (hguard stage hworker) hget
    exact ⟨current, hcurrent, hkept hlink⟩

end Steps

/-- The commands may be interleaved in any way, on any number of workspaces, and may stop between two
of their steps. -/
theorem saved_versions_retained {P : Type} (services : WorkspaceServices)
    (port : WorkspaceProposalLifecyclePort P) (proposals : P)
    (labels : List (Label WorkspaceCommand WorkspaceDrawn))
    (hguard : EveryStep (workspaceCommands services port).next (Program.Guard SavesOverItsCopy)
      (.initial ⟨{}, proposals, []⟩) labels) :
    EveryState (workspaceCommands services port).next VersionsRetained
        (.initial ⟨{}, proposals, []⟩) labels ∧
      EveryStep (workspaceCommands services port).next LinkKept
        (.initial ⟨{}, proposals, []⟩) labels := by
  have hinitial : Program.Holds (fun store : WorkspaceStore P => SessionsNumbered store.tables)
      (fun _ => StageCarries) (Pool.initial ⟨{}, proposals, []⟩) :=
    Program.holds_initial fun workspaceId session hget => by cases hget
  refine ⟨retention_outline.everyState (fun _ => VersionsRetained.of_holds) hinitial hguard, ?_⟩
  refine EveryStep.of_invariant ?_ hinitial hguard
  intro pool label pool' hholds hnext hstep
  exact ⟨retention_outline.holds_next hholds hnext hstep, .of_next hholds hnext hstep⟩

/-- A version, a handoff and another version, one after the other. -/
def savedInTurn : List (Label WorkspaceCommand WorkspaceDrawn) :=
  Sample.alone 0 0 2 Sample.create ++ Sample.alone 1 2 2 Sample.save ++
    Sample.alone 2 4 3 (Sample.handoff "key-1") ++ Sample.alone 3 7 2 Sample.save

theorem saved_versions_retained_inTurn :
    EveryState (workspaceCommands Sample.services Sample.port).next VersionsRetained
        (.initial Sample.store) savedInTurn ∧
      EveryStep (workspaceCommands Sample.services Sample.port).next LinkKept
        (.initial Sample.store) savedInTurn :=
  saved_versions_retained Sample.services Sample.port .empty savedInTurn (by decide +kernel)

/-- Two advisors save a version; both read the session before either saves it. -/
def savedTogether : List (Label WorkspaceCommand WorkspaceDrawn) :=
  Sample.alone 0 0 2 Sample.create ++
    [.start 1 Sample.save, .start 2 Sample.save, .advance 1 (Sample.drawn 2),
      .advance 2 (Sample.drawn 3), .advance 1 (Sample.drawn 4), .advance 2 (Sample.drawn 5)]

theorem saved_versions_retained_together :
    ¬ EveryState (workspaceCommands Sample.services Sample.port).next VersionsRetained
      (.initial Sample.store) savedTogether := by
  intro h
  have hfirst : EveryState (workspaceCommands Sample.services Sample.port).next
      (fun pool => ∀ stage ∈ pool.worker 1, ReturnedVersionStored pool.store stage)
      (.initial Sample.store) savedTogether :=
    ⟨h.1.present 1, h.2.mono fun _ _ _ _ hpool => hpool.present 1⟩
  revert hfirst
  decide +kernel

end LotusAdvise.Workspace

import LotusAdvise.Proposals.Postgres

/-! # Failed version creation

A command that creates a version inserts it in one transaction and moves the aggregate in
another. Other commands may commit before either, so the second can be refused when the
first went through; then the version stays behind, in the slot that a later command needs.
-/

namespace LotusAdvise.Proposals

open Interleaving Tables

/-- The arguments of a call that creates a version, with the identifiers it draws. -/
structure VersionAttempt where
  payload : ProposalVersionRequest
  correlationId : Option String := none
  replayLineage : Option JsonObject := none
  contextResolutionOverride : Option JsonObject := none
  generated : Generated

def VersionAttempt.call (attempt : VersionAttempt) (proposalId : String) : Call :=
  ⟨.createVersion proposalId attempt.payload attempt.correlationId attempt.replayLineage
    attempt.contextResolutionOverride, attempt.generated⟩

/-- The store after writes that other commands try to commit. -/
abbrev PostgresStore.commitAll (store : PostgresStore) (writes : List RepositoryWrite) :
    PostgresStore :=
  Interleaving.commitAll PostgresStore.perform store writes

/-- No version and no event is stored under the identifiers drawn. -/
structure PostgresStore.New (store : PostgresStore) (generated : Generated) : Prop where
  version : store.VersionUnused generated.proposalVersionId
  event : store.EventUnused generated.eventId

/-- The rows of a write have other identifiers than those drawn. -/
structure RepositoryWrite.Apart (write : RepositoryWrite) (generated : Generated) : Prop where
  version : ∀ version ∈ write.version?, version.proposalVersionId ≠ generated.proposalVersionId
  event : ∀ event ∈ write.event?, event.eventId ≠ generated.eventId

instance (write : RepositoryWrite) (generated : Generated) : Decidable (write.Apart generated) :=
  decidable_of_iff ((∀ version ∈ write.version?, version.proposalVersionId ≠
      generated.proposalVersionId) ∧ ∀ event ∈ write.event?, event.eventId ≠ generated.eventId)
    ⟨fun h => ⟨h.1, h.2⟩, fun h => ⟨h.version, h.event⟩⟩

/-- A call that creates a version of a proposal, the writes other commands commit before its
insertion, before its transition and after it, and a later call on the proposal. Identifiers are
never drawn twice. -/
structure VersionScenario where
  store : PostgresStore
  proposalId : String
  attempt : VersionAttempt
  later : VersionAttempt
  beforeInsertion : List RepositoryWrite
  beforeTransition : List RepositoryWrite
  afterwards : List RepositoryWrite
  attemptNew : store.New attempt.generated
  laterNew : store.New later.generated
  attemptApart : ∀ write ∈ beforeInsertion ++ beforeTransition ++ afterwards,
    write.Apart attempt.generated
  laterApart : ∀ write ∈ beforeInsertion ++ beforeTransition ++ afterwards,
    write.Apart later.generated

/-- Proposals, versions, events and approvals are the same. -/
def SameRecords (store store' : PostgresStore) : Prop :=
  store.proposals = store'.proposals ∧ store.versions = store'.versions ∧
    store.events = store'.events ∧ store.approvals = store'.approvals

instance (store store' : PostgresStore) : Decidable (SameRecords store store') :=
  inferInstanceAs (Decidable (_ ∧ _))

namespace VersionScenario

variable (config : ServiceConfig) (services : Services) (collation : LinearOrder String)
  (scenario : VersionScenario)

/-- The store and the outcome when the call has ended. -/
def ended : PostgresStore × Except ProposalError ProposalResponse :=
  (postgresLifecycle config services collation).executeAmong scenario.store
    (scenario.attempt.call scenario.proposalId) scenario.beforeInsertion scenario.beforeTransition

/-- The store that the others leave when the call is not made. -/
def without : PostgresStore :=
  ((scenario.store.commitAll scenario.beforeInsertion).commitAll
    scenario.beforeTransition).commitAll scenario.afterwards

/-- The later call passes its checks on the store. -/
def LaterPasses (store : PostgresStore) : Prop :=
  ((postgresLifecycle config services collation).decide store
    (scenario.later.call scenario.proposalId)).isOk

/-- The later call succeeds on the store when no other command interferes. -/
def LaterSucceeds (store : PostgresStore) : Prop :=
  ((postgresLifecycle config services collation).execute store
    (scenario.later.call scenario.proposalId)).2.isOk

/-- A call that raises leaves the records as if it had not been made, and does not get in the way of
a later one. -/
def FailsCleanly : Prop :=
  match scenario.ended config services collation with
  | (_, .ok _) => True
  | (store, .error _) =>
    SameRecords (store.commitAll scenario.afterwards) scenario.without ∧
      (scenario.LaterPasses config services collation (store.commitAll scenario.afterwards) →
        scenario.LaterSucceeds config services collation (store.commitAll scenario.afterwards))

instance : Decidable (scenario.FailsCleanly config services collation) := by
  unfold FailsCleanly LaterPasses LaterSucceeds
  split <;> infer_instance

/-- The version after the current one is not stored yet. -/
def NextSlotFree (store : PostgresStore) (proposalId : String) : Prop :=
  ∀ proposal, store.getProposal proposalId = some proposal →
    store.getVersion proposalId (proposal.currentVersionNo + 1) = none

/-- The aggregate has the state and the version it was read with. -/
def AggregateKept (store : PostgresStore) (read : ProposalRecord) : Prop :=
  TransitionExpected (store.getProposal read.proposalId) (some read.currentState)
    (some read.currentVersionNo)

/-- Either the call does not insert its version, because of its checks or because the slot is taken,
and a later call that passes its checks finds its own slot free; or the aggregate is still the one
that was read when the call moves it. -/
def Undisturbed : Prop :=
  let laterSlotFree := scenario.LaterPasses config services collation scenario.without →
    NextSlotFree scenario.without scenario.proposalId
  let inserting := scenario.store.commitAll scenario.beforeInsertion
  match (postgresLifecycle config services collation).decide scenario.store
      (scenario.attempt.call scenario.proposalId) with
  | .ok (.write (.createVersion version) _ _) =>
    if inserting.getVersion version.proposalId version.versionNo = none then
      ∀ read, scenario.store.getProposal scenario.proposalId = some read →
        AggregateKept (PostgresStore.commitAll
          { inserting with versions := inserting.versions ++ [version] }
          scenario.beforeTransition) read
    else laterSlotFree
  | _ => laterSlotFree

section Writes

variable {config : ServiceConfig} {services : Services} {collation : LinearOrder String}
  {store store' : PostgresStore} {writes : List RepositoryWrite} {write : RepositoryWrite}
  {generated : Generated} {attempt : VersionAttempt} {proposalId : String}
  {proposal next : ProposalRecord} {version : ProposalVersionRecord}
  {event : ProposalWorkflowEventRecord}

/-- A call that passes its checks inserts the version after the one it read. -/
theorem version_of_decide {out : Outcome RepositoryWrite ProposalResponse}
    (h : decideCommand config services (postgresRepository collation) store
      (attempt.call proposalId) = .ok out) :
    ∃ proposal next version event, store.getProposal proposalId = some proposal ∧
      RecordsVersion (attempt.call proposalId) proposal next version event ∧
      out = .write (.createVersion version)
        [.transitionProposal next event none (some proposal.currentState)
          (some proposal.currentVersionNo)] (.create (toCreateResponse next version event)) := by
  obtain ⟨_, _, _, _, _, hout⟩ := createProposalVersion_eq_ok h
  rcases out with r | ⟨w, rest, r⟩
  · cases hout
  · clear hout
    cases planned_of_decide h with
    | create command => cases command
    | version command found records =>
      cases command
      exact ⟨_, _, _, _, found, records, rfl⟩
    | move _ _ records _ => cases records.move

theorem versionUnused_of_commitAll (hnew : store.VersionUnused generated.proposalVersionId)
    (hapart : ∀ write ∈ writes, write.Apart generated) :
    (store.commitAll writes).VersionUnused generated.proposalVersionId := by
  refine commitAll_invariant
    (I := fun s : PostgresStore => s.VersionUnused generated.proposalVersionId) hnew ?_
  intro s write s' hmem hunused hw stored hstored
  rcases (PostgresStore.grows_of_perform hw).versions stored hstored with hold | hwritten
  · exact hunused stored hold
  · exact (hapart write hmem).version stored hwritten

theorem eventUnused_of_commitAll (hnew : store.EventUnused generated.eventId)
    (hapart : ∀ write ∈ writes, write.Apart generated) :
    (store.commitAll writes).EventUnused generated.eventId := by
  refine commitAll_invariant
    (I := fun s : PostgresStore => s.EventUnused generated.eventId) hnew ?_
  intro s write s' hmem hunused hw stored hstored
  rcases (PostgresStore.grows_of_perform hw).events stored hstored with hold | hwritten
  · exact hunused stored hold
  · exact (hapart write hmem).event stored hwritten

theorem versions_of_commitAll : store.versions ⊆ (store.commitAll writes).versions :=
  commitAll_invariant (I := fun s : PostgresStore => store.versions ⊆ s.versions)
    (List.Subset.refl _) fun _ _ _ _ h hw _ hmem =>
      (PostgresStore.grows_of_perform hw).keepsVersions (h hmem)

theorem proposal_of_commitAll (h : store.getProposal proposalId = some proposal) :
    ∃ stored, (store.commitAll writes).getProposal proposalId = some stored := by
  refine commitAll_invariant
    (I := fun s : PostgresStore => ∃ stored, s.getProposal proposalId = some stored) ⟨proposal, h⟩ ?_
  rintro _ _ _ _ ⟨stored, hstored⟩ hw
  exact (PostgresStore.grows_of_perform hw).proposals proposalId stored hstored

/-- The insertion of the next version goes through exactly when its slot is free. -/
theorem perform_createVersion (store' : PostgresStore)
    (hnew : store.VersionUnused attempt.generated.proposalVersionId)
    (records : RecordsVersion (attempt.call proposalId) proposal next version event)
    (hproposal : ∃ stored, store.getProposal proposal.proposalId = some stored) :
    store.perform (.createVersion version) = .ok store' ↔
      store.getVersion version.proposalId version.versionNo = none ∧
        store' = { store with versions := store.versions ++ [version] } := by
  have hunused : store.VersionUnused version.proposalVersionId := by
    rw [records.versionId]
    exact hnew
  have hpositive : 0 < version.versionNo := by
    rw [records.versionNo]
    omega
  rw [← records.versionProposalId] at hproposal
  rw [PostgresStore.perform, PostgresStore.insertVersion_eq_ok hunused]
  constructor
  · rintro ⟨_, hfree, _, heq⟩
    exact ⟨hfree, heq⟩
  · rintro ⟨hfree, heq⟩
    exact ⟨hpositive, hfree, hproposal, heq⟩

/-- Once the version is stored, the move of the aggregate goes through exactly when the aggregate is
still the one that was read. -/
theorem perform_moveToVersion (hnew : store.EventUnused attempt.generated.eventId)
    (records : RecordsVersion (attempt.call proposalId) proposal next version event)
    (hversion : version ∈ store.versions) :
    (∃ store', store.perform (.transitionProposal next event none (some proposal.currentState)
      (some proposal.currentVersionNo)) = .ok store') ↔ AggregateKept store proposal := by
  have hslot : ∃ stored, store.getVersion event.proposalId (proposal.currentVersionNo + 1) =
      some stored := by
    rw [← Option.ne_none_iff_exists', PostgresStore.getVersion, Ne, lookup_eq_none]
    intro hfree
    refine hfree version hversion ?_
    rw [ProposalVersionRecord.slot, records.versionProposalId, records.versionNo,
      records.eventProposalId]
  have hid := records.nextId
  rw [PostgresStore.perform]
  constructor
  · rintro ⟨store', hok⟩
    rw [AggregateKept, ← hid]
    refine (PostgresStore.transitionProposal_eq_ok ?_ hok).1
    rw [records.eventId]
    exact hnew
  · intro hkept
    rw [AggregateKept, ← hid] at hkept
    refine ⟨_, PostgresStore.transitionProposal_of_expected hkept ?_ ?_ ?_ records.relatedVersionNo
      ?_ hslot⟩
    · rw [records.nextVersionNo]
      omega
    · rw [records.eventId]
      exact hnew
    · rw [records.eventProposalId, hid]
    · exact Nat.succ_pos _

/-- A store that keeps the aggregate as it was read, with one version more. -/
theorem aggregateKept_self {read : ProposalRecord}
    (h : store.getProposal read.proposalId = some read) (versions : List ProposalVersionRecord) :
    AggregateKept { store with versions } read :=
  ⟨read, h, rfl, rfl⟩

/-- A call that passes its checks succeeds exactly when the slot of its version is free. -/
theorem execute_isOk_iff (hnew : store.New attempt.generated)
    (hpasses : ((postgresLifecycle config services collation).decide store
      (attempt.call proposalId)).isOk) :
    ((postgresLifecycle config services collation).execute store (attempt.call proposalId)).2.isOk ↔
      NextSlotFree store proposalId := by
  rcases hd : (postgresLifecycle config services collation).decide store
    (attempt.call proposalId) with e | out
  · rw [hd] at hpasses
    cases hpasses
  obtain ⟨proposal, next, version, event, hp, records, rfl⟩ := version_of_decide hd
  obtain rfl : proposal.proposalId = proposalId := (lookup_some hp).2
  have hslot : NextSlotFree store proposal.proposalId ↔
      store.getVersion version.proposalId version.versionNo = none := by
    rw [records.versionProposalId, records.versionNo]
    constructor
    · intro hslot
      exact hslot proposal hp
    · intro hslot other hother
      obtain rfl := Option.some.inj (hp.symm.trans hother)
      exact hslot
  have hinsert := fun store' => perform_createVersion store' hnew.version records ⟨_, hp⟩
  simp only [Protocol.execute, hd, Protocol.performAll, postgresLifecycle_perform]
  rcases hw : store.perform (.createVersion version) with e | inserted
  · have hrefused : ¬ NextSlotFree store proposal.proposalId := by
      intro hfree
      cases hw.symm.trans ((hinsert _).mpr ⟨hslot.mp hfree, rfl⟩)
    exact iff_of_false Bool.false_ne_true hrefused
  · obtain ⟨hfree, rfl⟩ := (hinsert _).mp hw
    obtain ⟨moved, hmoved⟩ : ∃ moved, PostgresStore.perform
        { store with versions := store.versions ++ [version] }
        (.transitionProposal next event none (some proposal.currentState)
          (some proposal.currentVersionNo)) = .ok moved := by
      refine (perform_moveToVersion (by exact hnew.event) records ?_).mpr ?_
      · exact List.mem_append_right _ (List.mem_singleton_self _)
      · exact aggregateKept_self hp _
    refine iff_of_true ?_ (hslot.mpr hfree)
    simp only [hmoved]
    rfl

end Writes

section Outcome

variable {config : ServiceConfig} {services : Services} {collation : LinearOrder String}
  {scenario : VersionScenario} {store : PostgresStore} {error : ProposalError}
  {generated : Generated}

theorem versionUnused_without (hnew : scenario.store.VersionUnused generated.proposalVersionId)
    (hapart : ∀ write ∈ scenario.beforeInsertion ++ scenario.beforeTransition ++
      scenario.afterwards, write.Apart generated) :
    scenario.without.VersionUnused generated.proposalVersionId := by
  simp only [List.mem_append] at hapart
  refine versionUnused_of_commitAll (versionUnused_of_commitAll (versionUnused_of_commitAll hnew
    ?_) ?_) ?_
  · exact fun write hmem => hapart write (.inl (.inl hmem))
  · exact fun write hmem => hapart write (.inl (.inr hmem))
  · exact fun write hmem => hapart write (.inr hmem)

theorem eventUnused_without (hnew : scenario.store.EventUnused generated.eventId)
    (hapart : ∀ write ∈ scenario.beforeInsertion ++ scenario.beforeTransition ++
      scenario.afterwards, write.Apart generated) :
    scenario.without.EventUnused generated.eventId := by
  simp only [List.mem_append] at hapart
  refine eventUnused_of_commitAll (eventUnused_of_commitAll (eventUnused_of_commitAll hnew
    ?_) ?_) ?_
  · exact fun write hmem => hapart write (.inl (.inl hmem))
  · exact fun write hmem => hapart write (.inl (.inr hmem))
  · exact fun write hmem => hapart write (.inr hmem)

theorem laterNew_without : scenario.without.New scenario.later.generated where
  version := versionUnused_without scenario.laterNew.version scenario.laterApart
  event := eventUnused_without scenario.laterNew.event scenario.laterApart

/-- A call that ends without having changed anything leaves it to the later call whether it failed
cleanly. -/
theorem failsCleanly_of_unchanged (hended : scenario.ended config services collation =
    ((scenario.store.commitAll scenario.beforeInsertion).commitAll scenario.beforeTransition,
      .error error)) :
    scenario.FailsCleanly config services collation ↔
      (scenario.LaterPasses config services collation scenario.without →
        NextSlotFree scenario.without scenario.proposalId) := by
  simp only [FailsCleanly, hended]
  constructor
  · rintro ⟨_, hlater⟩ hpasses
    exact (execute_isOk_iff laterNew_without hpasses).mp (hlater hpasses)
  · intro hfree
    refine ⟨⟨rfl, rfl, rfl, rfl⟩, fun hpasses => ?_⟩
    exact (execute_isOk_iff laterNew_without hpasses).mpr (hfree hpasses)

/-- A call whose version was inserted and whose transition was refused leaves its version behind. -/
theorem not_failsCleanly_of_inserted {version : ProposalVersionRecord}
    (hended : scenario.ended config services collation = (store, .error error))
    (hversion : version ∈ store.versions)
    (hid : version.proposalVersionId = scenario.attempt.generated.proposalVersionId) :
    ¬ scenario.FailsCleanly config services collation := by
  simp only [FailsCleanly, hended]
  rintro ⟨⟨_, hversions, _⟩, _⟩
  have hkept : version ∈ (store.commitAll scenario.afterwards).versions :=
    versions_of_commitAll hversion
  rw [hversions] at hkept
  exact versionUnused_without scenario.attemptNew.version scenario.attemptApart version hkept hid

end Outcome

/-- A call that creates a version fails cleanly exactly when it is undisturbed: it is not refused
after its version has been inserted, and the slot that a later call needs is free. -/
theorem fails_cleanly_iff (config : ServiceConfig) (services : Services)
    (collation : LinearOrder String) (scenario : VersionScenario) :
    scenario.FailsCleanly config services collation ↔
      scenario.Undisturbed config services collation := by
  have hapart := scenario.attemptApart
  simp only [List.mem_append] at hapart
  rcases hd : (postgresLifecycle config services collation).decide scenario.store
    (scenario.attempt.call scenario.proposalId) with e | out
  · have hended : scenario.ended config services collation =
        ((scenario.store.commitAll scenario.beforeInsertion).commitAll scenario.beforeTransition,
          .error e) := by
      simp only [ended, Protocol.executeAmong, hd, postgresLifecycle_perform]
    rw [failsCleanly_of_unchanged hended]
    simp only [Undisturbed, hd]
  obtain ⟨proposal, next, version, event, hp, records, rfl⟩ := version_of_decide hd
  have hunused : (scenario.store.commitAll scenario.beforeInsertion).VersionUnused
      scenario.attempt.generated.proposalVersionId :=
    versionUnused_of_commitAll scenario.attemptNew.version
      fun write hmem => hapart write (.inl (.inl hmem))
  have hstored : ∃ stored, (scenario.store.commitAll scenario.beforeInsertion).getProposal
      proposal.proposalId = some stored :=
    proposal_of_commitAll (by rwa [(lookup_some hp).2])
  have hinsert := fun store' => perform_createVersion store' hunused records hstored
  rcases hw : (scenario.store.commitAll scenario.beforeInsertion).perform (.createVersion version)
    with e | inserted
  · -- the slot is taken, and the call ends before it has changed anything
    have hended : scenario.ended config services collation =
        ((scenario.store.commitAll scenario.beforeInsertion).commitAll scenario.beforeTransition,
          .error e) := by
      simp only [ended, Protocol.executeAmong, hd, postgresLifecycle_perform, hw]
    rw [failsCleanly_of_unchanged hended]
    simp only [Undisturbed, hd]
    rw [if_neg]
    intro hfree
    cases hw.symm.trans ((hinsert _).mpr ⟨hfree, rfl⟩)
  obtain ⟨hfree, rfl⟩ := (hinsert _).mp hw
  generalize hinserted : { scenario.store.commitAll scenario.beforeInsertion with
    versions := (scenario.store.commitAll scenario.beforeInsertion).versions ++ [version] } =
      inserted at hw
  have hversion : version ∈ (inserted.commitAll scenario.beforeTransition).versions := by
    refine versions_of_commitAll ?_
    rw [← hinserted]
    exact List.mem_append_right _ (List.mem_singleton_self version)
  have hevent : inserted.EventUnused scenario.attempt.generated.eventId := by
    rw [← hinserted]
    exact eventUnused_of_commitAll scenario.attemptNew.event
      fun write hmem => hapart write (.inl (.inl hmem))
  have hmove := perform_moveToVersion (eventUnused_of_commitAll hevent
    fun write hmem => hapart write (.inl (.inr hmem))) records hversion
  have hundisturbed : scenario.Undisturbed config services collation ↔
      AggregateKept (inserted.commitAll scenario.beforeTransition) proposal := by
    simp only [Undisturbed, hd]
    rw [if_pos hfree, hinserted]
    constructor
    · intro hkept
      exact hkept proposal hp
    · intro hkept read hread
      obtain rfl := Option.some.inj (hp.symm.trans hread)
      exact hkept
  rw [hundisturbed, ← hmove]
  rcases ht : (inserted.commitAll scenario.beforeTransition).perform (.transitionProposal next event
    none (some proposal.currentState) (some proposal.currentVersionNo)) with e | moved
  · have hended : scenario.ended config services collation =
        (inserted.commitAll scenario.beforeTransition, .error e) := by
      simp only [ended, Protocol.executeAmong, hd, postgresLifecycle_perform, hw,
        Protocol.performAll, ht]
    refine iff_of_false (not_failsCleanly_of_inserted hended hversion records.versionId) ?_
    rintro ⟨moved, hmoved⟩
    cases hmoved
  · have hended : scenario.ended config services collation =
        (moved, .ok (.create (toCreateResponse next version event))) := by
      simp only [ended, Protocol.executeAmong, hd, postgresLifecycle_perform, hw,
        Protocol.performAll, ht]
    refine iff_of_true ?_ ⟨moved, rfl⟩
    simp only [FailsCleanly, hended]

end VersionScenario

/-- A proposal that was created in the database. -/
def createdStore : PostgresStore :=
  ((postgresLifecycle Sample.config Sample.services Sample.codePoints).execute .empty
    (Sample.call 0 0 (Sample.create "key-1"))).1

/-- The writes of a command that decides on a store. -/
def writesOf (store : PostgresStore) (call : Call) : List RepositoryWrite :=
  match decideCommand Sample.config Sample.services (postgresRepository Sample.codePoints) store
    call with
  | .ok (.write w rest _) => w :: rest
  | _ => []

def versionAttempt (n : ℕ) (minute : ℕ) : VersionAttempt where
  payload := { createdBy := "advisor_1", dump := [] }
  generated := Sample.drawn n (Sample.clock minute)

/-- The proposal is submitted for review after the version has been inserted. -/
def submittedBetween : VersionScenario where
  store := createdStore
  proposalId := "pp_000"
  attempt := versionAttempt 1 1
  later := versionAttempt 3 3
  beforeInsertion := []
  beforeTransition := writesOf createdStore
    (Sample.call 2 2 (Sample.transition "pp_000" .submittedForRiskReview [] none))
  afterwards := []
  attemptNew := ⟨by decide +kernel, by decide +kernel⟩
  laterNew := ⟨by decide +kernel, by decide +kernel⟩
  attemptApart := by decide +kernel
  laterApart := by decide +kernel

theorem fails_cleanly_submittedBetween :
    ¬ submittedBetween.FailsCleanly Sample.config Sample.services Sample.codePoints := by
  decide +kernel

end LotusAdvise.Proposals

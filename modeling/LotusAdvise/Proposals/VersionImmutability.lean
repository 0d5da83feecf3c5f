import LotusAdvise.Proposals.Aggregate

/-! # Immutable versions

A stored version should never change, and the current one should be the version of a
command that returned. The insertion of a version is not covered by the expectation on
the aggregate, so this holds exactly as long as no insertion finds its slot taken.
-/

namespace LotusAdvise.Proposals

open Interleaving Runs

abbrev InMemoryPool := Pool InMemoryStore Call RepositoryWrite ProposalResponse ProposalError

/-- Every version that is stored stays as it is. -/
def VersionsKept (store store' : InMemoryStore) : Prop :=
  ∀ slot version, store.versions slot = some version → store'.versions slot = some version

/-- The version was built by a command that has returned it. -/
def ReturnedVersion (pool : InMemoryPool) (version : ProposalVersionRecord) : Prop :=
  ∃ thread call response, pool.thread thread = .returned call (.create response) ∧
    version.proposalVersionId = call.generated.proposalVersionId

/-- The current version of every proposal is stored, and the command that built it returned. -/
def CurrentVersionReturned (pool : InMemoryPool) : Prop :=
  ∀ proposalId proposal, pool.store.proposals proposalId = some proposal →
    ∃ version, pool.store.versions (proposalId, proposal.currentVersionNo) = some version ∧
      ReturnedVersion pool version

/-- An inserted version replaces no other one. -/
def InsertsFreely (store : InMemoryStore) (_ : Call) : RepositoryWrite → Prop
  | .createVersion version => ∀ stored,
    store.versions (version.proposalId, version.versionNo) = some stored → stored = version
  | _ => True

/-- The slot of a version still holds it. -/
def Held (store : InMemoryStore) (version : ProposalVersionRecord) : Prop :=
  store.versions (version.proposalId, version.versionNo) = some version

section Steps

variable {config : ServiceConfig} {services : Services}
  {Inserted : InMemoryStore → ProposalVersionRecord → Prop} {store store' : InMemoryStore}
  {started : List Call} {call : Call} {write : RepositoryWrite} {rest : List RepositoryWrite}
  {response : ProposalResponse}

/-- Only an insertion can change a stored version: a creation draws an identifier that no version
is stored under. -/
theorem versionsKept_of_perform (hI : AggregatesConsistent store started)
    (hT : Pending Inserted store (.writing call write rest response))
    (hw : store.perform write = .ok store') (hG : InsertsFreely store call write) :
    VersionsKept store store' := by
  intro slot version hv
  cases hT with
  | creating records unused =>
    cases hw
    rw [InMemoryStore.created_versions, Function.update_of_ne, hv]
    rintro rfl
    rw [records.versionProposalId, (hI.unstored _ unused).2] at hv
    cases hv
  | @versioning _ _ _ inserted _ records stored =>
    cases hw
    rw [InMemoryStore.setVersion_versions, Function.update_apply]
    split
    · next heq =>
      subst heq
      rw [hG version hv]
    · exact hv
  | versioned =>
    obtain ⟨_, rfl⟩ := InMemoryStore.perform_transition_eq_ok.mp hw
    rwa [InMemoryStore.transitioned_versions]
  | moving =>
    obtain ⟨_, rfl⟩ := InMemoryStore.perform_transition_eq_ok.mp hw
    rwa [InMemoryStore.transitioned_versions]

theorem held_insertion : Insertion Held InsertsFreely where
  inserted store version := by rw [Held, InMemoryStore.setVersion_versions, Function.update_self]
  filled store version h := by rw [h]; rfl
  stable _ _ _ _ _ _ _ version hI hT hG hw h := versionsKept_of_perform hI hT hw hG _ version h

/-- The invariant of the pools in which no insertion replaced a version. -/
structure VersionsOwned (config : ServiceConfig) (services : Services) (pool : InMemoryPool) :
    Prop where
  holds : (inMemoryLifecycle config services).Holds AggregatesConsistent (Pending Held) pool
  returned : CurrentVersionReturned pool

variable {pool after : InMemoryPool} {label : Label Call}

theorem ReturnedVersion.step {version : ProposalVersionRecord} (h : ReturnedVersion pool version)
    (hstep : (inMemoryLifecycle config services).step pool label = some after) :
    ReturnedVersion after version := by
  obtain ⟨thread, call, response, hthread, hid⟩ := h
  exact ⟨thread, call, response, Protocol.returned_of_step _ hstep hthread, hid⟩

/-- The version an aggregate moves to is returned by the thread that moves it; the others still
hold the version they held. -/
theorem CurrentVersionReturned.moved (h : CurrentVersionReturned pool)
    (hstep : (inMemoryLifecycle config services).step pool label = some after)
    (hkept : VersionsKept pool.store after.store) {next : ProposalRecord}
    (hproposals : after.store.proposals =
      Function.update pool.store.proposals next.proposalId (some next))
    (hnext : ∃ version, after.store.versions (next.proposalId, next.currentVersionNo) =
      some version ∧ ReturnedVersion after version) : CurrentVersionReturned after := by
  intro proposalId proposal hp
  rw [hproposals, Function.update_apply] at hp
  split at hp
  · next heq =>
    obtain rfl : next = proposal := Option.some.inj hp
    rw [heq]
    exact hnext
  · obtain ⟨version, hv, hreturned⟩ := h proposalId proposal hp
    exact ⟨version, hkept _ version hv, hreturned.step hstep⟩

theorem CurrentVersionReturned.same (h : CurrentVersionReturned pool)
    (hstep : (inMemoryLifecycle config services).step pool label = some after)
    (hkept : VersionsKept pool.store after.store)
    (hproposals : after.store.proposals = pool.store.proposals) :
    CurrentVersionReturned after := by
  intro proposalId proposal hp
  rw [hproposals] at hp
  obtain ⟨version, hv, hreturned⟩ := h proposalId proposal hp
  exact ⟨version, hkept _ version hv, hreturned.step hstep⟩

/-- A step whose insertion, if it is one, replaces nothing keeps all versions. -/
theorem VersionsOwned.kept (h : VersionsOwned config services pool)
    (hstep : (inMemoryLifecycle config services).step pool label = some after)
    (hg : Protocol.Guard (fun _ => True) InsertsFreely pool label after) :
    VersionsKept pool.store after.store := by
  cases Protocol.steps_of_step _ hstep with
  | start | read | fail => exact fun _ _ hv => hv
  | write i call w rest response store' thread done =>
    have hT := h.holds.threads i
    rw [thread] at hT
    simp only [Protocol.Guard, thread] at hg
    exact versionsKept_of_perform h.holds.store hT done hg

theorem VersionsOwned.step (h : VersionsOwned config services pool)
    (hstep : (inMemoryLifecycle config services).step pool label = some after)
    (hg : Protocol.Guard (fun _ => True) InsertsFreely pool label after) :
    VersionsOwned config services after := by
  refine ⟨held_insertion.outline.holds_step h.holds hstep hg, ?_⟩
  have hkept := h.kept hstep hg
  cases Protocol.steps_of_step _ hstep with
  | start | read | fail => exact h.returned.same hstep hkept rfl
  | write i call w rest response store' thread done =>
    have hT := h.holds.threads i
    rw [thread] at hT
    cases hT with
    | @creating _ proposal version event idempotency records unused =>
      cases done
      refine h.returned.moved hstep hkept InMemoryStore.created_proposals ⟨version, ?_, i, call, _,
        Pool.set_thread_self .., records.versionId⟩
      rw [records.proposalId, records.currentVersionNo, InMemoryStore.created_versions,
        records.versionProposalId, records.versionNo, Function.update_self]
    | versioning => cases done; exact h.returned.same hstep hkept rfl
    | @versioned _ proposal next version event records inserted =>
      obtain ⟨_, rfl⟩ := InMemoryStore.perform_transition_eq_ok.mp done
      refine h.returned.moved hstep hkept InMemoryStore.transitioned_proposals ⟨version, ?_, i,
        call, _, Pool.set_thread_self .., records.versionId⟩
      rw [InMemoryStore.transitioned_versions, records.nextId, records.nextVersionNo,
        ← records.versionProposalId, ← records.versionNo]
      exact inserted
    | @moving _ proposal next event approval _ records =>
      obtain ⟨⟨current, hcurrent, _, hver⟩, rfl⟩ :=
        InMemoryStore.perform_transition_eq_ok.mp done
      obtain ⟨version, hv, hreturned⟩ := h.returned _ current hcurrent
      refine h.returned.moved hstep hkept InMemoryStore.transitioned_proposals
        ⟨version, ?_, hreturned.step hstep⟩
      rw [InMemoryStore.transitioned_versions, records.nextVersionNo, ← hver]
      exact hv

/-- A step that keeps all versions inserts none in the place of another. -/
theorem insertsFreely_of_kept
    (hstep : (inMemoryLifecycle config services).step pool label = some after)
    (hkept : VersionsKept pool.store after.store) :
    Protocol.Guard (fun _ => True) InsertsFreely pool label after := by
  cases Protocol.steps_of_step _ hstep with
  | start => trivial
  | read i call thread => simp only [Protocol.Guard, thread]
  | fail i call w rest response error thread refused =>
    simp only [Protocol.Guard, thread]
    cases w with
    | createVersion => cases refused
    | _ => trivial
  | write i call w rest response store' thread done =>
    simp only [Protocol.Guard, thread]
    cases w with
    | createVersion version =>
      cases done
      intro stored hstored
      have := hkept _ stored hstored
      simpa using this.symm
    | _ => trivial

end Steps

/-- In an interleaved run no stored version changes and every current version is one that was
returned, exactly when each version is inserted into a slot that holds no other. -/
theorem versions_immutable_iff (config : ServiceConfig) (services : Services)
    (labels : List (Label Call)) :
    (EveryStep (inMemoryLifecycle config services).step
        (fun pool _ after => VersionsKept pool.store after.store) (.initial .empty) labels ∧
      EveryState (inMemoryLifecycle config services).step CurrentVersionReturned
        (.initial .empty) labels) ↔
    EveryStep (inMemoryLifecycle config services).step
      (Protocol.Guard (fun _ => True) InsertsFreely) (.initial .empty) labels := by
  have hempty : VersionsOwned config services (.initial .empty) :=
    ⟨held_insertion.outline.holds_initial .empty, fun _ _ h => (by cases h)⟩
  rw [EveryState, and_iff_right hempty.returned, ← everyStep_and]
  refine everyStep_iff_of_invariant (fun _ _ _ hs hstep hq => hs.step hstep hq)
    (fun _ _ _ hs hstep => ?_) hempty
  exact ⟨fun h => insertsFreely_of_kept hstep h.1,
    fun hq => ⟨hs.kept hstep hq, (hs.step hstep hq).returned⟩⟩

/-- Two commands build the second version of a proposal: both insert it, and the aggregate moves to
it on behalf of the first, whose record is no longer there. -/
def overwritingLabels : List (Label Call) :=
  [.start 0 (Sample.call 0 0 (Sample.create "key-1")), .advance 0, .advance 0,
    .start 1 (Sample.call 1 1 (Sample.newVersion "pp_000")),
    .start 2 (Sample.call 2 2 (Sample.newVersion "pp_000")), .advance 1, .advance 2, .advance 1,
    .advance 2, .advance 1, .advance 2]

theorem versions_immutable_overwriting :
    ¬ EveryStep (inMemoryLifecycle Sample.config Sample.services).step
      (fun pool _ after => VersionsKept pool.store after.store) (.initial .empty)
      overwritingLabels := by
  intro h
  have hpre : ((run (inMemoryLifecycle Sample.config Sample.services).step (.initial .empty)
      (overwritingLabels.take 8)).bind fun pool =>
        ((inMemoryLifecycle Sample.config Sample.services).step pool (.advance 2)).map fun after =>
          ((pool.store.versions ("pp_000", 2)).map (·.proposalVersionId),
            (after.store.versions ("pp_000", 2)).map (·.proposalVersionId))) =
      some (some "ppv_001", some "ppv_002") := by decide +kernel
  obtain ⟨pool, hrun, hview⟩ := Option.bind_eq_some_iff.mp hpre
  obtain ⟨after, hstep, hview⟩ := Option.map_eq_some_iff.mp hview
  obtain ⟨hbefore, hafter⟩ := Prod.mk.inj hview
  obtain ⟨version, hv, hid⟩ := Option.map_eq_some_iff.mp hbefore
  have hkept := everyStep_iff_prefixes.mp h _ _ ⟨overwritingLabels.drop 9, rfl⟩ _ _ hrun hstep _
    version hv
  rw [hkept, Option.map_some, hid] at hafter
  exact absurd (Option.some.inj hafter) (by decide)

end LotusAdvise.Proposals

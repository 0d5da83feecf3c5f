import LotusAdvise.Foundations.EventSourcing
import LotusAdvise.Proposals.InMemory
import LotusAdvise.Proposals.Writes

/-! # The event-sourced aggregate

A proposal is an event-sourced aggregate: its log determines its workflow state and its
current version number. The in-memory repository keeps this under any interleaving of
commands, because every transition expects the state and version its event was built on.
-/

namespace LotusAdvise.Proposals

open Interleaving Runs

/-- A workflow state and a current version number. -/
abbrev AggregateState := ProposalWorkflowState × ℕ

/-- What the log of a proposal says about the proposal. -/
def aggregate : EventSourced ProposalWorkflowEventRecord AggregateState where
  start event state := event.eventType = .created ∧ event.fromState = none ∧
    event.toState = .draft ∧ state = (.draft, 1)
  next state event after := event.fromState = some state.1 ∧ event.toState = after.1 ∧
    after.2 = state.2 + if event.eventType = .newVersionCreated then 1 else 0

def ProposalRecord.aggregateState (proposal : ProposalRecord) : AggregateState :=
  (proposal.currentState, proposal.currentVersionNo)

section Moves

variable {call : Call} {proposal next : ProposalRecord} {version : ProposalVersionRecord}
  {event : ProposalWorkflowEventRecord} {approval : Option ProposalApprovalRecordData}
  {idempotency : ProposalIdempotencyRecord}

theorem RecordsMove.next_state (h : RecordsMove call proposal next event approval) :
    aggregate.next proposal.aggregateState event next.aggregateState := by
  refine ⟨h.fromState, h.nextState.symm, ?_⟩
  rw [if_neg h.move.eventType_ne.2]
  exact h.nextVersionNo

theorem RecordsVersion.next_state (h : RecordsVersion call proposal next version event) :
    aggregate.next proposal.aggregateState event next.aggregateState := by
  refine ⟨h.fromState, h.toState.trans h.nextState.symm, ?_⟩
  rw [if_pos h.eventType]
  exact h.nextVersionNo

theorem RecordsCreation.start_state
    (h : RecordsCreation call proposal version event idempotency) :
    aggregate.start event proposal.aggregateState :=
  ⟨h.eventType, h.fromState, h.toState, Prod.ext h.currentState h.currentVersionNo⟩

end Moves

/-- A stored proposal is the one its log leads to, and has all its versions. -/
structure StoredAggregate (store : InMemoryStore) (proposalId : String)
    (proposal : ProposalRecord) : Prop where
  ident : proposal.proposalId = proposalId
  replays : aggregate.Replays (store.events proposalId) proposal.aggregateState
  versions : ∀ versionNo, 1 ≤ versionNo → versionNo ≤ proposal.currentVersionNo →
    (store.versions (proposalId, versionNo)).isSome

/-- The invariant of the store: all stored proposals agree with their logs, versions and events are
those of stored proposals, and every identifier in use was drawn by a command that was started. -/
structure AggregatesConsistent (store : InMemoryStore) (started : List Call) : Prop where
  stored : ∀ proposalId proposal, store.proposals proposalId = some proposal →
    StoredAggregate store proposalId proposal
  unstored : ∀ proposalId, store.proposals proposalId = none →
    store.events proposalId = [] ∧ ∀ versionNo, store.versions (proposalId, versionNo) = none
  drawn : ∀ proposalId proposal, store.proposals proposalId = some proposal →
    ∃ call ∈ started, call.generated.proposalId = proposalId

namespace AggregatesConsistent

variable {store : InMemoryStore} {started : List Call}

theorem idsMatch (h : AggregatesConsistent store started) : IdsMatch store :=
  fun proposalId proposal hp => (h.stored proposalId proposal hp).ident

theorem empty : AggregatesConsistent .empty [] where
  stored _ _ h := by cases h
  unstored _ _ := ⟨rfl, fun _ => rfl⟩
  drawn _ _ h := by cases h

theorem setVersion (h : AggregatesConsistent store started) {version : ProposalVersionRecord}
    (hstored : (store.proposals version.proposalId).isSome) :
    AggregatesConsistent (store.setVersion version) started where
  stored proposalId proposal hp := by
    obtain ⟨hid, hlog, hver⟩ := h.stored proposalId proposal hp
    refine ⟨hid, hlog, fun n h1 hn => ?_⟩
    simp only [InMemoryStore.setVersion_versions, Function.update_apply]
    split
    · rfl
    · exact hver n h1 hn
  unstored proposalId hp := by
    refine ⟨(h.unstored proposalId hp).1, fun n => ?_⟩
    rw [InMemoryStore.setVersion_versions, Function.update_of_ne, (h.unstored proposalId hp).2 n]
    rintro ⟨⟩
    rw [InMemoryStore.setVersion_proposals] at hp
    simp [hp] at hstored
  drawn := h.drawn

/-- A transition along an event that continues the log of the aggregate it finds. -/
theorem transitioned (h : AggregatesConsistent store started) {current next : ProposalRecord}
    {event : ProposalWorkflowEventRecord} (approval : Option ProposalApprovalRecordData)
    (hcurrent : store.proposals next.proposalId = some current)
    (hevent : event.proposalId = next.proposalId)
    (hnext : aggregate.next current.aggregateState event next.aggregateState)
    (hversions : ∀ versionNo, 1 ≤ versionNo → versionNo ≤ next.currentVersionNo →
      (store.versions (next.proposalId, versionNo)).isSome) :
    AggregatesConsistent (store.transitioned next event approval) started where
  stored proposalId proposal hp := by
    rw [InMemoryStore.transitioned_proposals, Function.update_apply] at hp
    split at hp
    · next heq =>
      obtain rfl : next = proposal := Option.some.inj hp
      subst heq
      refine ⟨rfl, ?_, fun n h1 hn => ?_⟩
      · rw [InMemoryStore.transitioned_events, hevent, Function.update_self]
        exact .next (h.stored _ _ hcurrent).replays hnext
      · rw [InMemoryStore.transitioned_versions]
        exact hversions n h1 hn
    · next hne =>
      obtain ⟨hid, hlog, hver⟩ := h.stored proposalId proposal hp
      refine ⟨hid, ?_, fun n h1 hn => ?_⟩
      · rwa [InMemoryStore.transitioned_events, hevent, Function.update_apply, if_neg hne]
      · rw [InMemoryStore.transitioned_versions]
        exact hver n h1 hn
  unstored proposalId hp := by
    rw [InMemoryStore.transitioned_proposals, Function.update_apply] at hp
    split at hp
    · cases hp
    · next hne =>
      rw [InMemoryStore.transitioned_events, InMemoryStore.transitioned_versions, hevent,
        Function.update_apply, if_neg hne]
      exact h.unstored proposalId hp
  drawn proposalId proposal hp := by
    rw [InMemoryStore.transitioned_proposals, Function.update_apply] at hp
    split at hp
    · next heq => exact heq ▸ h.drawn _ _ hcurrent
    · exact h.drawn proposalId proposal hp

/-- A creation under an identifier that is not in use. -/
theorem created (h : AggregatesConsistent store started) {call : Call} {proposal : ProposalRecord}
    {version : ProposalVersionRecord} {event : ProposalWorkflowEventRecord}
    {idempotency : ProposalIdempotencyRecord}
    (records : RecordsCreation call proposal version event idempotency)
    (hcall : call ∈ started) (hunused : store.proposals call.generated.proposalId = none) :
    AggregatesConsistent (store.created proposal version event idempotency) started where
  stored proposalId p hp := by
    rw [InMemoryStore.created_proposals, records.proposalId, Function.update_apply] at hp
    split at hp
    · next heq =>
      obtain rfl : proposal = p := Option.some.inj hp
      subst heq
      refine ⟨records.proposalId, ?_, fun n h1 hn => ?_⟩
      · rw [InMemoryStore.created_events, records.eventProposalId, Function.update_self,
          (h.unstored _ hunused).1]
        exact .start records.start_state
      · obtain rfl : n = 1 := by
          rw [records.currentVersionNo] at hn
          omega
        rw [InMemoryStore.created_versions, records.versionProposalId, records.versionNo,
          Function.update_self]
        rfl
    · next hne =>
      obtain ⟨hid, hlog, hver⟩ := h.stored proposalId p hp
      refine ⟨hid, ?_, fun n h1 hn => ?_⟩
      · rwa [InMemoryStore.created_events, records.eventProposalId, Function.update_apply, if_neg hne]
      · rw [InMemoryStore.created_versions, Function.update_apply]
        split
        · rfl
        · exact hver n h1 hn
  unstored proposalId hp := by
    rw [InMemoryStore.created_proposals, records.proposalId, Function.update_apply] at hp
    split at hp
    · cases hp
    · next hne =>
      obtain ⟨hevents, hversions⟩ := h.unstored proposalId hp
      refine ⟨?_, fun n => ?_⟩
      · rwa [InMemoryStore.created_events, records.eventProposalId, Function.update_apply,
          if_neg hne]
      · rw [InMemoryStore.created_versions, Function.update_of_ne, hversions n]
        rintro ⟨⟩
        exact hne records.versionProposalId
  drawn proposalId p hp := by
    rw [InMemoryStore.created_proposals, records.proposalId, Function.update_apply] at hp
    split at hp
    · next heq => exact ⟨call, hcall, heq.symm⟩
    · exact h.drawn proposalId p hp

end AggregatesConsistent

section Interleavings

variable {config : ServiceConfig} {services : Services} {store store' : InMemoryStore}

/-- What a thread relies on in the store: a drawn identifier that is still unused, and a version
that was `Inserted` before the aggregate is moved to it. -/
inductive Pending (Inserted : InMemoryStore → ProposalVersionRecord → Prop)
    (store : InMemoryStore) : Thread Call RepositoryWrite ProposalResponse ProposalError → Prop where
  | idle : Pending Inserted store .idle
  | reading {call : Call} (unused : store.proposals call.generated.proposalId = none) :
    Pending Inserted store (.reading call)
  | creating {call : Call} {proposal : ProposalRecord} {version : ProposalVersionRecord}
    {event : ProposalWorkflowEventRecord} {idempotency : ProposalIdempotencyRecord}
    (records : RecordsCreation call proposal version event idempotency)
    (unused : store.proposals call.generated.proposalId = none) :
    Pending Inserted store (.writing call (.createProposal proposal version event idempotency) []
      (.create (toCreateResponse proposal version event)))
  | versioning {call : Call} {proposal next : ProposalRecord} {version : ProposalVersionRecord}
    {event : ProposalWorkflowEventRecord}
    (records : RecordsVersion call proposal next version event)
    (stored : (store.proposals version.proposalId).isSome) :
    Pending Inserted store (.writing call (.createVersion version)
      [.transitionProposal next event none (some proposal.currentState)
        (some proposal.currentVersionNo)] (.create (toCreateResponse next version event)))
  | versioned {call : Call} {proposal next : ProposalRecord} {version : ProposalVersionRecord}
    {event : ProposalWorkflowEventRecord}
    (records : RecordsVersion call proposal next version event)
    (inserted : Inserted store version) :
    Pending Inserted store (.writing call
      (.transitionProposal next event none (some proposal.currentState)
        (some proposal.currentVersionNo)) [] (.create (toCreateResponse next version event)))
  | moving {call : Call} {proposal next : ProposalRecord} {event : ProposalWorkflowEventRecord}
    {approval : Option ProposalApprovalRecordData} {response : ProposalResponse}
    (records : RecordsMove call proposal next event approval) :
    Pending Inserted store (.writing call
      (.transitionProposal next event approval (some proposal.currentState)
        (some proposal.currentVersionNo)) [] response)
  | returned {call : Call} {response : ProposalResponse} :
    Pending Inserted store (.returned call response)
  | raised {call : Call} {error : ProposalError} : Pending Inserted store (.raised call error)

variable {Inserted : InMemoryStore → ProposalVersionRecord → Prop}
  {G : InMemoryStore → Call → RepositoryWrite → Prop}

theorem pending_afterRead {call : Call} (hids : IdsMatch store)
    (unused : store.proposals call.generated.proposalId = none) :
    Pending Inserted store
      (.afterRead call ((inMemoryLifecycle config services).decide store call)) := by
  rcases hd : (inMemoryLifecycle config services).decide store call with e | r | ⟨w, rest, r⟩
  · exact .raised
  · exact .returned
  · cases planned_of_decide hd with
    | create _ _ _ _ records => exact .creating records unused
    | version _ found records =>
      refine .versioning records ?_
      rw [records.versionProposalId, hids _ _ found]
      exact Option.isSome_iff_exists.mpr ⟨_, found⟩
    | move _ _ records _ => exact .moving records

/-- A write of one thread removes no proposal, and uses no identifier that another command drew. -/
theorem Pending.proposals_step {call : Call} {write : RepositoryWrite}
    {rest : List RepositoryWrite} {response : ProposalResponse} {proposalId : String}
    (h : Pending Inserted store (.writing call write rest response))
    (hw : store.perform write = .ok store') :
    ((store.proposals proposalId).isSome → (store'.proposals proposalId).isSome) ∧
      (call.generated.proposalId ≠ proposalId → store.proposals proposalId = none →
        store'.proposals proposalId = none) := by
  have moved : ∀ {proposal next : ProposalRecord} {event : ProposalWorkflowEventRecord}
      {approval : Option ProposalApprovalRecordData},
      store.perform (.transitionProposal next event approval (some proposal.currentState)
        (some proposal.currentVersionNo)) = .ok store' →
      (store'.proposals proposalId).isSome = (store.proposals proposalId).isSome := by
    intro proposal next event approval hw
    obtain ⟨⟨current, hcurrent, _⟩, rfl⟩ := InMemoryStore.perform_transition_eq_ok.mp hw
    rw [InMemoryStore.transitioned_proposals, Function.update_apply]
    split
    · next heq => rw [heq, hcurrent]; rfl
    · rfl
  have same : (store'.proposals proposalId).isSome = (store.proposals proposalId).isSome →
      ((store.proposals proposalId).isSome → (store'.proposals proposalId).isSome) ∧
        (call.generated.proposalId ≠ proposalId → store.proposals proposalId = none →
          store'.proposals proposalId = none) := by
    intro heq
    refine ⟨fun hs => heq.trans hs, fun _ hnone => ?_⟩
    rw [← Option.not_isSome_iff_eq_none, heq, hnone]
    exact Bool.false_ne_true
  cases h with
  | creating records unused =>
    cases hw
    rw [InMemoryStore.created_proposals, records.proposalId, Function.update_apply]
    constructor
    · intro hs
      split
      · rfl
      · exact hs
    · intro hne hnone
      rwa [if_neg (Ne.symm hne)]
  | versioning => cases hw; exact same rfl
  | versioned => exact same (moved hw)
  | moving => exact same (moved hw)

/-- What a thread may rely on about the version it has inserted: it holds after the insertion, it
keeps the slot filled, and it survives the writes of the others. -/
structure Insertion (Inserted : InMemoryStore → ProposalVersionRecord → Prop)
    (G : InMemoryStore → Call → RepositoryWrite → Prop) : Prop where
  inserted : ∀ (store : InMemoryStore) version, Inserted (store.setVersion version) version
  filled : ∀ (store : InMemoryStore) version, Inserted store version →
    (store.versions (version.proposalId, version.versionNo)).isSome
  stable : ∀ store started call write rest response store' version,
    AggregatesConsistent store started →
    Pending Inserted store (.writing call write rest response) → G store call write →
    store.perform write = .ok store' → Inserted store version → Inserted store' version

/-- The aggregate invariant and the pending assertions form a proof outline of the commands. -/
theorem Insertion.outline (insertion : Insertion Inserted G) :
    (inMemoryLifecycle config services).Outline AggregatesConsistent (Pending Inserted)
      (fun _ => True) G where
  idle _ := .idle
  start store started call hI _ hapart := by
    refine ⟨⟨hI.stored, hI.unstored, fun proposalId proposal hp => ?_⟩, .reading ?_⟩
    · obtain ⟨d, hd, hid⟩ := hI.drawn proposalId proposal hp
      exact ⟨d, List.mem_cons_of_mem _ hd, hid⟩
    · by_contra hused
      obtain ⟨proposal, hp⟩ := Option.ne_none_iff_exists'.mp hused
      obtain ⟨d, hd, hid⟩ := hI.drawn _ proposal hp
      have := hapart d hd
      simp [lifecycle, Generated.apart, hid] at this
  read store started call hI _ hT := by
    cases hT with
    | reading unused => exact pending_afterRead hI.idsMatch unused
  write store started call write rest response store' hI hcall hT _ hw := by
    cases hT with
    | creating records unused => cases hw; exact ⟨hI.created records hcall unused, .returned⟩
    | versioning records stored =>
      cases hw
      exact ⟨hI.setVersion stored, .versioned records (insertion.inserted _ _)⟩
    | @versioned _ proposal next version event records inserted =>
      obtain ⟨⟨current, hcurrent, hstate, hver⟩, rfl⟩ :=
        InMemoryStore.perform_transition_eq_ok.mp hw
      refine ⟨hI.transitioned none hcurrent (records.eventProposalId.trans records.nextId.symm) ?_
        fun n h1 hn => ?_, .returned⟩
      · have hsame : current.aggregateState = proposal.aggregateState := Prod.ext hstate hver
        rw [hsame]
        exact records.next_state
      · rcases Nat.lt_or_eq_of_le hn with hlt | rfl
        · refine (hI.stored _ current hcurrent).versions n h1 ?_
          rw [hver]
          have := records.nextVersionNo
          omega
        · have := insertion.filled _ _ inserted
          rwa [records.versionProposalId, records.versionNo, ← records.nextId,
            ← records.nextVersionNo] at this
    | @moving _ proposal next event approval _ records =>
      obtain ⟨⟨current, hcurrent, hstate, hver⟩, rfl⟩ :=
        InMemoryStore.perform_transition_eq_ok.mp hw
      refine ⟨hI.transitioned approval hcurrent
        (records.eventProposalId.trans records.nextId.symm) ?_ fun n h1 hn => ?_, .returned⟩
      · have hsame : current.aggregateState = proposal.aggregateState := Prod.ext hstate hver
        rw [hsame]
        exact records.next_state
      · refine (hI.stored _ current hcurrent).versions n h1 ?_
        rwa [hver, ← records.nextVersionNo]
  fail _ _ _ _ _ _ _ _ _ _ := .raised
  stable store started call write rest response store' t hI hT hG hw ht hapart := by
    have hne : ∀ d : Call, t.command? = some d →
        call.generated.proposalId ≠ d.generated.proposalId := fun d hd => by
      have := hapart d hd
      simp only [lifecycle, Generated.apart, Bool.and_eq_true, decide_eq_true_eq] at this
      exact this.1.2
    cases ht with
    | idle => exact .idle
    | reading unused => exact .reading ((hT.proposals_step hw).2 (hne _ rfl) unused)
    | creating records unused =>
      exact .creating records ((hT.proposals_step hw).2 (hne _ rfl) unused)
    | versioning records stored => exact .versioning records ((hT.proposals_step hw).1 stored)
    | versioned records inserted =>
      exact .versioned records
        (insertion.stable store started call write rest response store' _ hI hT hG hw inserted)
    | moving records => exact .moving records
    | returned => exact .returned
    | raised => exact .raised

theorem perform_keeps_versions {write : RepositoryWrite} {slot : String × ℕ}
    (h : store.perform write = .ok store') (hslot : (store.versions slot).isSome) :
    (store'.versions slot).isSome := by
  have set : ∀ version : ProposalVersionRecord, (Function.update store.versions
      (version.proposalId, version.versionNo) (some version) slot).isSome := fun version => by
    rw [Function.update_apply]
    split
    · rfl
    · exact hslot
  cases write with
  | createProposal proposal version event idempotency => cases h; exact set version
  | createVersion version => cases h; exact set version
  | transitionProposal proposal event approval =>
    simp only [InMemoryStore.perform] at h
    split at h <;> cases h
    rwa [InMemoryStore.transitioned_versions]

/-- Without any condition on the writes, an inserted version still leaves its slot filled. -/
theorem filled_insertion : Insertion
    (fun store version => (store.versions (version.proposalId, version.versionNo)).isSome)
    (fun _ _ _ => True) where
  inserted store version := by
    rw [InMemoryStore.setVersion_versions, Function.update_self]
    rfl
  filled _ _ h := h
  stable _ _ _ _ _ _ _ _ _ _ _ hw h := perform_keeps_versions hw h

/-- What the log and the versions of a stored proposal say about it. -/
structure LogExplains (store : InMemoryStore) (proposalId : String) (proposal : ProposalRecord) :
    Prop where
  created : ∃ event later, store.events proposalId = event :: later ∧
    event.eventType = .created ∧ event.fromState = none ∧ event.toState = .draft
  chained : (store.events proposalId).IsChain fun event later =>
    later.fromState = some event.toState
  current : ∀ event ∈ (store.events proposalId).getLast?, event.toState = proposal.currentState
  versionNo : proposal.currentVersionNo =
    1 + (store.events proposalId).countP fun event => event.eventType = .newVersionCreated
  versions : ∀ versionNo, 1 ≤ versionNo → versionNo ≤ proposal.currentVersionNo →
    (store.versions (proposalId, versionNo)).isSome

theorem StoredAggregate.logExplains {proposalId : String} {proposal : ProposalRecord}
    (h : StoredAggregate store proposalId proposal) : LogExplains store proposalId proposal := by
  obtain ⟨hchain, hlast⟩ := h.replays.isChain
    (R := fun event later => later.fromState = some event.toState)
    (p := fun event state => event.toState = state.1)
    (fun _ _ h => by rw [h.2.2.1, h.2.2.2]) (fun _ _ _ h => h.2.1)
    (fun _ _ _ _ hpost h => by rw [h.1, hpost])
  refine ⟨?_, hchain, hlast, ?_, h.versions⟩
  · obtain ⟨event, later, _, hlog, htype, hfrom, hto, _⟩ := h.replays.exists_start
    exact ⟨event, later, hlog, htype, hfrom, hto⟩
  · refine h.replays.measure_eq (f := Prod.snd) (fun e s hs => ?_) fun s e t hn => ?_
    · obtain ⟨htype, _, _, rfl⟩ := hs
      exact ⟨by simp [htype], rfl⟩
    · simpa using hn.2.2

/-- Every stored proposal agrees with its log after any interleaving of commands, from the empty
repository on. -/
theorem log_explains_proposal (config : ServiceConfig) (services : Services)
    (labels : List (Label Call)) (pool : Pool _ _ _ _ _)
    (hrun : run (inMemoryLifecycle config services).step (.initial .empty) labels = some pool)
    (proposalId : String) (proposal : ProposalRecord)
    (hstored : pool.store.proposals proposalId = some proposal) :
    LogExplains pool.store proposalId proposal := by
  have hpool := filled_insertion.outline.holds_run AggregatesConsistent.empty
    Protocol.everyStep_guard_true hrun
  exact (hpool.store.stored proposalId proposal hstored).logExplains

/-- A new version is inserted while a transition of the same proposal is under way; the transition
commits first, and the new version's own transition is refused. -/
def interleavedLabels : List (Label Call) :=
  [.start 0 (Sample.call 0 0 (Sample.create "key-1")), .advance 0, .advance 0,
    .start 1 (Sample.call 1 1 (Sample.transition "pp_000" .submittedForRiskReview [] none)),
    .start 2 (Sample.call 2 2 (Sample.newVersion "pp_000")), .advance 1, .advance 2, .advance 2,
    .advance 1, .advance 2]

theorem log_explains_proposal_interleaved : ∃ pool proposal,
    run (inMemoryLifecycle Sample.config Sample.services).step (.initial .empty)
      interleavedLabels = some pool ∧
    pool.store.proposals "pp_000" = some proposal ∧
    LogExplains pool.store "pp_000" proposal := by
  obtain ⟨proposal, h⟩ := Option.isSome_iff_exists.mp (show ((run (inMemoryLifecycle Sample.config
    Sample.services).step (.initial .empty) interleavedLabels).bind
    fun pool => pool.store.proposals "pp_000").isSome by decide +kernel)
  obtain ⟨pool, hrun, hstored⟩ := Option.bind_eq_some_iff.mp h
  exact ⟨pool, proposal, hrun, hstored,
    log_explains_proposal _ _ _ pool hrun "pp_000" proposal hstored⟩

end Interleavings

end LotusAdvise.Proposals

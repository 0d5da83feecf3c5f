import LotusAdvise.Proposals.Aggregate

/-! # Terminal states

A proposal that was executed, rejected, cancelled or has expired keeps its state and its
version. No command leaves a terminal state it has read, and the compare-and-set refuses
the commands that read the proposal before it became terminal.
-/

namespace LotusAdvise.Proposals

open Interleaving Runs

/-- What a command records about a terminal proposal leaves its state as it is. -/
theorem Move.eq_of_terminal {command : ProposalCommand} {state next : ProposalWorkflowState}
    {eventType : ProposalWorkflowEventType} (h : Move command state eventType next)
    (hterminal : state ∈ terminalStates) : next = state := by
  cases h with
  | transition allowed => exact absurd hterminal allowed.active
  | approval allowed changed => exact absurd hterminal allowed.active
  | executionHandoff => rfl
  | executionUpdate active => exact absurd hterminal active
  | narrativeReview => rfl
  | reportRequest => rfl

/-- A stored proposal whose state and current version number are the given ones. -/
def StoredAs (store : InMemoryStore) (proposalId : String) (state : AggregateState) : Prop :=
  ∃ proposal, store.proposals proposalId = some proposal ∧ proposal.aggregateState = state

section Steps

variable {config : ServiceConfig} {services : Services} {store store' : InMemoryStore}
  {proposalId : String} {state : AggregateState}
  {Inserted : InMemoryStore → ProposalVersionRecord → Prop}
  {G : InMemoryStore → Call → RepositoryWrite → Prop}

theorem StoredAs.of_proposals (h : StoredAs store proposalId state)
    (hproposals : store'.proposals = store.proposals) : StoredAs store' proposalId state := by
  unfold StoredAs
  rwa [hproposals]

/-- A write that replaces the proposal only by one with the same state and version. -/
theorem StoredAs.update (h : StoredAs store proposalId state) {next : ProposalRecord}
    (hproposals : store'.proposals =
      Function.update store.proposals next.proposalId (some next))
    (hnext : ∀ proposal, store.proposals next.proposalId = some proposal →
      proposal.aggregateState = state → next.proposalId = proposalId →
      next.aggregateState = state) : StoredAs store' proposalId state := by
  obtain ⟨proposal, hp, hstate⟩ := h
  unfold StoredAs
  rw [hproposals, Function.update_apply]
  split
  · next heq => exact ⟨next, rfl, hnext proposal (heq ▸ hp) hstate heq.symm⟩
  · exact ⟨proposal, hp, hstate⟩

/-- No write of a thread changes the state or the version of a terminal proposal, whatever the
thread had read. -/
theorem Pending.keeps_terminal {call : Call} {write : RepositoryWrite}
    {rest : List RepositoryWrite} {response : ProposalResponse}
    (h : Pending Inserted store (.writing call write rest response))
    (hw : store.perform write = .ok store') (hstored : StoredAs store proposalId state)
    (hterminal : state.1 ∈ terminalStates) : StoredAs store' proposalId state := by
  cases h with
  | creating records unused =>
    cases hw
    refine hstored.update InMemoryStore.created_proposals fun proposal hp _ _ => ?_
    rw [records.proposalId, unused] at hp
    cases hp
  | versioning =>
    cases hw
    exact hstored.of_proposals InMemoryStore.setVersion_proposals
  | @versioned _ proposal next version event records inserted =>
    obtain ⟨⟨current, hcurrent, hstate, _⟩, rfl⟩ := InMemoryStore.perform_transition_eq_ok.mp hw
    refine hstored.update InMemoryStore.transitioned_proposals fun stored hp hsame _ => ?_
    -- a new version is planned for an active proposal only
    obtain rfl : current = stored := Option.some.inj (hcurrent.symm.trans hp)
    subst hsame
    exact absurd (hstate ▸ hterminal) records.active
  | @moving _ proposal next event approval _ records =>
    obtain ⟨⟨current, hcurrent, hstate, hver⟩, rfl⟩ :=
      InMemoryStore.perform_transition_eq_ok.mp hw
    refine hstored.update InMemoryStore.transitioned_proposals fun stored hp hsame _ => ?_
    obtain rfl : current = stored := Option.some.inj (hcurrent.symm.trans hp)
    subst hsame
    have hread : proposal.currentState ∈ terminalStates := hstate ▸ hterminal
    have hkeep : next.currentState = current.currentState := by
      rw [records.nextState, records.move.eq_of_terminal hread, hstate]
    exact Prod.ext hkeep (records.nextVersionNo.trans hver.symm)

theorem storedAs_of_step {pool after : Pool InMemoryStore Call RepositoryWrite ProposalResponse
      ProposalError} {label : Label Call}
    (hpool : (inMemoryLifecycle config services).Holds AggregatesConsistent (Pending Inserted) pool)
    (hstep : (inMemoryLifecycle config services).step pool label = some after)
    (hstored : StoredAs pool.store proposalId state) (hterminal : state.1 ∈ terminalStates) :
    StoredAs after.store proposalId state := by
  cases Protocol.steps_of_step _ hstep with
  | start | read | fail => exact hstored
  | write i call w rest response store' thread done =>
    have hT := hpool.threads i
    rw [thread] at hT
    exact hT.keeps_terminal done hstored hterminal

end Steps

/-- Once a stored proposal is terminal, its state and its current version number are the same
after every later step of every command, those that read it earlier included. -/
theorem terminal_states_absorbing (config : ServiceConfig) (services : Services)
    (labels later : List (Label Call)) (pool after : Pool _ _ _ _ _)
    (hrun : run (inMemoryLifecycle config services).step (.initial .empty) labels = some pool)
    (hlater : run (inMemoryLifecycle config services).step pool later = some after)
    (proposalId : String) (proposal : ProposalRecord)
    (hstored : pool.store.proposals proposalId = some proposal)
    (hterminal : proposal.currentState ∈ terminalStates) :
    ∃ final, after.store.proposals proposalId = some final ∧
      final.currentState = proposal.currentState ∧
      final.currentVersionNo = proposal.currentVersionNo := by
  have outline : (inMemoryLifecycle config services).Outline _ _ _ _ := filled_insertion.outline
  have hpool := outline.holds_run AggregatesConsistent.empty Protocol.everyStep_guard_true hrun
  have hkept := invariant_of_step
    (I := fun p => (inMemoryLifecycle config services).Holds AggregatesConsistent (Pending _) p ∧
      StoredAs p.store proposalId proposal.aggregateState)
    (fun p label q hp hstep => ⟨outline.holds_step hp.1 hstep Protocol.guard_true,
      storedAs_of_step hp.1 hstep hp.2 hterminal⟩)
    ⟨hpool, proposal, hstored, rfl⟩ hlater
  obtain ⟨final, hfinal, hsame⟩ := hkept.2
  exact ⟨final, hfinal, congrArg Prod.fst hsame, congrArg Prod.snd hsame⟩

/-- A submission and a new version are under way when the proposal is cancelled. -/
def cancelledLabels : List (Label Call) :=
  [.start 0 (Sample.call 0 0 (Sample.create "key-1")), .advance 0, .advance 0,
    .start 1 (Sample.call 1 1 (Sample.transition "pp_000" .submittedForRiskReview [] none)),
    .advance 1, .start 2 (Sample.call 2 2 (Sample.newVersion "pp_000")), .advance 2,
    .start 3 (Sample.call 3 3 (Sample.transition "pp_000" .cancelled [] none)), .advance 3,
    .advance 3]

/-- They go on afterwards, and so does a command that reads the cancelled proposal. -/
def afterCancellation : List (Label Call) :=
  [.advance 1, .advance 2, .advance 2,
    .start 4 (Sample.call 4 4 (Sample.newVersion "pp_000")), .advance 4]

theorem terminal_states_absorbing_cancelled : ∃ pool after proposal final,
    run (inMemoryLifecycle Sample.config Sample.services).step (.initial .empty) cancelledLabels =
      some pool ∧
    run (inMemoryLifecycle Sample.config Sample.services).step pool afterCancellation =
      some after ∧
    pool.store.proposals "pp_000" = some proposal ∧ proposal.currentState = .cancelled ∧
    after.store.proposals "pp_000" = some final ∧ final.currentState = .cancelled := by
  have hview : ((run (inMemoryLifecycle Sample.config Sample.services).step (.initial .empty)
      cancelledLabels).bind fun pool =>
        (run (inMemoryLifecycle Sample.config Sample.services).step pool afterCancellation).bind
          fun _ => (pool.store.proposals "pp_000").map (·.currentState)) = some .cancelled := by
    decide +kernel
  obtain ⟨pool, hrun, hview⟩ := Option.bind_eq_some_iff.mp hview
  obtain ⟨after, hlater, hview⟩ := Option.bind_eq_some_iff.mp hview
  obtain ⟨proposal, hp, hstate⟩ := Option.map_eq_some_iff.mp hview
  obtain ⟨final, hfinal, hkept, _⟩ := terminal_states_absorbing _ _ _ _ pool after hrun hlater
    "pp_000" proposal hp (by rw [hstate]; decide)
  exact ⟨pool, after, proposal, final, hrun, hlater, hp, hstate, hfinal, hkept.trans hstate⟩

end LotusAdvise.Proposals

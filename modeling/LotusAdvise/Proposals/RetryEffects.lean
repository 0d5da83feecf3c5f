import LotusAdvise.Proposals.InMemory

/-! # Retries of a command

A command that is retried under its idempotency key should be recorded once. The search
for the key and the write are separate steps; the expectation on the aggregate tells the
retries apart when the command changes the state, and cannot when it leaves it as it is.
-/

namespace LotusAdvise.Proposals

open Interleaving Runs

/-- A command on a proposal that looks for its idempotency key. -/
structure KeyedCommand where
  command : ProposalCommand
  proposalId : String
  key : String
  about : command.proposalId? = some proposalId
  keyed : command.searchKey? = some key

/-- The events of a proposal that carry a key. -/
def eventsUnder (store : InMemoryStore) (proposalId key : String) : ℕ :=
  (store.events proposalId).countP fun event => Carries event.reasonJson key

/-- The approvals of a proposal that carry a key. -/
def approvalsUnder (store : InMemoryStore) (proposalId key : String) : ℕ :=
  (store.approvals proposalId).countP fun approval => Carries approval.detailsJson key

namespace KeyedCommand

variable (retry : KeyedCommand)

/-- Any number of threads that run one command, each with its own draws. -/
def retries (config : ServiceConfig) (services : Services) :
    Protocol InMemoryStore Generated RepositoryWrite ProposalResponse ProposalError :=
  (inMemoryLifecycle config services).comap fun generated => ⟨retry.command, generated⟩

/-- At most one event and at most one approval were appended under the key. -/
def RecordedOnce (store store' : InMemoryStore) : Prop :=
  eventsUnder store' retry.proposalId retry.key ≤ eventsUnder store retry.proposalId retry.key + 1 ∧
    approvalsUnder store' retry.proposalId retry.key ≤
      approvalsUnder store retry.proposalId retry.key + 1

instance (store store' : InMemoryStore) : Decidable (retry.RecordedOnce store store') :=
  inferInstanceAs (Decidable (_ ∧ _))

/-- A retry that leaves the state as it is, and whose expectation is met, would still find nothing
under its key. -/
def SelfLoopUnseen (store : InMemoryStore) (_ : Generated) : RepositoryWrite → Prop
  | .transitionProposal proposal event _ expectedCurrentState expectedCurrentVersionNo =>
    TransitionExpected (store.proposals proposal.proposalId) expectedCurrentState
        expectedCurrentVersionNo →
      event.fromState = some event.toState →
      newestSearched inMemoryRepository store retry.command retry.key = none
  | _ => True

/-- What a retry records when it finds the store as it is. -/
structure Records (services : Services) (store : InMemoryStore) (generated : Generated)
    (proposal next : ProposalRecord) (event : ProposalWorkflowEventRecord)
    (approval : Option ProposalApprovalRecordData) : Prop where
  found : store.proposals retry.proposalId = some proposal
  ident : proposal.proposalId = retry.proposalId
  move : RecordsMove ⟨retry.command, generated⟩ proposal next event approval
  keyed : RecordsKeyed services inMemoryRepository store retry.command event approval retry.key

section Store

variable {retry} {config : ServiceConfig} {services : Services} {store : InMemoryStore}
  {generated : Generated} {proposal next : ProposalRecord} {event : ProposalWorkflowEventRecord}
  {approval : Option ProposalApprovalRecordData}

/-- A retry that writes has found no record of its key, and moves the proposal. -/
theorem records_of_decide (hids : IdsMatch store) {w : RepositoryWrite}
    {rest : List RepositoryWrite} {r : ProposalResponse}
    (h : (retry.retries config services).decide store generated = .ok (.write w rest r)) :
    ∃ proposal next event approval, w = .transitionProposal next event approval
        (some proposal.currentState) (some proposal.currentVersionNo) ∧ rest = [] ∧
      retry.Records services store generated proposal next event approval := by
  have hkeyed := retry.keyed
  cases planned_of_decide h with
  | create command =>
    simp only at command
    rw [command] at hkeyed
    cases hkeyed
  | version command =>
    simp only at command
    rw [command] at hkeyed
    cases hkeyed
  | @move proposalId proposal next event approval _ command found records keyed =>
    obtain rfl : proposalId = retry.proposalId := Option.some.inj (command.symm.trans retry.about)
    exact ⟨proposal, next, event, approval, rfl, rfl, found, hids _ _ found, records,
      keyed _ hkeyed⟩

namespace Records

theorem eventsUnder_transitioned
    (h : retry.Records services store generated proposal next event approval)
    (store' : InMemoryStore) :
    eventsUnder (store'.transitioned next event approval) retry.proposalId retry.key =
      eventsUnder store' retry.proposalId retry.key + 1 := by
  obtain ⟨_, _, hwritten, _⟩ := h.keyed.written
  have hid : event.proposalId = retry.proposalId := h.move.eventProposalId.trans h.ident
  simp [eventsUnder, hid, hwritten.carries]

theorem approvalsUnder_transitioned (store' : InMemoryStore) :
    approvalsUnder (store'.transitioned next event approval) retry.proposalId retry.key ≤
      approvalsUnder store' retry.proposalId retry.key + 1 := by
  rw [approvalsUnder, approvalsUnder, InMemoryStore.transitioned_approvals, List.countP_append]
  have hone : (approval.toList.filter fun a => a.proposalId = retry.proposalId).length ≤ 1 := by
    refine (List.length_filter_le _ _).trans ?_
    cases approval <;> simp
  have hcount := List.countP_le_length (l := approval.toList.filter fun a =>
    a.proposalId = retry.proposalId) (p := fun a => decide (Carries a.detailsJson retry.key))
  omega

/-- What a retry has recorded, every later retry finds. -/
theorem seen (h : retry.Records services store generated proposal next event approval) :
    newestSearched inMemoryRepository (store.transitioned next event approval) retry.command
      retry.key ≠ none := by
  obtain ⟨_, _, hevent, happroval⟩ := h.keyed.written
  have hid : event.proposalId = retry.proposalId := h.move.eventProposalId.trans h.ident
  suffices hseen : ∃ metadata ∈ searchedMetadata inMemoryRepository
      (store.transitioned next event approval) retry.command, Carries metadata retry.key by
    obtain ⟨metadata, hmem, hcarries⟩ := hseen
    intro hnone
    exact (newestCarrying_eq_none _ _).mp hnone metadata hmem hcarries
  have habout := retry.about
  have hkeyed := retry.keyed
  have hmove := h.move.move
  have happroved := h.keyed.approved
  have hlog : event ∈ (store.transitioned next event approval).events retry.proposalId := by
    simp [hid]
  simp only at hmove
  generalize retry.command = command at habout hkeyed hmove happroved
  cases command with
  | create | createVersion | reportRequest => cases hkeyed
  | transition proposalId =>
    obtain rfl := Option.some.inj habout
    exact ⟨_, List.mem_map_of_mem hlog, hevent.carries⟩
  | executionHandoff proposalId =>
    obtain rfl := Option.some.inj habout
    exact ⟨_, List.mem_map_of_mem hlog, hevent.carries⟩
  | executionUpdate proposalId =>
    obtain rfl := Option.some.inj habout
    exact ⟨_, List.mem_map_of_mem hlog, hevent.carries⟩
  | approval proposalId =>
    obtain rfl := Option.some.inj habout
    obtain ⟨a, rfl⟩ := Option.isSome_iff_exists.mp happroved
    refine ⟨a.detailsJson, List.mem_map_of_mem ?_, (happroval a rfl).carries⟩
    have hown := (h.move.approvalId a rfl).trans h.ident
    simp [inMemoryRepository, InMemoryStore.transitioned_approvals, hown]
  | narrativeReview proposalId =>
    obtain rfl := Option.some.inj habout
    have htype := hmove.narrativeReviewed
    have hnext : next.proposalId = retry.proposalId := h.move.nextId.trans h.ident
    refine ⟨event.reasonJson, ?_, hevent.carries⟩
    simp [searchedMetadata, inMemoryRepository, hnext, hid, htype]

end Records

/-- The store before the first retry was recorded, or after it. -/
def Progress (services : Services) (first store : InMemoryStore) : Prop :=
  store = first ∨ ∃ generated proposal next event approval,
    retry.Records services first generated proposal next event approval ∧
    store = first.transitioned next event approval

/-- A retry that is about to write has decided so on the first store. -/
def DecidedAtFirst (services : Services) (first : InMemoryStore) :
    Thread Generated RepositoryWrite ProposalResponse ProposalError → Prop
  | .writing generated write rest _ => rest = [] ∧ ∃ proposal next event approval,
    write = .transitionProposal next event approval (some proposal.currentState)
      (some proposal.currentVersionNo) ∧
    retry.Records services first generated proposal next event approval
  | _ => True

variable {first store' : InMemoryStore}

/-- The expectation of a retry is met by the aggregate that another retry has moved only when both
leave the state as it is. -/
theorem Records.selfLoop {generated' : Generated} {proposal' next' : ProposalRecord}
    {event' : ProposalWorkflowEventRecord} {approval' : Option ProposalApprovalRecordData}
    (h : retry.Records services first generated proposal next event approval)
    (h' : retry.Records services first generated' proposal' next' event' approval')
    (hexpected : ∃ current, (first.transitioned next event approval).proposals next'.proposalId =
      some current ∧ current.currentState = proposal'.currentState ∧
      current.currentVersionNo = proposal'.currentVersionNo) :
    event'.fromState = some event'.toState := by
  obtain rfl : proposal' = proposal := Option.some.inj (h'.found.symm.trans h.found)
  obtain ⟨current, hcurrent, hstate, _⟩ := hexpected
  have hnext : next'.proposalId = next.proposalId := h'.move.nextId.trans h.move.nextId.symm
  rw [InMemoryStore.transitioned_proposals, hnext, Function.update_self] at hcurrent
  obtain rfl := Option.some.inj hcurrent
  have hloop := h.move.move
  rw [← h.move.nextState, hstate] at hloop
  rw [h'.move.fromState, hloop.eq_of_self h'.move.move]

theorem outline (hids : IdsMatch first) : (retry.retries config services).Outline
    (fun store _ => retry.Progress services first store)
    (fun _ => retry.DecidedAtFirst services first) (fun _ => True) retry.SelfLoopUnseen where
  idle _ := trivial
  start _ _ _ hI _ _ := ⟨hI, trivial⟩
  read store _ generated hI _ _ := by
    rcases hd : (retry.retries config services).decide store generated with e | r | ⟨w, rest, r⟩
    · trivial
    · trivial
    · rcases hI with rfl | ⟨_, proposal, next, event, approval, hrecords, rfl⟩
      · obtain ⟨proposal, next, event, approval, hw, hrest, hrecords⟩ := records_of_decide hids hd
        exact ⟨hrest, proposal, next, event, approval, hw, hrecords⟩
      · have hids' : IdsMatch (first.transitioned next event approval) :=
          hids.update InMemoryStore.transitioned_proposals
        obtain ⟨_, _, _, _, _, _, hlater⟩ := records_of_decide hids' hd
        exact absurd hlater.keyed.unseen hrecords.seen
  write store _ generated w rest r store' hI _ hT hG hw := by
    obtain ⟨rfl, proposal, next, event, approval, rfl, hrecords⟩ := hT
    refine ⟨?_, trivial⟩
    obtain ⟨hexpected, rfl⟩ := InMemoryStore.perform_transition_eq_ok.mp hw
    rcases hI with rfl | ⟨_, _, _, _, _, hearlier, rfl⟩
    · exact .inr ⟨generated, proposal, next, event, approval, hrecords, rfl⟩
    · exact absurd (hG hexpected (hearlier.selfLoop hrecords hexpected)) hearlier.seen
  fail _ _ _ _ _ _ _ _ _ _ := trivial
  stable _ _ _ _ _ _ _ _ _ _ _ _ ht _ := ht

theorem Progress.recordedOnce (h : retry.Progress services first store) :
    retry.RecordedOnce first store := by
  rcases h with rfl | ⟨_, _, _, _, _, hrecords, rfl⟩
  · exact ⟨Nat.le_succ _, Nat.le_succ _⟩
  · exact ⟨(hrecords.eventsUnder_transitioned first).le,
      Records.approvalsUnder_transitioned first⟩

end Store

end KeyedCommand

/-- However the retries of a command interleave, they are recorded once exactly when no retry that
leaves the state as it is writes after its search has become outdated. -/
theorem retries_once_iff (config : ServiceConfig) (services : Services) (retry : KeyedCommand)
    (store : InMemoryStore) (hids : IdsMatch store) (labels : List (Label Generated)) :
    EveryState (retry.retries config services).step
        (fun pool => retry.RecordedOnce store pool.store) (.initial store) labels ↔
      EveryStep (retry.retries config services).step
        (Protocol.Guard (fun _ => True) retry.SelfLoopUnseen) (.initial store) labels := by
  have outline : (retry.retries config services).Outline
      (fun store' _ => retry.Progress services store store')
      (fun _ => retry.DecidedAtFirst services store) (fun _ => True) retry.SelfLoopUnseen :=
    KeyedCommand.outline hids
  refine everyState_iff_of_invariant (fun _ _ _ hs hstep hq => outline.holds_step hs hstep hq)
    (fun pool label after hs hstep => ⟨fun honce => ?_, fun hq => ?_⟩)
    (outline.holds_initial (.inl rfl)) ⟨Nat.le_succ _, Nat.le_succ _⟩
  · cases Protocol.steps_of_step _ hstep with
    | start => trivial
    | read i generated thread => simp only [Protocol.Guard, thread]
    | fail i generated w rest r e thread refused =>
      have hT := hs.threads i
      rw [thread] at hT
      obtain ⟨_, proposal, next, event, approval, rfl, _⟩ := hT
      simp only [Protocol.Guard, thread]
      intro hexpected
      have hok : pool.store.perform (.transitionProposal next event approval _ _) = .ok _ :=
        InMemoryStore.perform_transition_eq_ok.mpr ⟨hexpected, rfl⟩
      cases refused.symm.trans hok
    | write i generated w rest r store' thread done =>
      have hT := hs.threads i
      rw [thread] at hT
      obtain ⟨_, proposal, next, event, approval, rfl, hrecords⟩ := hT
      simp only [Protocol.Guard, thread]
      intro hexpected hself
      obtain ⟨_, rfl⟩ := InMemoryStore.perform_transition_eq_ok.mp done
      rcases hs.store with hfirst | ⟨_, _, _, _, _, hearlier, hrecorded⟩
      · rw [hfirst]
        exact hrecords.keyed.unseen
      · -- the second record under the key
        have htwo := hrecords.eventsUnder_transitioned pool.store
        have hone := hearlier.eventsUnder_transitioned store
        rw [← hrecorded] at hone
        have := honce.1
        simp only at this
        omega
  · exact (outline.holds_step hs hstep hq).store.recordedOnce

/-- A proposal that is brought to the point of its handoff. -/
def readyCalls : List Call :=
  [Sample.call 0 0 (Sample.create "key-1"),
    Sample.call 1 1 (Sample.transition "pp_000" .submittedForRiskReview [] none),
    Sample.call 2 2 (Sample.approve "pp_000" .risk none),
    Sample.call 3 3 (Sample.approve "pp_000" .clientConsent none)]

def handoffRetry : KeyedCommand where
  command := Sample.handOff "pp_000" "oms_req_1" (some "key-2")
  proposalId := "pp_000"
  key := "key-2"
  about := rfl
  keyed := by decide +kernel

/-- Two retries of a handoff, one after the other. -/
def orderlyRetries : List (Label Generated) :=
  [.start 0 (Sample.drawn 4 (Sample.clock 4)), .advance 0, .advance 0,
    .start 1 (Sample.drawn 5 (Sample.clock 5)), .advance 1]

/-- Two retries of a handoff that both search before either records. -/
def overlappingRetries : List (Label Generated) :=
  [.start 0 (Sample.drawn 4 (Sample.clock 4)), .start 1 (Sample.drawn 5 (Sample.clock 5)),
    .advance 0, .advance 1, .advance 0, .advance 1]

theorem retries_once_orderly : ∃ store,
    run (inMemoryLifecycle Sample.config Sample.services).accept .empty readyCalls = some store ∧
    (EveryState (handoffRetry.retries Sample.config Sample.services).step
        (fun pool => handoffRetry.RecordedOnce store pool.store) (.initial store) orderlyRetries ↔
      EveryStep (handoffRetry.retries Sample.config Sample.services).step
        (Protocol.Guard (fun _ => True) handoffRetry.SelfLoopUnseen) (.initial store)
        orderlyRetries) := by
  obtain ⟨store, hrun⟩ := Option.isSome_iff_exists.mp (show (run (inMemoryLifecycle Sample.config
    Sample.services).accept .empty readyCalls).isSome by decide +kernel)
  exact ⟨store, hrun, retries_once_iff _ _ handoffRetry store (idsMatch_of_run hrun) _⟩

theorem retries_once_overlapping : ∃ store pool,
    run (inMemoryLifecycle Sample.config Sample.services).accept .empty readyCalls = some store ∧
    run (handoffRetry.retries Sample.config Sample.services).step (.initial store)
      overlappingRetries = some pool ∧
    ¬ handoffRetry.RecordedOnce store pool.store := by
  have hview : ((run (inMemoryLifecycle Sample.config Sample.services).accept .empty
      readyCalls).bind fun store => (run (handoffRetry.retries Sample.config Sample.services).step
        (.initial store) overlappingRetries).map fun pool =>
          decide (handoffRetry.RecordedOnce store pool.store)) = some false := by decide +kernel
  obtain ⟨store, hrun, hview⟩ := Option.bind_eq_some_iff.mp hview
  obtain ⟨pool, hpool, hview⟩ := Option.map_eq_some_iff.mp hview
  exact ⟨store, pool, hrun, hpool, of_decide_eq_false hview⟩

end LotusAdvise.Proposals

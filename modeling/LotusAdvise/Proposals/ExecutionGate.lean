import LotusAdvise.Foundations.EventSourcing
import LotusAdvise.Proposals.InMemory

/-! # The execution gate

A proposal should be ready for execution only when its current version was approved and
consented to. The transition table and the approvals keep this; an execution update does
so exactly when it finds the proposal ready, since it looks at no state but the terminal
ones.
-/

namespace LotusAdvise.Proposals

open Interleaving Runs

/-- An event that opens a version of the proposal. -/
def opensVersion (event : ProposalWorkflowEventRecord) : Bool :=
  event.eventType = .created ∨ event.eventType = .newVersionCreated

def IsApproval (event : ProposalWorkflowEventRecord) : Prop :=
  event.eventType = .riskApproved ∨ event.eventType = .complianceApproved

def IsConsent (event : ProposalWorkflowEventRecord) : Prop :=
  event.eventType = .clientConsentRecorded

/-- An approval, and a client consent after it. -/
def ApprovedAndConsented (log : List ProposalWorkflowEventRecord) : Prop :=
  ∃ approval consent, IsApproval approval ∧ IsConsent consent ∧ [approval, consent].Sublist log

/-- The events recorded for the current version. -/
def currentVersionEvents (log : List ProposalWorkflowEventRecord) :
    List ProposalWorkflowEventRecord :=
  sinceLast opensVersion log

/-- Every proposal that is ready or executed has its current version approved and consented to. -/
def ExecutionGate (store : InMemoryStore) : Prop :=
  ∀ proposalId proposal, store.proposals proposalId = some proposal →
    proposal.currentState = .executionReady ∨ proposal.currentState = .executed →
    ApprovedAndConsented (currentVersionEvents (store.events proposalId))

/-- The updates that lead to a ready or an executed proposal. -/
def leadsToExecution (updateStatus : ProposalExecutionUpdateStatus) : Prop :=
  updateStatus = .accepted ∨ updateStatus = .partiallyExecuted ∨ updateStatus = .executed

/-- An execution update of these kinds that no stored event already answers finds the proposal
ready for execution. -/
def UpdatesFindReady (store : InMemoryStore) (call : Call) (_ : InMemoryStore) : Prop :=
  ∀ proposalId payload proposal, call.command = .executionUpdate proposalId payload →
    leadsToExecution payload.updateStatus →
    newestCarrying ProposalWorkflowEventRecord.reasonJson (store.events proposalId)
      (buildExecutionUpdateIdempotencyKey payload) = none →
    store.proposals proposalId = some proposal → proposal.currentState = .executionReady

/-- What the workflow state says about the events of the current version. -/
structure Gated (state : ProposalWorkflowState) (events : List ProposalWorkflowEventRecord) :
    Prop where
  approved : state = .awaitingClientConsent → ∃ approval ∈ events, IsApproval approval
  consented : state = .executionReady ∨ state = .executed → ApprovedAndConsented events
  unconsented : state ∈ [.draft, .riskReview, .complianceReview, .awaitingClientConsent] →
    ∀ event ∈ events, ¬ IsConsent event

namespace Gated

variable {state next : ProposalWorkflowState} {events : List ProposalWorkflowEventRecord}
  {event : ProposalWorkflowEventRecord}

theorem opened : Gated .draft [] where
  approved h := by cases h
  consented h := by rcases h with h | h <;> cases h
  unconsented _ _ h := by cases h

theorem keep (h : Gated state events) (hconsent : ¬ IsConsent event) :
    Gated state (events ++ [event]) where
  approved hs := by
    obtain ⟨a, ha, hap⟩ := h.approved hs
    exact ⟨a, List.mem_append_left _ ha, hap⟩
  consented hs := by
    obtain ⟨a, c, ha, hc, hsub⟩ := h.consented hs
    exact ⟨a, c, ha, hc, hsub.trans (List.sublist_append_left _ _)⟩
  unconsented hs e he := by
    rcases List.mem_append.mp he with he | he
    · exact h.unconsented hs e he
    · rwa [List.mem_singleton.mp he]

/-- A terminal state other than the executed one says nothing. -/
theorem closed (h : state = .rejected ∨ state = .cancelled ∨ state = .expired) :
    Gated state events where
  approved hs := by rcases h with rfl | rfl | rfl <;> cases hs
  consented hs := by rcases h with rfl | rfl | rfl <;> rcases hs with hs | hs <;> cases hs
  unconsented hs := by
    rcases h with rfl | rfl | rfl <;> exact absurd hs (by decide)

theorem execute (h : Gated .executionReady events) :
    Gated .executed (events ++ [event]) where
  approved hs := by cases hs
  consented _ := by
    obtain ⟨a, c, ha, hc, hsub⟩ := h.consented (.inl rfl)
    exact ⟨a, c, ha, hc, hsub.trans (List.sublist_append_left _ _)⟩
  unconsented hs := absurd hs (by decide)

/-- The transition table leads from gated states to gated states. -/
theorem transition (h : Gated state events) (hmove : Transition state event.eventType next) :
    Gated next (events ++ [event]) := by
  have hnc : event.eventType ≠ .clientConsentRecorded → ¬ IsConsent event := id
  have unconsented : state ∈ [.draft, .riskReview, .complianceReview, .awaitingClientConsent] →
      event.eventType ≠ .clientConsentRecorded → ∀ e ∈ events ++ [event], ¬ IsConsent e := by
    intro hs hne e he
    rcases List.mem_append.mp he with he | he
    · exact h.unconsented hs e he
    · rw [List.mem_singleton.mp he]
      exact hne
  generalize htype : event.eventType = eventType at hmove unconsented
  cases hmove with
  | submitForRiskReview | submitForComplianceReview =>
    exact ⟨nofun, by simp, fun _ => unconsented (by decide) (by decide)⟩
  | approveRisk =>
    exact ⟨fun _ => ⟨event, by simp, .inl htype⟩, by simp,
      fun _ => unconsented (by decide) (by decide)⟩
  | approveCompliance =>
    exact ⟨fun _ => ⟨event, by simp, .inr htype⟩, by simp,
      fun _ => unconsented (by decide) (by decide)⟩
  | consent =>
    refine ⟨nofun, fun _ => ?_, fun hs => absurd hs (by decide)⟩
    obtain ⟨a, ha, hap⟩ := h.approved rfl
    exact ⟨a, event, hap, htype, (List.singleton_sublist.mpr ha).append (List.Sublist.refl [event])⟩
  | reject => exact closed (.inl rfl)
  | handOff => exact h.keep (hnc (by rw [htype]; decide))
  | execute => exact h.execute
  | expire => exact closed (.inr (.inr rfl))
  | cancel => exact closed (.inr (.inl rfl))

/-- An execution update found ready leads to a gated state. -/
theorem update (h : Gated state events) {status : ProposalExecutionUpdateStatus}
    (htype : event.eventType = (executionUpdateEventMap status).1)
    (hready : leadsToExecution status → state = .executionReady) :
    Gated (executionUpdateEventMap status).2 (events ++ [event]) := by
  have hnc : ¬ IsConsent event := by
    rw [IsConsent, htype]
    cases status <;> decide
  cases status with
  | accepted =>
    obtain rfl := hready (.inl rfl)
    exact h.keep hnc
  | partiallyExecuted =>
    obtain rfl := hready (.inr (.inl rfl))
    exact h.keep hnc
  | executed =>
    obtain rfl := hready (.inr (.inr rfl))
    exact h.execute
  | rejected => exact closed (.inl rfl)
  | cancelled => exact closed (.inr (.inl rfl))
  | expired => exact closed (.inr (.inr rfl))

/-- An execution update of an active proposal that is not ready leaves it without consent. -/
theorem not_consented_of_update (h : Gated state events)
    {status : ProposalExecutionUpdateStatus}
    (htype : event.eventType = (executionUpdateEventMap status).1)
    (hactive : state ∉ terminalStates) (hready : state ≠ .executionReady) :
    ¬ ApprovedAndConsented (events ++ [event]) := by
  have hopen : state ∈ [.draft, .riskReview, .complianceReview, .awaitingClientConsent] := by
    cases state <;> first | decide | exact absurd rfl hready | exact absurd (by decide) hactive
  rintro ⟨a, c, _, hc, hsub⟩
  have hmem : c ∈ events ++ [event] := hsub.subset (by simp)
  rcases List.mem_append.mp hmem with hmem | hmem
  · exact h.unconsented hopen c hmem hc
  · rw [List.mem_singleton.mp hmem, IsConsent, htype] at hc
    cases status <;> cases hc

end Gated

section Moves

variable {call : Call} {proposal next : ProposalRecord} {event : ProposalWorkflowEventRecord}
  {approval : Option ProposalApprovalRecordData} {log : List ProposalWorkflowEventRecord}

theorem RecordsMove.currentVersionEvents (h : RecordsMove call proposal next event approval) :
    currentVersionEvents (log ++ [event]) = Proposals.currentVersionEvents log ++ [event] := by
  refine sinceLast_concat log ?_
  have hne := h.move.eventType_ne
  simp [opensVersion, hne.1, hne.2]

theorem RecordsMove.gated (h : RecordsMove call proposal next event approval)
    (hready : ∀ proposalId payload, call.command = .executionUpdate proposalId payload →
      leadsToExecution payload.updateStatus → proposal.currentState = .executionReady)
    (hg : Gated proposal.currentState (Proposals.currentVersionEvents log)) :
    Gated next.currentState (Proposals.currentVersionEvents (log ++ [event])) := by
  rw [h.currentVersionEvents, h.nextState]
  have hmove := h.move
  have hnc : event.eventType ≠ .clientConsentRecorded → ¬ IsConsent event := id
  generalize hcommand : call.command = command at hmove
  generalize htype : event.eventType = eventType at hmove
  generalize event.toState = toState at hmove ⊢
  generalize hstate : proposal.currentState = state at hmove hready hg
  cases hmove with
  | transition allowed => exact hg.transition (htype ▸ allowed)
  | approval allowed changed => exact hg.transition (htype ▸ allowed)
  | executionHandoff => exact hg.keep (hnc (by rw [htype]; decide))
  | executionUpdate active => exact hg.update htype (hready _ _ hcommand)
  | narrativeReview => exact hg.keep (hnc (by rw [htype]; decide))
  | reportRequest => exact hg.keep (hnc (by rw [htype]; decide))

end Moves

/-- The invariant behind the gate. -/
structure GatedStore (store : InMemoryStore) : Prop where
  idsMatch : IdsMatch store
  gated : ∀ proposalId proposal, store.proposals proposalId = some proposal →
    Gated proposal.currentState (currentVersionEvents (store.events proposalId))

section Runs

variable {config : ServiceConfig} {services : Services} {store store' : InMemoryStore}
  {call : Call}

theorem GatedStore.executionGate (h : GatedStore store) : ExecutionGate store :=
  fun proposalId proposal hp hs => (h.gated proposalId proposal hp).consented hs

/-- Replacing one proposal and extending its log. -/
theorem GatedStore.update (h : GatedStore store) (hids : IdsMatch store') {next : ProposalRecord}
    {event : ProposalWorkflowEventRecord} (hevent : event.proposalId = next.proposalId)
    (hproposals : store'.proposals =
      Function.update store.proposals next.proposalId (some next))
    (hevents : store'.events =
      Function.update store.events event.proposalId (store.events event.proposalId ++ [event]))
    (hgated : Gated next.currentState
      (currentVersionEvents (store.events next.proposalId ++ [event]))) : GatedStore store' where
  idsMatch := hids
  gated proposalId proposal hp := by
    rw [hproposals, Function.update_apply] at hp
    rw [hevents, hevent, Function.update_apply]
    split at hp
    · next heq => cases hp; rw [if_pos heq]; exact hgated
    · next hne => rw [if_neg hne]; exact h.gated proposalId proposal hp

/-- An accepted command keeps the gate if its update, if it is one, finds the proposal ready. -/
theorem GatedStore.step (h : GatedStore store)
    (haccept : (inMemoryLifecycle config services).accept store call = some store')
    (hq : UpdatesFindReady store call store') : GatedStore store' := by
  have hacc := accepted_of_accept h.idsMatch haccept
  have hids := idsMatch_of_accept h.idsMatch haccept
  cases hacc with
  | replay => exact h
  | create command records =>
    refine h.update hids (records.eventProposalId.trans records.proposalId.symm)
      InMemoryStore.created_proposals InMemoryStore.created_events ?_
    rw [currentVersionEvents, sinceLast_concat_boundary _ (by simp [opensVersion, records.eventType]),
      records.currentState]
    exact .opened
  | version command found records =>
    refine h.update hids (records.eventProposalId.trans records.nextId.symm)
      InMemoryStore.transitioned_proposals InMemoryStore.transitioned_events ?_
    rw [currentVersionEvents, sinceLast_concat_boundary _ (by simp [opensVersion, records.eventType]),
      records.nextState]
    exact .opened
  | @move proposal next event approval response command decided found records _ =>
    refine h.update hids (records.eventProposalId.trans records.nextId.symm)
      InMemoryStore.transitioned_proposals InMemoryStore.transitioned_events ?_
    rw [records.nextId]
    refine records.gated (fun proposalId payload hcommand hleads => ?_) (h.gated _ _ found)
    have hid : proposalId = proposal.proposalId := by
      rw [hcommand] at command
      exact Option.some.inj command
    subst hid
    have hnone := (executionUpdate_writes_iff hcommand decided).mp ⟨_, _, _, rfl⟩
    exact hq _ payload proposal hcommand hleads hnone found

/-- An accepted command that lets a proposal through the gate unreviewed is a recorded execution
update that did not find it ready. -/
theorem GatedStore.updatesFindReady (h : GatedStore store)
    (haccept : (inMemoryLifecycle config services).accept store call = some store')
    (hgate : ExecutionGate store') : UpdatesFindReady store call store' := by
  intro proposalId payload proposal hcommand hleads hnone hp
  by_contra hready
  have hacc := accepted_of_accept h.idsMatch haccept
  cases hacc with
  | replay decided =>
    have hwrites := (executionUpdate_writes_iff hcommand decided).mpr hnone
    obtain ⟨_, _, _, hw⟩ := hwrites
    cases hw
  | create command => rw [hcommand] at command; cases command
  | version command => rw [hcommand] at command; cases command
  | @move current next event approval response command decided found records _ =>
    have hid : proposalId = current.proposalId := by
      rw [hcommand] at command
      exact Option.some.inj command
    subst hid
    obtain rfl : current = proposal := Option.some.inj (found.symm.trans hp)
    have hmove := records.move
    rw [hcommand] at hmove
    generalize htype : event.eventType = eventType at hmove
    generalize hto : event.toState = toState at hmove
    cases hmove with
    | executionUpdate active =>
      refine (h.gated _ _ found).not_consented_of_update htype active hready ?_
      have hstate : next.currentState = .executionReady ∨ next.currentState = .executed := by
        rw [records.nextState, hto]
        rcases hleads with hs | hs | hs <;> rw [hs]
        · exact .inl rfl
        · exact .inl rfl
        · exact .inr rfl
      have := hgate next.proposalId next (by simp) hstate
      rwa [InMemoryStore.transitioned_events, records.eventProposalId, records.nextId,
        Function.update_self, records.currentVersionEvents] at this

/-- The gate holds in every state of a run of accepted commands exactly when every update recorded
in it that leads to execution finds its proposal ready. -/
theorem execution_gate_iff (config : ServiceConfig) (services : Services) (calls : List Call) :
    EveryState (inMemoryLifecycle config services).accept ExecutionGate .empty calls ↔
      EveryStep (inMemoryLifecycle config services).accept UpdatesFindReady .empty calls := by
  have hempty : GatedStore .empty :=
    ⟨fun _ _ h => (by cases h), fun _ _ h => (by cases h)⟩
  refine everyState_iff_of_invariant (fun _ _ _ hs hstep hq => hs.step hstep hq)
    (fun _ _ _ hs hstep => ⟨hs.updatesFindReady hstep, fun hq => ?_⟩) hempty
    hempty.executionGate
  exact (hs.step hstep hq).executionGate

/-- A proposal is handed off, a new version supersedes the one handed off, and then a downstream
acceptance of the old version arrives. -/
def lateUpdate : List Call :=
  [Sample.call 0 0 (Sample.create "key-1"),
    Sample.call 1 1 (Sample.transition "pp_000" .submittedForRiskReview [] none),
    Sample.call 2 2 (Sample.approve "pp_000" .risk none),
    Sample.call 3 3 (Sample.approve "pp_000" .clientConsent none),
    Sample.call 4 4 (Sample.handOff "pp_000" "oms_req_1" none),
    Sample.call 5 5 (Sample.newVersion "pp_000"),
    Sample.call 6 6 (Sample.update "pp_000" "u1" "oms_req_1" .accepted)]

theorem execution_gate_lateUpdate : ∃ store,
    run (inMemoryLifecycle Sample.config Sample.services).accept .empty lateUpdate = some store ∧
      ¬ ExecutionGate store := by
  have hview : (run (inMemoryLifecycle Sample.config Sample.services).accept .empty
      lateUpdate).map (fun store => ((store.proposals "pp_000").map (·.currentState),
        (currentVersionEvents (store.events "pp_000")).map (·.eventType))) =
      some (some .executionReady, [.executionAccepted]) := by decide +kernel
  obtain ⟨store, hrun, hview⟩ := Option.map_eq_some_iff.mp hview
  obtain ⟨hstate, htypes⟩ := Prod.mk.inj hview
  obtain ⟨proposal, hp, hready⟩ := Option.map_eq_some_iff.mp hstate
  refine ⟨store, hrun, fun hgate => ?_⟩
  obtain ⟨_, consent, _, hconsent, hsub⟩ := hgate _ proposal hp (.inl hready)
  have hmem := List.mem_map_of_mem (f := (·.eventType)) (hsub.subset (by simp : consent ∈ [_, consent]))
  rw [htypes, List.mem_singleton, hconsent] at hmem
  cases hmem

end Runs

end LotusAdvise.Proposals

import LotusAdvise.Proposals.Writes
import Mathlib.Data.List.Infix
import Mathlib.Logic.Function.Basic

/-! # The in-memory repository

Dictionaries of records, and the events and approvals of each proposal in append order.
Each write happens under the repository's lock.
-/

namespace LotusAdvise.Proposals

structure InMemoryStore where
  proposals : String → Option ProposalRecord
  versions : String × ℕ → Option ProposalVersionRecord
  events : String → List ProposalWorkflowEventRecord
  approvals : String → List ProposalApprovalRecordData
  idempotency : String → Option ProposalIdempotencyRecord

namespace InMemoryStore

def empty : InMemoryStore where
  proposals _ := none
  versions _ := none
  events _ := []
  approvals _ := []
  idempotency _ := none

variable (store : InMemoryStore)

def setProposal (proposal : ProposalRecord) : InMemoryStore :=
  { store with proposals := Function.update store.proposals proposal.proposalId (some proposal) }

def setVersion (version : ProposalVersionRecord) : InMemoryStore :=
  { store with
    versions := Function.update store.versions (version.proposalId, version.versionNo)
      (some version) }

def appendEvent (event : ProposalWorkflowEventRecord) : InMemoryStore :=
  { store with
    events := Function.update store.events event.proposalId
      (store.events event.proposalId ++ [event]) }

def appendApproval : Option ProposalApprovalRecordData → InMemoryStore
  | none => store
  | some approval =>
    { store with
      approvals := Function.update store.approvals approval.proposalId
        (store.approvals approval.proposalId ++ [approval]) }

def setIdempotency (record : ProposalIdempotencyRecord) : InMemoryStore :=
  { store with
    idempotency := Function.update store.idempotency record.idempotencyKey (some record) }

/-- The store after a transition that found the aggregate it expected. -/
def transitioned (proposal : ProposalRecord) (event : ProposalWorkflowEventRecord)
    (approval : Option ProposalApprovalRecordData) : InMemoryStore :=
  ((store.appendEvent event).appendApproval approval).setProposal proposal

/-- The store after a creation, which overwrites what it finds. -/
def created (proposal : ProposalRecord) (version : ProposalVersionRecord)
    (event : ProposalWorkflowEventRecord) (idempotency : ProposalIdempotencyRecord) :
    InMemoryStore :=
  (((store.setProposal proposal).setVersion version).appendEvent event).setIdempotency idempotency

def perform : RepositoryWrite → Except ProposalError InMemoryStore
  | .createProposal proposal version event idempotency =>
    .ok (store.created proposal version event idempotency)
  | .createVersion version => .ok (store.setVersion version)
  | .transitionProposal proposal event approval expectedCurrentState expectedCurrentVersionNo =>
    if TransitionExpected (store.proposals proposal.proposalId) expectedCurrentState
        expectedCurrentVersionNo then
      .ok (store.transitioned proposal event approval)
    else .error aggregateChanged

variable {store} {proposal : ProposalRecord} {version : ProposalVersionRecord}
  {event : ProposalWorkflowEventRecord} {approval : Option ProposalApprovalRecordData}
  {idempotency : ProposalIdempotencyRecord}

@[simp] theorem transitioned_proposals : (store.transitioned proposal event approval).proposals =
    Function.update store.proposals proposal.proposalId (some proposal) := by
  cases approval <;> rfl

@[simp] theorem transitioned_versions :
    (store.transitioned proposal event approval).versions = store.versions := by
  cases approval <;> rfl

@[simp] theorem transitioned_events : (store.transitioned proposal event approval).events =
    Function.update store.events event.proposalId (store.events event.proposalId ++ [event]) := by
  cases approval <;> rfl

@[simp] theorem transitioned_idempotency :
    (store.transitioned proposal event approval).idempotency = store.idempotency := by
  cases approval <;> rfl

theorem transitioned_approvals (proposalId : String) :
    (store.transitioned proposal event approval).approvals proposalId =
      store.approvals proposalId ++
        approval.toList.filter fun a => a.proposalId = proposalId := by
  cases approval with
  | none => simp [transitioned, appendApproval, appendEvent, setProposal]
  | some a =>
    by_cases h : proposalId = a.proposalId
    · subst h; simp [transitioned, appendApproval, appendEvent, setProposal]
    · simp [transitioned, appendApproval, appendEvent, setProposal, Function.update_of_ne h,
        Ne.symm h]

@[simp] theorem created_proposals : (store.created proposal version event idempotency).proposals =
    Function.update store.proposals proposal.proposalId (some proposal) := rfl

@[simp] theorem created_versions : (store.created proposal version event idempotency).versions =
    Function.update store.versions (version.proposalId, version.versionNo) (some version) := rfl

@[simp] theorem created_events : (store.created proposal version event idempotency).events =
    Function.update store.events event.proposalId (store.events event.proposalId ++ [event]) := rfl

@[simp] theorem created_approvals :
    (store.created proposal version event idempotency).approvals = store.approvals := rfl

@[simp] theorem created_idempotency :
    (store.created proposal version event idempotency).idempotency =
      Function.update store.idempotency idempotency.idempotencyKey (some idempotency) := rfl

@[simp] theorem setVersion_proposals : (store.setVersion version).proposals = store.proposals := rfl

@[simp] theorem setVersion_versions : (store.setVersion version).versions =
    Function.update store.versions (version.proposalId, version.versionNo) (some version) := rfl

@[simp] theorem setVersion_events : (store.setVersion version).events = store.events := rfl

@[simp] theorem setVersion_approvals : (store.setVersion version).approvals = store.approvals := rfl

@[simp] theorem setVersion_idempotency :
    (store.setVersion version).idempotency = store.idempotency := rfl

/-- A transition with both expectations goes through exactly when the stored aggregate meets them. -/
theorem perform_transition_eq_ok {state : ProposalWorkflowState} {versionNo : ℕ}
    {store' : InMemoryStore} :
    store.perform (.transitionProposal proposal event approval (some state) (some versionNo)) =
        .ok store' ↔
      (∃ current, store.proposals proposal.proposalId = some current ∧
        current.currentState = state ∧ current.currentVersionNo = versionNo) ∧
      store' = store.transitioned proposal event approval := by
  simp only [perform, TransitionExpected, Option.mem_def]
  split
  · next h =>
    simp only [Except.ok.injEq, h, true_and]
    exact eq_comm
  · next h => simp [h]

/-- The only write an in-memory repository refuses is a transition whose aggregate has moved. -/
theorem perform_error {write : RepositoryWrite} {e : ProposalError}
    (h : store.perform write = .error e) : e = aggregateChanged := by
  cases write with
  | transitionProposal =>
    simp only [perform] at h
    split at h <;> cases h
    rfl
  | _ => cases h

/-- The aggregate of a write is stored under its own identifier. -/
theorem perform_proposals {write : RepositoryWrite} {store' : InMemoryStore}
    (h : store.perform write = .ok store') : store'.proposals =
      match write.proposal? with
      | none => store.proposals
      | some proposal => Function.update store.proposals proposal.proposalId (some proposal) := by
  cases write with
  | createProposal | createVersion => cases h; rfl
  | transitionProposal proposal =>
    simp only [perform] at h
    split at h <;> cases h
    exact transitioned_proposals

theorem perform_keeps_proposal {write : RepositoryWrite} {store' : InMemoryStore}
    {proposalId : String} (h : store.perform write = .ok store')
    (hp : (store.proposals proposalId).isSome) : (store'.proposals proposalId).isSome := by
  have hproposals := perform_proposals h
  split at hproposals
  · rwa [hproposals]
  · rw [hproposals, Function.update_apply]
    split
    · rfl
    · exact hp

/-- The event of a write is appended to the log of its proposal. -/
theorem perform_events {write : RepositoryWrite} {store' : InMemoryStore}
    (h : store.perform write = .ok store') (proposalId : String) :
    store'.events proposalId = store.events proposalId ++
      write.event?.toList.filter fun event => event.proposalId = proposalId := by
  have append : ∀ event : ProposalWorkflowEventRecord,
      Function.update store.events event.proposalId (store.events event.proposalId ++ [event])
        proposalId = store.events proposalId ++
          [event].filter fun event => event.proposalId = proposalId := by
    intro event
    by_cases heq : event.proposalId = proposalId
    · subst heq
      rw [Function.update_self, List.filter_singleton]
      simp
    · rw [Function.update_of_ne (Ne.symm heq), List.filter_singleton]
      simp [heq]
  cases write with
  | createProposal _ _ event => cases h; exact append event
  | createVersion => cases h; exact (List.append_nil _).symm
  | transitionProposal _ event =>
    simp only [perform] at h
    split at h <;> cases h
    rw [transitioned_events]
    exact append event

/-- Logs only grow. -/
theorem perform_events_prefix {write : RepositoryWrite} {store' : InMemoryStore}
    (h : store.perform write = .ok store') (proposalId : String) :
    store.events proposalId <+: store'.events proposalId := by
  rw [perform_events h]
  exact List.prefix_append _ _

end InMemoryStore

def inMemoryRepository : ProposalRepository InMemoryStore where
  getIdempotency store idempotencyKey := store.idempotency idempotencyKey
  getProposal store proposalId := store.proposals proposalId
  getVersion store proposalId versionNo := store.versions (proposalId, versionNo)
  listEvents store proposalId := store.events proposalId
  listApprovals store proposalId := store.approvals proposalId
  perform := InMemoryStore.perform

open Interleaving

/-- The lifecycle commands against the in-memory repository. -/
abbrev inMemoryLifecycle (config : ServiceConfig) (services : Services) :
    Protocol InMemoryStore Call RepositoryWrite ProposalResponse ProposalError :=
  lifecycle config services inMemoryRepository

/-- Every proposal is stored under its own identifier. -/
def IdsMatch (store : InMemoryStore) : Prop :=
  ∀ proposalId proposal, store.proposals proposalId = some proposal →
    proposal.proposalId = proposalId

theorem IdsMatch.update {store store' : InMemoryStore} {proposal : ProposalRecord}
    (hids : IdsMatch store) (h : store'.proposals =
      Function.update store.proposals proposal.proposalId (some proposal)) : IdsMatch store' := by
  intro proposalId p hp
  rw [h, Function.update_apply] at hp
  split at hp
  · next hid => cases hp; exact hid.symm
  · exact hids proposalId p hp

theorem IdsMatch.perform {store store' : InMemoryStore} {write : RepositoryWrite}
    (hids : IdsMatch store) (h : inMemoryRepository.perform store write = .ok store') :
    IdsMatch store' := by
  have hproposals := InMemoryStore.perform_proposals h
  split at hproposals
  · intro proposalId p hp
    exact hids proposalId p (hproposals ▸ hp)
  · exact hids.update hproposals

/-- A command finds no earlier record of its key, so that it records one when it is accepted. -/
def FindsNoReplay (store : InMemoryStore) : ProposalCommand → Prop
  | .create arguments => ∀ key, normalizeOptionalIdempotencyKey arguments.idempotencyKey = some key →
    store.idempotency key = none
  | command => ∀ key, command.searchKey? = some key →
    newestSearched inMemoryRepository store command key = none

/-- How a command that records something changes the aggregates and the logs. -/
structure StoresAggregate (store : InMemoryStore) (next : ProposalRecord)
    (event : ProposalWorkflowEventRecord) (store' : InMemoryStore) : Prop where
  eventProposalId : event.proposalId = next.proposalId
  proposals : store'.proposals = Function.update store.proposals next.proposalId (some next)
  events : store'.events = Function.update store.events next.proposalId
    (store.events next.proposalId ++ [event])

/-- What an accepted command does to the in-memory store when no other command interferes. -/
inductive Accepted (config : ServiceConfig) (services : Services) (store : InMemoryStore)
    (call : Call) : InMemoryStore → Prop where
  | replay {response : ProposalResponse}
    (decided : (inMemoryLifecycle config services).decide store call = .ok (.reply response)) :
    Accepted config services store call store
  | create {arguments : CreateProposalArguments} {proposal : ProposalRecord}
    {version : ProposalVersionRecord} {event : ProposalWorkflowEventRecord}
    {idempotency : ProposalIdempotencyRecord} (command : call.command = .create arguments)
    (records : RecordsCreation call proposal version event idempotency) :
    Accepted config services store call (store.created proposal version event idempotency)
  | version {proposal next : ProposalRecord} {version : ProposalVersionRecord}
    {event : ProposalWorkflowEventRecord} {payload : ProposalVersionRequest}
    {correlationId : Option String} {replayLineage contextResolutionOverride : Option JsonObject}
    (command : call.command = .createVersion proposal.proposalId payload correlationId
      replayLineage contextResolutionOverride)
    (found : store.proposals proposal.proposalId = some proposal)
    (records : RecordsVersion call proposal next version event) :
    Accepted config services store call ((store.setVersion version).transitioned next event none)
  | move {proposal next : ProposalRecord} {event : ProposalWorkflowEventRecord}
    {approval : Option ProposalApprovalRecordData} {response : ProposalResponse}
    (command : call.command.proposalId? = some proposal.proposalId)
    (decided : (inMemoryLifecycle config services).decide store call =
      .ok (transitionPlan proposal next event approval response))
    (found : store.proposals proposal.proposalId = some proposal)
    (records : RecordsMove call proposal next event approval)
    (keyed : ∀ key, call.command.searchKey? = some key →
      RecordsKeyed services inMemoryRepository store call.command event approval key) :
    Accepted config services store call (store.transitioned next event approval)

section Sequential

variable {config : ServiceConfig} {services : Services} {store store' : InMemoryStore}
  {call : Call}

theorem accepted_of_accept (hids : IdsMatch store)
    (h : (inMemoryLifecycle config services).accept store call = some store') :
    Accepted config services store call store' := by
  obtain ⟨r, hexec⟩ := Protocol.accept_eq_some.mp h
  rcases Protocol.execute_ok_cases hexec with ⟨hd, rfl⟩ | ⟨w, rest, hd, hp⟩
  · exact .replay hd
  · cases planned_of_decide hd with
    | create command _ _ _ records =>
      obtain ⟨_, hw, hp⟩ := Protocol.performAll_cons.mp hp
      obtain rfl := Protocol.performAll_nil.mp hp
      cases hw
      exact .create command records
    | @version proposalId proposal next version event _ _ _ _ command found records =>
      obtain rfl := hids _ _ found
      obtain ⟨_, hw, hp⟩ := Protocol.performAll_cons.mp hp
      obtain ⟨_, ht, hp⟩ := Protocol.performAll_cons.mp hp
      obtain rfl := Protocol.performAll_nil.mp hp
      cases hw
      obtain ⟨_, rfl⟩ := InMemoryStore.perform_transition_eq_ok.mp ht
      exact .version command found records
    | @move proposalId proposal next event approval _ command found records keyed =>
      obtain rfl := hids _ _ found
      obtain ⟨_, hw, hp⟩ := Protocol.performAll_cons.mp hp
      obtain rfl := Protocol.performAll_nil.mp hp
      obtain ⟨_, rfl⟩ := InMemoryStore.perform_transition_eq_ok.mp hw
      exact .move command hd found records keyed

theorem not_findsNoReplay_of_reply {response : ProposalResponse}
    (h : (inMemoryLifecycle config services).decide store call = .ok (.reply response)) :
    ¬ FindsNoReplay store call.command := by
  have h : decideCommand config services inMemoryRepository store call = .ok (.reply response) := h
  intro hnone
  rcases replays_of_decide h with ⟨arguments, hcommand⟩ | ⟨key, _, _, found⟩
  · obtain ⟨command, generated⟩ := call
    obtain rfl : command = .create arguments := hcommand
    obtain ⟨key, hkey, ⟨existing, _, hfound, _⟩ | ⟨_, _, _, _, hout⟩⟩ := createProposalCommand_eq_ok h
    · have hfound : store.idempotency key = some existing := hfound
      rw [hnone key hkey] at hfound
      cases hfound
    · cases hout
  · have hsearched := found.searched
    unfold FindsNoReplay at hnone
    split at hnone
    · next hcommand => rw [hcommand] at hsearched; cases hsearched
    · have hnewest := hnone key hsearched
      rw [found.newest] at hnewest
      cases hnewest

theorem findsNoReplay_of_write {w : RepositoryWrite} {rest : List RepositoryWrite}
    {response : ProposalResponse}
    (h : (inMemoryLifecycle config services).decide store call = .ok (.write w rest response)) :
    FindsNoReplay store call.command := by
  cases planned_of_decide h with
  | create command key hash unbound records =>
    rw [command]
    intro other hother
    rw [← Option.some.inj (key.symm.trans hother)]
    exact unbound
  | version command => rw [command]; exact fun _ h => (by cases h)
  | @move proposalId _ _ _ _ _ command found records keyed =>
    unfold FindsNoReplay
    split
    · next hcommand => rw [hcommand] at command; cases command
    · exact fun key hkey => (keyed key hkey).unseen

/-- An accepted command replied without a change, or stored one aggregate along one event. -/
theorem stores_of_accept (hids : IdsMatch store)
    (h : (inMemoryLifecycle config services).accept store call = some store') :
    (∃ response, (inMemoryLifecycle config services).decide store call = .ok (.reply response) ∧
        store' = store) ∨
      ∃ w rest response write next event,
        (inMemoryLifecycle config services).decide store call = .ok (.write w rest response) ∧
        write ∈ w :: rest ∧ write.proposal? = some next ∧ write.event? = some event ∧
        StoresAggregate store next event store' := by
  obtain ⟨response, hexec⟩ := Protocol.accept_eq_some.mp h
  rcases Protocol.execute_ok_cases hexec with ⟨hd, rfl⟩ | ⟨w, rest, hd, hp⟩
  · exact .inl ⟨response, hd, rfl⟩
  · refine .inr ⟨w, rest, response, ?_⟩
    cases planned_of_decide hd with
    | create _ _ _ _ records =>
      obtain ⟨_, hw, hp⟩ := Protocol.performAll_cons.mp hp
      obtain rfl := Protocol.performAll_nil.mp hp
      cases hw
      have heq := records.eventProposalId.trans records.proposalId.symm
      exact ⟨_, _, _, hd, List.mem_cons_self, rfl, rfl, heq, rfl, heq ▸ rfl⟩
    | version _ _ records =>
      obtain ⟨_, hw, hp⟩ := Protocol.performAll_cons.mp hp
      obtain ⟨_, ht, hp⟩ := Protocol.performAll_cons.mp hp
      obtain rfl := Protocol.performAll_nil.mp hp
      cases hw
      obtain ⟨_, rfl⟩ := InMemoryStore.perform_transition_eq_ok.mp ht
      have heq := records.eventProposalId.trans records.nextId.symm
      exact ⟨_, _, _, hd, List.mem_cons_of_mem _ List.mem_cons_self, rfl, rfl, heq,
        InMemoryStore.transitioned_proposals, heq ▸ InMemoryStore.transitioned_events⟩
    | move _ _ records _ =>
      obtain ⟨_, hw, hp⟩ := Protocol.performAll_cons.mp hp
      obtain rfl := Protocol.performAll_nil.mp hp
      obtain ⟨_, rfl⟩ := InMemoryStore.perform_transition_eq_ok.mp hw
      have heq := records.eventProposalId.trans records.nextId.symm
      exact ⟨_, _, _, hd, List.mem_cons_self, rfl, rfl, heq,
        InMemoryStore.transitioned_proposals, heq ▸ InMemoryStore.transitioned_events⟩

theorem idsMatch_of_accept (hids : IdsMatch store)
    (h : (inMemoryLifecycle config services).accept store call = some store') :
    IdsMatch store' := by
  obtain ⟨r, hexec⟩ := Protocol.accept_eq_some.mp h
  have hkept := Protocol.execute_invariant (P := inMemoryLifecycle config services) (c := call)
    (fun _ _ _ => IdsMatch.perform) hids
  rwa [hexec] at hkept

theorem idsMatch_of_run {calls : List Call}
    (h : Runs.run (inMemoryLifecycle config services).accept .empty calls = some store) :
    IdsMatch store :=
  Runs.invariant_of_step (fun _ _ _ hids haccept => idsMatch_of_accept hids haccept)
    (fun _ _ hp => (by cases hp)) h

end Sequential

end LotusAdvise.Proposals

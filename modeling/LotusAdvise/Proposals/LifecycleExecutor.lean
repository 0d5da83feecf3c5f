import LotusAdvise.Proposals.AsyncWorkers

/-! # Lifecycle commands as executors

The executor of an operation is the creation or the version command. Its reads are one step
and each of its writes is another; any step may raise an exception before it does anything.
-/

namespace LotusAdvise.Proposals

inductive LifecycleStage where
  | reading (command : ProposalCommand)
  | writing (write : RepositoryWrite) (rest : List RepositoryWrite) (response : ProposalResponse)

/-- What a step of a command draws, or the exception it raises. -/
inductive LifecycleInput where
  | proceed (generated : Generated)
  | raise (name message : String)

def ExecutorCall.command : ExecutorCall → ProposalCommand
  | .createProposal payload idempotencyKey correlationId replayLineage =>
    .create
      { payload
        idempotencyKey := some idempotencyKey
        correlationId := some correlationId
        replayLineage := some replayLineage }
  | .createVersion proposalId payload correlationId replayLineage =>
    .createVersion proposalId payload (some correlationId) (some replayLineage) none

/-- The writes a command has still to do. -/
def LifecycleStage.planned : LifecycleStage → List RepositoryWrite
  | .reading _ => []
  | .writing write rest _ => write :: rest

section Executor

variable {S : Type} (config : ServiceConfig) (services : AsyncServices)
  (repository : ProposalRepository S)

/-- A lifecycle error with the name of its class, or any other exception. -/
def executorError : ProposalError → ExecutorOutcome
  | .lifecycle detail => .lifecycleError "ProposalLifecycleError" detail
  | .notFound detail => .lifecycleError "ProposalNotFoundError" detail
  | .validation detail => .lifecycleError "ProposalValidationError" detail
  | .idempotencyConflict detail => .lifecycleError "ProposalIdempotencyConflictError" detail
  | .stateConflict detail => .lifecycleError "ProposalStateConflictError" detail
  | .transition detail => .lifecycleError "ProposalTransitionError" detail
  | error => .exception (services.describeException error).1 (services.describeException error).2

/-- What an executor returns; the answers of other commands reach no operation. -/
def executorAnswer : ProposalResponse → ExecutorOutcome
  | .create response =>
    .returned response.proposal.proposalId (services.dumpCreateResponse response)
  | _ => .returned "" []

def afterWriting (response : ProposalResponse) :
    List RepositoryWrite → LifecycleStage ⊕ ExecutorOutcome
  | [] => .inr (executorAnswer services response)
  | write :: rest => .inl (.writing write rest response)

def stepLifecycle (proposals : S) : LifecycleStage → LifecycleInput →
    Option (S × Option RepositoryWrite × (LifecycleStage ⊕ ExecutorOutcome))
  | _, .raise name message => some (proposals, none, .inr (.exception name message))
  | .reading command, .proceed generated =>
    some (proposals, none,
      match decideCommand config services.toServices repository proposals ⟨command, generated⟩ with
      | .error error => .inr (executorError services error)
      | .ok (.reply response) => .inr (executorAnswer services response)
      | .ok (.write write rest response) => .inl (.writing write rest response))
  | .writing write rest response, .proceed _ =>
    some (match repository.perform proposals write with
      | .error error => (proposals, none, .inr (executorError services error))
      | .ok proposals => (proposals, some write, afterWriting services response rest))

/-- The executors of the service. -/
def lifecycleExecutor : AsyncExecutor S LifecycleStage RepositoryWrite LifecycleInput where
  start call := .reading call.command
  step := stepLifecycle config services repository

/-- Everything one step of a command can be. -/
inductive LifecycleStep (proposals : S) : LifecycleStage → S → Option RepositoryWrite →
    LifecycleStage ⊕ ExecutorOutcome → Prop where
  | ends {stage : LifecycleStage} (outcome : ExecutorOutcome) :
    LifecycleStep proposals stage proposals none (.inr outcome)
  | plans {command : ProposalCommand} {generated : Generated} {write : RepositoryWrite}
    {rest : List RepositoryWrite} {response : ProposalResponse}
    (planned : Planned services.toServices repository proposals ⟨command, generated⟩ write rest
      response) :
    LifecycleStep proposals (.reading command) proposals none (.inl (.writing write rest response))
  | commits {write : RepositoryWrite} {rest : List RepositoryWrite} {response : ProposalResponse}
    {proposals' : S} (performed : repository.perform proposals write = .ok proposals') :
    LifecycleStep proposals (.writing write rest response) proposals' (some write)
      (afterWriting services response rest)

end Executor

section Step

variable {S : Type} {config : ServiceConfig} {services : AsyncServices}
  {repository : ProposalRepository S} {proposals proposals' : S} {stage : LifecycleStage}
  {input : LifecycleInput} {write : Option RepositoryWrite}
  {next : LifecycleStage ⊕ ExecutorOutcome}

theorem lifecycleStep_of_step
    (h : (lifecycleExecutor config services repository).step proposals stage input =
      some (proposals', write, next)) :
    LifecycleStep services repository proposals stage proposals' write next := by
  cases input with
  | raise name message =>
    cases stage <;>
      · obtain ⟨rfl, hrest⟩ := Prod.mk.inj (Option.some.inj h)
        obtain ⟨rfl, rfl⟩ := Prod.mk.inj hrest
        exact .ends _
  | proceed generated =>
    cases stage with
    | reading command =>
      obtain ⟨rfl, hrest⟩ := Prod.mk.inj (Option.some.inj h)
      obtain ⟨rfl, rfl⟩ := Prod.mk.inj hrest
      split
      · exact .ends _
      · exact .ends _
      · next hdecide => exact .plans (planned_of_decide hdecide)
    | writing planned rest response =>
      have heq := Option.some.inj h
      split at heq
      · obtain ⟨rfl, hrest⟩ := Prod.mk.inj heq
        obtain ⟨rfl, rfl⟩ := Prod.mk.inj hrest
        exact .ends _
      · next hperform =>
        obtain ⟨rfl, hrest⟩ := Prod.mk.inj heq
        obtain ⟨rfl, rfl⟩ := Prod.mk.inj hrest
        exact .commits hperform

end Step

/-- The key a write binds. -/
def RepositoryWrite.idempotency? : RepositoryWrite → Option ProposalIdempotencyRecord
  | createProposal _ _ _ idempotency => some idempotency
  | createVersion _ => none
  | transitionProposal .. => none

/-- A write binds its own key and leaves the other bindings. -/
structure BindsKeys {S : Type} (repository : ProposalRepository S) : Prop where
  reads : ∀ {store store' : S} {write}, repository.perform store write = .ok store' → ∀ key,
    repository.getIdempotency store' key =
      (write.idempotency?.filter fun idempotency => idempotency.idempotencyKey = key).or
        (repository.getIdempotency store key)

namespace BindsKeys

variable {S : Type} {repository : ProposalRepository S} {store store' : S} {write : RepositoryWrite}

theorem binds (h : BindsKeys repository) (hperform : repository.perform store write = .ok store')
    {idempotency : ProposalIdempotencyRecord} (hwrite : idempotency ∈ write.idempotency?) :
    repository.getIdempotency store' idempotency.idempotencyKey ≠ none := by
  rw [h.reads hperform, Option.mem_def.mp hwrite]
  simp

theorem keeps (h : BindsKeys repository) (hperform : repository.perform store write = .ok store')
    {key : String} (hbound : repository.getIdempotency store key ≠ none) :
    repository.getIdempotency store' key ≠ none := by
  rw [h.reads hperform]
  intro hnone
  exact hbound (Option.or_eq_none_iff.mp hnone).2

end BindsKeys

theorem inMemory_bindsKeys : BindsKeys inMemoryRepository where
  reads {store store' write} h key := by
    cases write with
    | createProposal proposal version event idempotency =>
      obtain rfl := Except.ok.inj h
      show Function.update store.idempotency idempotency.idempotencyKey (some idempotency) key = _
      rw [Function.update_apply, RepositoryWrite.idempotency?, Option.filter_some]
      by_cases hkey : idempotency.idempotencyKey = key
      · simp [hkey]
      · simp [hkey, Ne.symm hkey, inMemoryRepository]
    | createVersion version =>
      obtain rfl := Except.ok.inj h
      rfl
    | transitionProposal proposal event approval state versionNo =>
      simp only [inMemoryRepository, InMemoryStore.perform] at h
      split at h
      · obtain rfl := Except.ok.inj h
        simp [inMemoryRepository, RepositoryWrite.idempotency?]
      · cases h

/-- The table of keys after a write. -/
theorem PostgresStore.idempotency_of_perform {store store' : PostgresStore}
    {write : RepositoryWrite} (h : store.perform write = .ok store') :
    store'.idempotency = write.idempotency?.elim store.idempotency
      (Tables.upsert ProposalIdempotencyRecord.idempotencyKey store.idempotency) := by
  cases write with
  | createProposal proposal version event idempotency =>
    simp only [perform, createProposalWithVersionEventIdempotency, bind_eq_ok,
      upsertProposal_eq_ok, insertProposalIdempotency_eq_ok, insertVersion, insertEvent] at h
    obtain ⟨_, ⟨_, rfl⟩, _, ⟨_, _, versions, _, ⟨⟩⟩, _, ⟨_, _, events, _, ⟨⟩⟩, _, _, rfl⟩ := h
    rfl
  | createVersion version =>
    simp only [perform, insertVersion, bind_eq_ok] at h
    obtain ⟨_, _, versions, _, ⟨⟩⟩ := h
    rfl
  | transitionProposal proposal event approval state versionNo =>
    simp only [perform, transitionProposal, bind_eq_ok, updateProposalIfCurrent_eq_ok,
      insertEvent] at h
    obtain ⟨_, ⟨_, _, rfl⟩, _, ⟨_, _, events, _, ⟨⟩⟩, h⟩ := h
    cases approval with
    | none =>
      cases h
      rfl
    | some approval =>
      obtain ⟨approvals, rfl⟩ := insertApproval_eq_ok h
      rfl

theorem postgres_bindsKeys (collation : LinearOrder String) :
    BindsKeys (postgresRepository collation) where
  reads {store store' write} h key := by
    show Tables.lookup _ store'.idempotency key = _
    rw [PostgresStore.idempotency_of_perform h]
    cases write.idempotency? with
    | none => rfl
    | some idempotency =>
      show Tables.lookup _ (Tables.upsert _ _ _) key = _
      rw [Tables.lookup_upsert, Option.filter_some]
      by_cases hkey : idempotency.idempotencyKey = key
      · simp [hkey]
      · simp only [hkey, if_false, decide_false, Bool.false_eq_true, Option.none_or]
        rfl

end LotusAdvise.Proposals

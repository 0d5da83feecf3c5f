import LotusAdvise.Proposals.AsyncOperations
import LotusAdvise.Proposals.InMemory
import LotusAdvise.Proposals.Postgres

/-! # Stored operations

What asynchronous execution uses of a repository. Every write stores a whole record, under
its identifier and in place of the one found there; nothing is compared. The proposals are
passed along for the foreign key of the operations table.
-/

namespace LotusAdvise.Proposals

open Tables

structure AsyncOperationRepository (S T : Type) where
  getOperation : T → (operationId : String) → Option ProposalAsyncOperationRecord
  getOperationByCorrelation : T → (correlationId : String) → Option ProposalAsyncOperationRecord
  listRecoverableOperations : T → (asOf : UtcDateTime) → (limit : ℕ) →
    List ProposalAsyncOperationRecord
  createOperation : S → T → ProposalAsyncOperationRecord → Except ProposalError T
  /-- The stored operation and whether it is the new one. -/
  createOperationIfAbsentByIdempotency : S → T → ProposalAsyncOperationRecord →
    Except ProposalError (ProposalAsyncOperationRecord × Bool × T)
  updateOperation : S → T → ProposalAsyncOperationRecord → Except ProposalError T

namespace AsyncOperationRepository

variable {S T : Type} (repository : AsyncOperationRepository S T)

/-- What later reads by identifier find after a record was stored. -/
def Stores (operations : T) (operation : ProposalAsyncOperationRecord) (operations' : T) : Prop :=
  ∀ operationId, repository.getOperation operations' operationId =
    if operation.operationId = operationId then some operation
    else repository.getOperation operations operationId

/-- A repository that finds the record stored last under an identifier. -/
structure Lawful : Prop where
  keyed : ∀ operations operationId operation,
    repository.getOperation operations operationId = some operation →
    operation.operationId = operationId
  create : ∀ proposals operations operation operations',
    repository.createOperation proposals operations operation = .ok operations' →
    repository.Stores operations operation operations'
  createIfAbsent : ∀ proposals operations operation stored isNew operations',
    repository.createOperationIfAbsentByIdempotency proposals operations operation =
      .ok (stored, isNew, operations') →
    operations' = operations ∨ repository.Stores operations operation operations'
  update : ∀ proposals operations operation operations',
    repository.updateOperation proposals operations operation = .ok operations' →
    repository.Stores operations operation operations'

variable {repository} {operations operations' : T} {operation : ProposalAsyncOperationRecord}

theorem Stores.self (h : repository.Stores operations operation operations') :
    repository.getOperation operations' operation.operationId = some operation := by
  rw [h, if_pos rfl]

theorem Stores.other (h : repository.Stores operations operation operations') {operationId : String}
    (hne : operation.operationId ≠ operationId) :
    repository.getOperation operations' operationId =
      repository.getOperation operations operationId := by
  rw [h, if_neg hne]

end AsyncOperationRepository

/-- The dictionaries of the in-memory repository; the operations in the order of their insertion. -/
structure AsyncOperationDicts where
  operations : List ProposalAsyncOperationRecord
  operationByCorrelation : String → Option String
  operationByIdempotency : String → Option String

namespace AsyncOperationDicts

def empty : AsyncOperationDicts := ⟨[], fun _ => none, fun _ => none⟩

variable (store : AsyncOperationDicts)

def getOperation (operationId : String) : Option ProposalAsyncOperationRecord :=
  lookup ProposalAsyncOperationRecord.operationId store.operations operationId

def getOperationByCorrelation (correlationId : String) : Option ProposalAsyncOperationRecord :=
  (store.operationByCorrelation correlationId).bind store.getOperation

/-- `(a.created_at, a.operation_id) <= (b.created_at, b.operation_id)` -/
def CreatedBefore (a b : ProposalAsyncOperationRecord) : Prop :=
  a.createdAt.time.localMicroseconds < b.createdAt.time.localMicroseconds ∨
    a.createdAt.time.localMicroseconds = b.createdAt.time.localMicroseconds ∧
      a.operationId ≤ b.operationId

instance : DecidableRel CreatedBefore := fun a b => by
  unfold CreatedBefore
  infer_instance

def listRecoverableOperations (asOf : UtcDateTime) (limit : ℕ) :
    List ProposalAsyncOperationRecord :=
  ((store.operations.filter fun operation => operation.isRecoverable asOf).insertionSort
    CreatedBefore).take limit

def updateOperation (operation : ProposalAsyncOperationRecord) : AsyncOperationDicts where
  operations := upsert ProposalAsyncOperationRecord.operationId store.operations operation
  operationByCorrelation :=
    Function.update store.operationByCorrelation operation.correlationId operation.operationId
  operationByIdempotency :=
    (presentKey operation.idempotencyKey).elim store.operationByIdempotency fun key =>
      Function.update store.operationByIdempotency key operation.operationId

def createOperationIfAbsentByIdempotency (operation : ProposalAsyncOperationRecord) :
    ProposalAsyncOperationRecord × Bool × AsyncOperationDicts :=
  match ((presentKey operation.idempotencyKey).bind store.operationByIdempotency).bind
      store.getOperation with
  | some existing => (existing, false, store)
  | none => (operation, true, store.updateOperation operation)

end AsyncOperationDicts

def inMemoryAsyncOperations : AsyncOperationRepository InMemoryStore AsyncOperationDicts where
  getOperation store := store.getOperation
  getOperationByCorrelation store := store.getOperationByCorrelation
  listRecoverableOperations store := store.listRecoverableOperations
  createOperation _ store operation := .ok (store.updateOperation operation)
  createOperationIfAbsentByIdempotency _ store operation :=
    .ok (store.createOperationIfAbsentByIdempotency operation)
  updateOperation _ store operation := .ok (store.updateOperation operation)

theorem AsyncOperationDicts.lawful : inMemoryAsyncOperations.Lawful where
  keyed _ _ _ h := (lookup_some h).2
  create _ store operation _ h := by
    obtain rfl := Except.ok.inj h
    exact fun operationId => lookup_upsert operationId
  createIfAbsent _ store operation stored isNew _ h := by
    simp only [inMemoryAsyncOperations, createOperationIfAbsentByIdempotency, Except.ok.injEq] at h
    split at h
    · exact .inl (Prod.mk.inj (Prod.mk.inj h).2).2.symm
    · obtain rfl := (Prod.mk.inj (Prod.mk.inj h).2).2
      exact .inr fun operationId => lookup_upsert operationId
  update _ store operation _ h := by
    obtain rfl := Except.ok.inj h
    exact fun operationId => lookup_upsert operationId

/-- The table `proposal_async_operations`. -/
abbrev AsyncOperationTable := List ProposalAsyncOperationRecord

namespace AsyncOperationTable

variable (proposals : PostgresStore) (table : AsyncOperationTable)
  (operation : ProposalAsyncOperationRecord)

def getOperation (operationId : String) : Option ProposalAsyncOperationRecord :=
  lookup ProposalAsyncOperationRecord.operationId table operationId

def getOperationByCorrelation (correlationId : String) : Option ProposalAsyncOperationRecord :=
  lookup ProposalAsyncOperationRecord.correlationId table correlationId

/-- Leases are compared, and rows ordered, by the texts of the columns. -/
def listRecoverableOperations (collation : LinearOrder String) (asOf : UtcDateTime) (limit : ℕ) :
    List ProposalAsyncOperationRecord :=
  let leaseIsOver (lease : UtcDateTime) : Bool :=
    @decide _ (collation.toDecidableLE lease.isoformat asOf.isoformat)
  let recoverable := table.filter fun operation =>
    operation.status = .pending || operation.status = .running && operation.finishedAt = none &&
      operation.leaseExpiresAt.any leaseIsOver
  (orderBy collation (fun operation => operation.createdAt.isoformat)
    ProposalAsyncOperationRecord.operationId recoverable).take limit

/-- The constraints of the table that a row must meet beside its primary key. -/
def constraints : Except ProposalError Unit := do
  require (∀ row ∈ table, row.operationId ≠ operation.operationId →
    row.correlationId ≠ operation.correlationId)
    (.integrity "proposal_async_operations_correlation_id_key")
  require (∀ row ∈ table, row.operationId ≠ operation.operationId →
    row.idempotencyKey = none ∨ row.idempotencyKey ≠ operation.idempotencyKey)
    (.integrity "idx_proposal_async_operations_idempotency_key")
  require (∀ proposalId ∈ operation.proposalId, proposals.getProposal proposalId ≠ none)
    (.integrity "fk_proposal_async_operations_proposal")

def upsertOperation : Except ProposalError AsyncOperationTable := do
  constraints proposals table operation
  return upsert ProposalAsyncOperationRecord.operationId table operation

def createOperationIfAbsentByIdempotency :
    Except ProposalError (ProposalAsyncOperationRecord × Bool × AsyncOperationTable) :=
  match presentKey operation.idempotencyKey with
  | none => (upsertOperation proposals table operation).map fun table' => (operation, true, table')
  | some key =>
    match table.find? fun row => row.idempotencyKey = some key with
    | some stored => .ok (stored, stored.operationId = operation.operationId, table)
    | none => do
      require (getOperation table operation.operationId = none)
        (.integrity "proposal_async_operations_pkey")
      constraints proposals table operation
      return (operation, true, table ++ [operation])

end AsyncOperationTable

open AsyncOperationTable in
def postgresAsyncOperations (collation : LinearOrder String) :
    AsyncOperationRepository PostgresStore AsyncOperationTable where
  getOperation := getOperation
  getOperationByCorrelation := getOperationByCorrelation
  listRecoverableOperations table := listRecoverableOperations table collation
  createOperation := upsertOperation
  createOperationIfAbsentByIdempotency := createOperationIfAbsentByIdempotency
  updateOperation := upsertOperation

namespace AsyncOperationTable

theorem stores_of_upsertOperation {collation : LinearOrder String} {proposals : PostgresStore}
    {table table' : AsyncOperationTable} {operation : ProposalAsyncOperationRecord}
    (h : upsertOperation proposals table operation = .ok table') :
    (postgresAsyncOperations collation).Stores table operation table' := by
  obtain ⟨_, -, h⟩ := bind_eq_ok.mp h
  obtain rfl := Except.ok.inj h
  exact fun operationId => lookup_upsert operationId

theorem lawful (collation : LinearOrder String) : (postgresAsyncOperations collation).Lawful where
  keyed _ _ _ h := (lookup_some h).2
  create _ _ _ _ h := stores_of_upsertOperation h
  createIfAbsent proposals table operation stored isNew table' h := by
    simp only [postgresAsyncOperations, createOperationIfAbsentByIdempotency] at h
    split at h
    · obtain ⟨table'', hupsert, heq⟩ := map_eq_ok.mp h
      obtain rfl := (Prod.mk.inj (Prod.mk.inj heq).2).2
      exact .inr (stores_of_upsertOperation hupsert)
    split at h
    · exact .inl (Prod.mk.inj (Prod.mk.inj (Except.ok.inj h)).2).2.symm
    · obtain ⟨_, hfree, h⟩ := bind_eq_ok.mp h
      obtain ⟨_, -, h⟩ := bind_eq_ok.mp h
      obtain rfl := (Prod.mk.inj (Prod.mk.inj (Except.ok.inj h)).2).2
      have hnone : lookup ProposalAsyncOperationRecord.operationId table operation.operationId =
          none := require_eq_ok.mp hfree
      refine .inr fun operationId => ?_
      show lookup _ _ _ = if _ then _ else lookup _ _ _
      rw [lookup_append]
      split
      · next hid => rw [← hid, hnone, Option.none_or]
      · exact Option.or_none
  update _ _ _ _ h := stores_of_upsertOperation h

end AsyncOperationTable

end LotusAdvise.Proposals

import LotusAdvise.Foundations.Workers
import LotusAdvise.Proposals.AsyncControl
import LotusAdvise.Proposals.AsyncRepository

/-! # Workers on asynchronous operations

Submissions, executions, recovery and quarantine, each repository operation a step of its
own. A worker keeps the copy of the record it read, changes the copy and stores it as a
whole; what others stored meanwhile it does not see. A worker may crash at any step.
-/

namespace LotusAdvise.Proposals

open Workers

/-- How a call of an executor begins, and its steps on the proposals: a step may commit a write, and
goes on or ends the call. -/
structure AsyncExecutor (S X W I : Type) where
  start : ExecutorCall → X
  step : S → X → I → Option (S × Option W × (X ⊕ ExecutorOutcome))

/-- A record of the executor calls and of what each committed. -/
inductive AsyncJournalEntry (W : Type) where
  | called (operationId : String)
  | committed (operationId : String) (write : W)

structure AsyncStore (S T W : Type) where
  proposals : S
  operations : T
  journal : List (AsyncJournalEntry W) := []

inductive AsyncCall (X : Type) where
  | acceptCreateProposal (payload : ProposalCreateRequest) (idempotencyKey : Option String)
    (correlationId : Option String)
  | acceptCreateVersion (proposalId : String) (payload : ProposalVersionRequest)
    (correlationId : Option String)
  | runUntilTerminal (operationId : String) (call : ExecutorCall)
  | execute (kind : ProposalAsyncOperationType) (operationId : String) (fallback : AsyncFallback)
  | recover (maxOperations : ℕ)
  | quarantine (operationId : String) (principal : AsyncOperationControlPrincipal)
    (idempotencyKey reason : String)
  /-- A command of another caller, outside asynchronous execution. -/
  | command (x : X)

/-- What the worker does next. -/
inductive AsyncStage (X : Type) where
  | accepting (payload : ProposalCreateRequest) (idempotencyKey : Option String)
    (correlationId : Option String)
  | correlating (proposalId : String) (payload : ProposalVersionRequest)
    (correlationId : Option String)
  | submitting (proposalId : String) (payload : ProposalVersionRequest)
    (correlationId submissionHash : String)
  | accepted (answer : Except ProposalError (ProposalAsyncOperationRecord × Bool))
  | resolving (kind : ProposalAsyncOperationType) (operationId : String) (fallback : AsyncFallback)
  | reading (operationId : String) (call : ExecutorCall)
  | starting (operation : ProposalAsyncOperationRecord) (call : ExecutorCall)
  | running (operation : ProposalAsyncOperationRecord) (call : ExecutorCall) (x : X)
  | settling (operation : ProposalAsyncOperationRecord) (call : ExecutorCall)
    (outcome : ExecutorOutcome)
  | failing (operation : ProposalAsyncOperationRecord) (message : String)
  | listing (maxOperations : ℕ)
  | deciding (operationId : String) (principal : AsyncOperationControlPrincipal)
    (idempotencyKey reason : String)
  | quarantining (operation : ProposalAsyncOperationRecord)
    (decision : AsyncOperationControlDecision)
  | commanding (x : X)
  | ended

/-- A worker, and the operations a recovery has still to execute. -/
structure AsyncWorker (X : Type) where
  stage : AsyncStage X
  rest : List ProposalAsyncOperationRecord := []

/-- What a step takes from outside: whether the worker crashes, the clock, the identifiers it draws
and the executor's input. -/
structure AsyncInput (I : Type) where
  crash : Bool := false
  now : UtcDateTime
  operationId : String := ""
  correlationId : String := ""
  executor : I

/-- The correlation identifier of the caller, or a drawn one; it is normalized as keys are. -/
def resolveCorrelationId (correlationId : Option String) (drawn : String) : String :=
  (normalizeOptionalIdempotencyKey correlationId).getD drawn

def resolveRecoverableAsyncOperationKind (operation : ProposalAsyncOperationRecord) :
    Option ProposalAsyncOperationType :=
  match operation.operationType with
  | .createProposal => some .createProposal
  | .createProposalVersion => some .createProposalVersion

section Program

variable {S T X W I : Type} (services : AsyncServices) (repository : AsyncOperationRepository S T)
  (executor : AsyncExecutor S X W I)

def AsyncCall.start : AsyncCall X → AsyncWorker X
  | .acceptCreateProposal payload idempotencyKey correlationId =>
    ⟨.accepting payload idempotencyKey correlationId, []⟩
  | .acceptCreateVersion proposalId payload correlationId =>
    ⟨.correlating proposalId payload correlationId, []⟩
  | .runUntilTerminal operationId call => ⟨.reading operationId call, []⟩
  | .execute kind operationId fallback => ⟨.resolving kind operationId fallback, []⟩
  | .recover maxOperations => ⟨.listing maxOperations, []⟩
  | .quarantine operationId principal idempotencyKey reason =>
    ⟨.deciding operationId principal idempotencyKey reason, []⟩
  | .command x => ⟨.commanding x, []⟩

/-- A recovery goes on with the next operation of its list. -/
def AsyncWorker.recovering : List ProposalAsyncOperationRecord → AsyncWorker X
  | [] => ⟨.ended, []⟩
  | operation :: rest =>
    match resolveRecoverableAsyncOperationKind operation with
    | some kind => ⟨.resolving kind operation.operationId {}, rest⟩
    | none => ⟨.failing operation "PROPOSAL_ASYNC_OPERATION_TYPE_UNSUPPORTED", rest⟩

def AsyncWorker.ended : AsyncWorker X := ⟨.ended, []⟩

/-- The whole record is stored; a write that is refused ends the worker. -/
def AsyncStore.update (store : AsyncStore S T W) (operation : ProposalAsyncOperationRecord)
    (next : AsyncWorker X) : AsyncStore S T W × AsyncWorker X :=
  match repository.updateOperation store.proposals store.operations operation with
  | .error _ => (store, .ended)
  | .ok operations => ({ store with operations }, next)

/-- `persist_create_proposal_async_submission` -/
def acceptCreateProposal (store : AsyncStore S T W) (operation : ProposalAsyncOperationRecord)
    (idempotencyKey submissionHash : String) : AsyncStore S T W × AsyncWorker X :=
  match repository.createOperationIfAbsentByIdempotency store.proposals store.operations
    operation with
  | .error error => (store, ⟨.accepted (.error error), []⟩)
  | .ok (stored, isNew, operations) =>
    if isNew ∨ isMatchingCreateProposalAsyncSubmission stored idempotencyKey submissionHash then
      ({ store with operations }, ⟨.accepted (.ok (stored, isNew)), []⟩)
    else
      ({ store with operations }, ⟨.accepted (.error (.idempotencyConflict
        "IDEMPOTENCY_KEY_CONFLICT: async submission hash mismatch")), []⟩)

/-- The answer to a version submission whose correlation identifier is known already. -/
def answerKnownCorrelation (existing : ProposalAsyncOperationRecord)
    (proposalId submissionHash : String) : Except ProposalError (ProposalAsyncOperationRecord × Bool) :=
  if isMatchingCreateVersionAsyncSubmission existing proposalId submissionHash then
    .ok (existing, false)
  else .error (.idempotencyConflict "CORRELATION_ID_CONFLICT: async version submission mismatch")

/-- `_should_stop_before_attempt`, up to the write of an exhausted operation. -/
def afterReading (operation : Option ProposalAsyncOperationRecord) (call : ExecutorCall)
    (rest : List ProposalAsyncOperationRecord) : AsyncWorker X :=
  match operation with
  | none => .recovering rest
  | some operation =>
    if operation.isTerminal then .recovering rest
    else if operation.hasExhaustedAsyncAttempts then
      ⟨.failing operation "PROPOSAL_ASYNC_ATTEMPTS_EXHAUSTED", rest⟩
    else ⟨.starting operation call, rest⟩

def afterExecutor (operation : ProposalAsyncOperationRecord) (call : ExecutorCall)
    (rest : List ProposalAsyncOperationRecord) : X ⊕ ExecutorOutcome → AsyncWorker X
  | .inl x => ⟨.running operation call x, rest⟩
  | .inr outcome => ⟨.settling operation call outcome, rest⟩

def afterSettling (operation : ProposalAsyncOperationRecord) (call : ExecutorCall)
    (rest : List ProposalAsyncOperationRecord) (outcome : ExecutorOutcome) : AsyncWorker X :=
  if operation.Requeues outcome then ⟨.reading operation.operationId call, rest⟩
  else .recovering rest

def afterDeciding (operation : ProposalAsyncOperationRecord)
    (decision : AsyncOperationControlDecision) : AsyncWorker X :=
  if decision.allowed ∧ ¬ decision.idempotentNoop then ⟨.quarantining operation decision, []⟩
  else .ended

/-- The next step of a worker that does not crash. Identifiers are drawn new. -/
def stepAsyncStage (store : AsyncStore S T W) (rest : List ProposalAsyncOperationRecord)
    (input : AsyncInput I) : AsyncStage X → Option (AsyncStore S T W × AsyncWorker X)
  | .accepting payload idempotencyKey correlationId =>
    match requireProposalIdempotencyKey idempotencyKey,
      hashAsyncCreateSubmission services payload with
    | .ok key, .ok submissionHash =>
      if repository.getOperation store.operations input.operationId = none then
        some (acceptCreateProposal repository store
          (buildCreateProposalAsyncOperation input.operationId
            (resolveCorrelationId correlationId input.correlationId) key payload submissionHash
            input.now asyncDefaultMaxAttempts) key submissionHash)
      else none
    | _, _ => some (store, .ended)
  | .correlating proposalId payload correlationId =>
    match hashAsyncVersionSubmission services proposalId payload with
    | .error _ => some (store, .ended)
    | .ok submissionHash =>
      some (store, match repository.getOperationByCorrelation store.operations
          (resolveCorrelationId correlationId input.correlationId) with
        | some existing =>
          ⟨.accepted (answerKnownCorrelation existing proposalId submissionHash), []⟩
        | none => ⟨.submitting proposalId payload
            (resolveCorrelationId correlationId input.correlationId) submissionHash, []⟩)
  | .submitting proposalId payload correlationId submissionHash =>
    let operation := buildCreateVersionAsyncOperation input.operationId proposalId correlationId
      payload submissionHash input.now asyncDefaultMaxAttempts
    if repository.getOperation store.operations input.operationId = none then
      some (match repository.createOperation store.proposals store.operations operation with
        | .error error => (store, ⟨.accepted (.error error), []⟩)
        | .ok operations =>
          ({ store with operations }, ⟨.accepted (.ok (operation, true)), []⟩))
    else none
  | .accepted _ => none
  | .resolving kind operationId fallback =>
    some (store, match repository.getOperation store.operations operationId with
      | none => .recovering rest
      | some operation =>
        match resolveAsyncCall services operation fallback kind with
        | .error failure => ⟨.failing operation failure.message, rest⟩
        | .ok call => ⟨.reading operationId call, rest⟩)
  | .reading operationId call =>
    some (store, afterReading (repository.getOperation store.operations operationId) call rest)
  | .starting operation call =>
    some (match operation.beginAsyncAttempt input.now asyncOperationLeaseSeconds with
      | none => (store, .ended)
      | some attempt =>
        match repository.updateOperation store.proposals store.operations attempt with
        | .error _ => (store, .ended)
        | .ok operations =>
          ({ store with
              operations
              journal := store.journal ++ [.called operation.operationId] },
            ⟨.running attempt call (executor.start call), rest⟩))
  | .running operation call x =>
    (executor.step store.proposals x input.executor).map fun (proposals, write, next) =>
      ({ store with
          proposals
          journal := store.journal ++ write.toList.map (.committed operation.operationId) },
        afterExecutor operation call rest next)
  | .settling operation call outcome =>
    some (store.update repository (operation.settled input.now outcome)
      (afterSettling operation call rest outcome))
  | .failing operation message =>
    some (store.update repository
      (operation.markOperationFailed "ProposalLifecycleError" message input.now) (.recovering rest))
  | .listing maxOperations =>
    some (store, .recovering
      (repository.listRecoverableOperations store.operations input.now maxOperations))
  | .deciding operationId principal idempotencyKey reason =>
    some (store, match repository.getOperation store.operations operationId with
      | none => .ended
      | some operation =>
        afterDeciding operation (evaluateAsyncOperationControl services operation principal
          input.now idempotencyKey reason .quarantine))
  | .quarantining operation decision =>
    some (store.update repository (buildQuarantinedAsyncOperation operation decision input.now)
      .ended)
  | .commanding x =>
    (executor.step store.proposals x input.executor).map fun (proposals, _, next) =>
      ({ store with proposals }, ⟨next.elim .commanding fun _ => .ended, []⟩)
  | .ended => none

def stepAsyncWorker (store : AsyncStore S T W) (worker : AsyncWorker X) (input : AsyncInput I) :
    Option (AsyncStore S T W × AsyncWorker X) :=
  if input.crash then some (store, .ended)
  else stepAsyncStage services repository executor store worker.rest input worker.stage

def asyncWorkers : Program (AsyncStore S T W) (AsyncWorker X) (AsyncCall X) (AsyncInput I) where
  start := AsyncCall.start
  step := stepAsyncWorker services repository executor

end Program

/-- A new operation, as a submission builds it: not attempted yet, and a creation has its key in the
payload, so that no caller's key replaces it. -/
structure Submitted (operation : ProposalAsyncOperationRecord) : Prop where
  status : operation.status = .pending
  attemptCount : operation.attemptCount = 0
  key : operation.operationType = .createProposal →
    ∃ key, ∀ fallback, asyncIdempotencyKey operation fallback = some key

section Step

variable {S T X W I : Type} {services : AsyncServices} {repository : AsyncOperationRepository S T}
  {executor : AsyncExecutor S X W I}

variable (services repository executor) in
/-- Everything one step of a worker can be. -/
inductive AsyncStep (store : AsyncStore S T W) (input : AsyncInput I)
    (rest : List ProposalAsyncOperationRecord) :
    AsyncStage X → AsyncStore S T W → AsyncWorker X → Prop where
  | ends {stage : AsyncStage X} : AsyncStep store input rest stage store .ended
  | answers {stage : AsyncStage X} (answer : Except ProposalError (ProposalAsyncOperationRecord × Bool)) :
    AsyncStep store input rest stage store ⟨.accepted answer, []⟩
  | submits {stage : AsyncStage X} (operation : ProposalAsyncOperationRecord) (operations : T)
    (answer : Except ProposalError (ProposalAsyncOperationRecord × Bool))
    (submitted : Submitted operation)
    (new : repository.getOperation store.operations operation.operationId = none)
    (stores : repository.Stores store.operations operation operations) :
    AsyncStep store input rest stage { store with operations } ⟨.accepted answer, []⟩
  | correlates {proposalId : String} {payload : ProposalVersionRequest} {id : Option String}
    (correlationId submissionHash : String) :
    AsyncStep store input rest (.correlating proposalId payload id) store
      ⟨.submitting proposalId payload correlationId submissionHash, []⟩
  | recovers {stage : AsyncStage X} (list : List ProposalAsyncOperationRecord) :
    AsyncStep store input rest stage store (.recovering list)
  | refuses {kind : ProposalAsyncOperationType} {operationId : String} {fallback : AsyncFallback}
    (operation : ProposalAsyncOperationRecord) (failure : AsyncPayloadResolutionFailure)
    (found : repository.getOperation store.operations operationId = some operation) :
    AsyncStep store input rest (.resolving kind operationId fallback) store
      ⟨.failing operation failure.message, rest⟩
  | resolves {kind : ProposalAsyncOperationType} {operationId : String} {fallback : AsyncFallback}
    (operation : ProposalAsyncOperationRecord) (call : ExecutorCall)
    (found : repository.getOperation store.operations operationId = some operation)
    (resolved : resolveAsyncCall services operation fallback kind = .ok call) :
    AsyncStep store input rest (.resolving kind operationId fallback) store
      ⟨.reading operationId call, rest⟩
  | exhausts {operationId : String} {call : ExecutorCall} (operation : ProposalAsyncOperationRecord)
    (found : repository.getOperation store.operations operationId = some operation)
    (open_ : operation.isTerminal = false) :
    AsyncStep store input rest (.reading operationId call) store
      ⟨.failing operation "PROPOSAL_ASYNC_ATTEMPTS_EXHAUSTED", rest⟩
  | prepares {operationId : String} {call : ExecutorCall} (operation : ProposalAsyncOperationRecord)
    (found : repository.getOperation store.operations operationId = some operation)
    (open_ : operation.isTerminal = false)
    (left : operation.attemptCount < operation.maxAttempts) :
    AsyncStep store input rest (.reading operationId call) store ⟨.starting operation call, rest⟩
  | starts {operation : ProposalAsyncOperationRecord} {call : ExecutorCall}
    (attempt : ProposalAsyncOperationRecord) (operations : T)
    (began : operation.beginAsyncAttempt input.now asyncOperationLeaseSeconds = some attempt)
    (stores : repository.Stores store.operations attempt operations) :
    AsyncStep store input rest (.starting operation call)
      { store with operations, journal := store.journal ++ [.called operation.operationId] }
      ⟨.running attempt call (executor.start call), rest⟩
  | executes {operation : ProposalAsyncOperationRecord} {call : ExecutorCall} {x : X}
    (proposals : S) (write : Option W) (next : X ⊕ ExecutorOutcome)
    (step : executor.step store.proposals x input.executor = some (proposals, write, next)) :
    AsyncStep store input rest (.running operation call x)
      { store with
        proposals
        journal := store.journal ++ write.toList.map (.committed operation.operationId) }
      (afterExecutor operation call rest next)
  | settles {operation : ProposalAsyncOperationRecord} {call : ExecutorCall}
    {outcome : ExecutorOutcome} (operations : T)
    (stores : repository.Stores store.operations (operation.settled input.now outcome) operations) :
    AsyncStep store input rest (.settling operation call outcome) { store with operations }
      (afterSettling operation call rest outcome)
  | fails {operation : ProposalAsyncOperationRecord} {message : String} (operations : T)
    (stores : repository.Stores store.operations
      (operation.markOperationFailed "ProposalLifecycleError" message input.now) operations) :
    AsyncStep store input rest (.failing operation message) { store with operations }
      (.recovering rest)
  | decides {operationId : String} {principal : AsyncOperationControlPrincipal}
    {idempotencyKey reason : String} (operation : ProposalAsyncOperationRecord)
    (decision : AsyncOperationControlDecision)
    (found : repository.getOperation store.operations operationId = some operation)
    (effective : decision.idempotentNoop = false)
    (status : classifyAsyncOperationForControl operation input.now ∈
      [AsyncOperationControlStatus.pending, .recoverableStuck, .retryExhausted]) :
    AsyncStep store input rest (.deciding operationId principal idempotencyKey reason) store
      ⟨.quarantining operation decision, []⟩
  | quarantines {operation : ProposalAsyncOperationRecord}
    {decision : AsyncOperationControlDecision} (operations : T)
    (stores : repository.Stores store.operations
      (buildQuarantinedAsyncOperation operation decision input.now) operations) :
    AsyncStep store input rest (.quarantining operation decision) { store with operations } .ended
  | commands {x : X} (proposals : S) (write : Option W) (next : X ⊕ ExecutorOutcome)
    (step : executor.step store.proposals x input.executor = some (proposals, write, next)) :
    AsyncStep store input rest (.commanding x) { store with proposals }
      ⟨next.elim .commanding fun _ => .ended, []⟩

variable {store store' : AsyncStore S T W} {worker worker' : AsyncWorker X} {input : AsyncInput I}
  {rest : List ProposalAsyncOperationRecord} {operation : ProposalAsyncOperationRecord}

theorem submitted_create {operationId correlationId idempotencyKey submissionHash : String}
    {payload : ProposalCreateRequest} {createdAt : UtcDateTime} {maxAttempts : ℕ+}
    {raw : Option String} (hkey : requireProposalIdempotencyKey raw = .ok idempotencyKey) :
    Submitted (buildCreateProposalAsyncOperation operationId correlationId idempotencyKey payload
      submissionHash createdAt maxAttempts) where
  status := rfl
  attemptCount := rfl
  key _ := by
    have hstrip : Text.strip idempotencyKey ≠ "" := strip_ne_empty_of_require hkey
    refine ⟨Text.strip idempotencyKey, fun fallback => ?_⟩
    show firstNonBlankString (.str idempotencyKey :: _) = _
    rw [firstNonBlankString, if_neg hstrip]

theorem submitted_version {operationId proposalId correlationId submissionHash : String}
    {payload : ProposalVersionRequest} {createdAt : UtcDateTime} {maxAttempts : ℕ+} :
    Submitted (buildCreateVersionAsyncOperation operationId proposalId correlationId payload
      submissionHash createdAt maxAttempts) where
  status := rfl
  attemptCount := rfl
  key h := by cases h

/-- A write is refused, and ends the worker, or stores the record. -/
theorem update_cases (laws : repository.Lawful) (next : AsyncWorker X) :
    store.update repository operation next = (store, .ended) ∨
      ∃ operations, repository.Stores store.operations operation operations ∧
        store.update repository operation next = ({ store with operations }, next) := by
  unfold AsyncStore.update
  rcases h : repository.updateOperation store.proposals store.operations operation with e | operations
  · exact .inl rfl
  · exact .inr ⟨operations, laws.update _ _ _ _ h, rfl⟩

theorem acceptCreateProposal_cases (laws : repository.Lawful) {idempotencyKey submissionHash : String} :
    ∃ answer, (acceptCreateProposal repository store operation idempotencyKey submissionHash :
        AsyncStore S T W × AsyncWorker X) = (store, ⟨.accepted answer, []⟩) ∨
      ∃ operations, repository.Stores store.operations operation operations ∧
        (acceptCreateProposal repository store operation idempotencyKey submissionHash :
          AsyncStore S T W × AsyncWorker X) = ({ store with operations }, ⟨.accepted answer, []⟩) := by
  unfold acceptCreateProposal
  rcases h : repository.createOperationIfAbsentByIdempotency store.proposals store.operations
    operation with e | ⟨stored, isNew, operations⟩
  · exact ⟨_, .inl rfl⟩
  · have hstores := laws.createIfAbsent _ _ _ _ _ _ h
    simp only
    split
    · rcases hstores with rfl | hstores
      · exact ⟨_, .inl rfl⟩
      · exact ⟨_, .inr ⟨operations, hstores, rfl⟩⟩
    · rcases hstores with rfl | hstores
      · exact ⟨_, .inl rfl⟩
      · exact ⟨_, .inr ⟨operations, hstores, rfl⟩⟩

theorem asyncStep_of_stage (laws : repository.Lawful) {stage : AsyncStage X}
    (h : stepAsyncStage services repository executor store rest input stage =
      some (store', worker')) :
    AsyncStep services repository executor store input rest stage store' worker' := by
  cases stage with
  | accepting payload idempotencyKey correlationId =>
    simp only [stepAsyncStage] at h
    split at h
    · next key submissionHash hkey _ =>
      split at h
      · next hnew =>
        obtain ⟨answer, heq | ⟨operations, hstores, heq⟩⟩ := acceptCreateProposal_cases laws
        · rw [heq] at h
          obtain ⟨rfl, rfl⟩ := Prod.mk.inj (Option.some.inj h)
          exact .answers answer
        · rw [heq] at h
          obtain ⟨rfl, rfl⟩ := Prod.mk.inj (Option.some.inj h)
          exact .submits _ operations answer (submitted_create hkey) hnew hstores
      · cases h
    · obtain ⟨rfl, rfl⟩ := Prod.mk.inj (Option.some.inj h)
      exact .ends
  | correlating proposalId payload correlationId =>
    simp only [stepAsyncStage] at h
    split at h
    · obtain ⟨rfl, rfl⟩ := Prod.mk.inj (Option.some.inj h)
      exact .ends
    · obtain ⟨rfl, rfl⟩ := Prod.mk.inj (Option.some.inj h)
      split
      · exact .answers _
      · exact .correlates _ _
  | submitting proposalId payload correlationId submissionHash =>
    simp only [stepAsyncStage] at h
    split at h
    · next hnew =>
      split at h
      · obtain ⟨rfl, rfl⟩ := Prod.mk.inj (Option.some.inj h)
        exact .answers _
      · next operations hcreate =>
        obtain ⟨rfl, rfl⟩ := Prod.mk.inj (Option.some.inj h)
        exact .submits _ operations _ submitted_version hnew (laws.create _ _ _ _ hcreate)
    · cases h
  | accepted => cases h
  | resolving kind operationId fallback =>
    obtain ⟨rfl, rfl⟩ := Prod.mk.inj (Option.some.inj h)
    split
    · exact .recovers rest
    · next operation hfound =>
      split
      · next failure _ => exact .refuses operation failure hfound
      · next call hresolved => exact .resolves operation call hfound hresolved
  | reading operationId call =>
    obtain ⟨rfl, rfl⟩ := Prod.mk.inj (Option.some.inj h)
    rcases hfound : repository.getOperation store.operations operationId with _ | operation
    · exact .recovers rest
    · simp only [afterReading]
      split
      · exact .recovers rest
      · next hopen =>
        split
        · exact .exhausts operation hfound (by simpa using hopen)
        · next hleft =>
          refine .prepares operation hfound (by simpa using hopen) ?_
          rw [ProposalAsyncOperationRecord.hasExhaustedAsyncAttempts_iff] at hleft
          omega
  | starting operation call =>
    simp only [stepAsyncStage, Option.some.injEq] at h
    split at h
    · obtain ⟨rfl, rfl⟩ := Prod.mk.inj h
      exact .ends
    · next attempt hattempt =>
      split at h
      · obtain ⟨rfl, rfl⟩ := Prod.mk.inj h
        exact .ends
      · next operations hupdate =>
        obtain ⟨rfl, rfl⟩ := Prod.mk.inj h
        exact .starts attempt operations hattempt (laws.update _ _ _ _ hupdate)
  | running operation call x =>
    obtain ⟨⟨proposals, write, next⟩, hstep, heq⟩ := Option.map_eq_some_iff.mp h
    obtain ⟨rfl, rfl⟩ := Prod.mk.inj heq
    exact .executes proposals write next hstep
  | settling operation call outcome =>
    have heq := Option.some.inj h
    rcases update_cases laws (afterSettling operation call rest outcome) with hends | ⟨operations, hstores, hupdate⟩
    · rw [hends] at heq
      obtain ⟨rfl, rfl⟩ := Prod.mk.inj heq
      exact .ends
    · rw [hupdate] at heq
      obtain ⟨rfl, rfl⟩ := Prod.mk.inj heq
      exact .settles operations hstores
  | failing operation message =>
    have heq := Option.some.inj h
    rcases update_cases laws (.recovering rest) with hends | ⟨operations, hstores, hupdate⟩
    · rw [hends] at heq
      obtain ⟨rfl, rfl⟩ := Prod.mk.inj heq
      exact .ends
    · rw [hupdate] at heq
      obtain ⟨rfl, rfl⟩ := Prod.mk.inj heq
      exact .fails operations hstores
  | listing maxOperations =>
    obtain ⟨rfl, rfl⟩ := Prod.mk.inj (Option.some.inj h)
    exact .recovers _
  | deciding operationId principal idempotencyKey reason =>
    obtain ⟨rfl, rfl⟩ := Prod.mk.inj (Option.some.inj h)
    split
    · exact .ends
    · next operation hfound =>
      unfold afterDeciding
      split
      · next heffective =>
        have hnoop := Bool.eq_false_iff.mpr heffective.2
        exact .decides operation _ hfound hnoop (quarantine_effective heffective.1 hnoop)
      · exact .ends
  | quarantining operation decision =>
    have heq := Option.some.inj h
    rcases update_cases laws .ended with hends | ⟨operations, hstores, hupdate⟩
    · rw [hends] at heq
      obtain ⟨rfl, rfl⟩ := Prod.mk.inj heq
      exact .ends
    · rw [hupdate] at heq
      obtain ⟨rfl, rfl⟩ := Prod.mk.inj heq
      exact .quarantines operations hstores
  | commanding x =>
    obtain ⟨⟨proposals, write, next⟩, hstep, heq⟩ := Option.map_eq_some_iff.mp h
    obtain ⟨rfl, rfl⟩ := Prod.mk.inj heq
    exact .commands proposals write next hstep
  | ended => cases h

theorem asyncStep_of_step (laws : repository.Lawful)
    (h : (asyncWorkers services repository executor).step store worker input =
      some (store', worker')) :
    AsyncStep services repository executor store input worker.rest worker.stage store' worker' := by
  simp only [asyncWorkers, stepAsyncWorker] at h
  split at h
  · obtain ⟨rfl, rfl⟩ := Prod.mk.inj (Option.some.inj h)
    exact .ends
  · exact asyncStep_of_stage laws h

/-- The record of which a worker holds a copy. -/
def AsyncStage.copy? : AsyncStage X → Option ProposalAsyncOperationRecord
  | .starting operation _ => some operation
  | .running operation _ _ => some operation
  | .settling operation _ _ => some operation
  | .failing operation _ => some operation
  | .quarantining operation _ => some operation
  | _ => none

@[simp] theorem copy?_recovering (list : List ProposalAsyncOperationRecord) :
    (AsyncWorker.recovering list : AsyncWorker X).stage.copy? = none := by
  cases list with
  | nil => rfl
  | cons operation rest =>
    simp only [AsyncWorker.recovering, resolveRecoverableAsyncOperationKind]
    cases operation.operationType <;> rfl

/-- A step stores nothing, or a new operation, or a record made of the worker's copy. -/
theorem stores_of_step {stage : AsyncStage X}
    (h : AsyncStep services repository executor store input rest stage store' worker') :
    store'.operations = store.operations ∨
      ∃ record, repository.Stores store.operations record store'.operations ∧
        (Submitted record ∧ repository.getOperation store.operations record.operationId = none ∨
          ∃ copy ∈ stage.copy?, record.submission = copy.submission) := by
  cases h with
  | submits operation operations answer submitted new stores =>
    exact .inr ⟨operation, stores, .inl ⟨submitted, new⟩⟩
  | @starts operation call attempt operations began stores =>
    obtain ⟨hsubmission, -⟩ := ProposalAsyncOperationRecord.beginAsyncAttempt_eq_some began
    exact .inr ⟨attempt, stores, .inr ⟨operation, rfl, hsubmission⟩⟩
  | @settles operation call outcome operations stores =>
    exact .inr ⟨_, stores, .inr
      ⟨operation, rfl, ProposalAsyncOperationRecord.submission_settled⟩⟩
  | @fails operation message operations stores =>
    exact .inr ⟨_, stores, .inr ⟨operation, rfl, rfl⟩⟩
  | @quarantines operation decision operations stores =>
    exact .inr ⟨_, stores, .inr ⟨operation, rfl, submission_buildQuarantined⟩⟩
  | _ => exact .inl rfl

/-- The copy of a worker after a step is one it held before, or was read just now. -/
theorem copy_of_step {stage : AsyncStage X}
    (h : AsyncStep services repository executor store input rest stage store' worker')
    {copy : ProposalAsyncOperationRecord} (hcopy : copy ∈ worker'.stage.copy?) :
    (∃ operationId, repository.getOperation store.operations operationId = some copy ∧
      store'.operations = store.operations) ∨
      ∃ before ∈ stage.copy?, copy.submission = before.submission := by
  cases h with
  | refuses operation failure found =>
    obtain rfl := Option.some.inj hcopy
    exact .inl ⟨_, found, rfl⟩
  | exhausts operation found =>
    obtain rfl := Option.some.inj hcopy
    exact .inl ⟨_, found, rfl⟩
  | prepares operation found =>
    obtain rfl := Option.some.inj hcopy
    exact .inl ⟨_, found, rfl⟩
  | decides operation decision found =>
    obtain rfl := Option.some.inj hcopy
    exact .inl ⟨_, found, rfl⟩
  | @starts operation call attempt operations began stores =>
    obtain rfl := Option.some.inj hcopy
    exact .inr ⟨operation, rfl,
      (ProposalAsyncOperationRecord.beginAsyncAttempt_eq_some began).1⟩
  | @executes operation call x proposals write next step =>
    cases next <;> exact .inr ⟨copy, hcopy, rfl⟩
  | @settles operation call outcome operations stores =>
    unfold afterSettling at hcopy
    split at hcopy
    · cases hcopy
    · rw [copy?_recovering] at hcopy
      cases hcopy
  | recovers => 
    rw [copy?_recovering] at hcopy
    cases hcopy
  | fails => 
    rw [copy?_recovering] at hcopy
    cases hcopy
  | commands proposals write next => cases next <;> cases hcopy
  | _ => cases hcopy

variable (repository) in
/-- What a worker has a copy of is stored, as it was submitted. -/
def CopyStored (store : AsyncStore S T W) (stage : AsyncStage X) : Prop :=
  ∀ copy ∈ stage.copy?, ∃ stored, repository.getOperation store.operations copy.operationId =
    some stored ∧ stored.submission = copy.submission

/-- Stored operations stay what was submitted. -/
theorem submission_kept (laws : repository.Lawful) {stage : AsyncStage X}
    (hcopy : CopyStored repository store stage)
    (h : AsyncStep services repository executor store input rest stage store' worker')
    {operationId : String} (hfound : repository.getOperation store.operations operationId =
      some operation) :
    ∃ operation', repository.getOperation store'.operations operationId = some operation' ∧
      operation'.submission = operation.submission := by
  rcases stores_of_step h with hsame | ⟨record, hstores, horigin⟩
  · exact ⟨operation, hsame ▸ hfound, rfl⟩
  by_cases hid : record.operationId = operationId
  · refine ⟨record, hid ▸ hstores.self, ?_⟩
    rcases horigin with ⟨-, hnew⟩ | ⟨copy, hmem, hsubmission⟩
    · rw [hid, hfound] at hnew
      cases hnew
    · obtain ⟨stored, hstored, hsame⟩ := hcopy copy hmem
      have hcopyId := ProposalAsyncOperationRecord.operationId_of_submission hsubmission
      rw [← hcopyId, hid, hfound] at hstored
      rw [hsubmission, ← hsame, Option.some.inj hstored]
  · exact ⟨operation, (hstores.other hid).trans hfound, rfl⟩

theorem copyStored_stable (laws : repository.Lawful) {stage other : AsyncStage X}
    (hcopy : CopyStored repository store stage)
    (h : AsyncStep services repository executor store input rest stage store' worker')
    (hother : CopyStored repository store other) : CopyStored repository store' other := by
  intro copy hmem
  obtain ⟨stored, hstored, hsubmission⟩ := hother copy hmem
  obtain ⟨later, hlater, hkept⟩ := submission_kept laws hcopy h hstored
  exact ⟨later, hlater, hkept.trans hsubmission⟩

theorem copyStored_step (laws : repository.Lawful) {stage : AsyncStage X}
    (hcopy : CopyStored repository store stage)
    (h : AsyncStep services repository executor store input rest stage store' worker') :
    CopyStored repository store' worker'.stage := by
  intro copy hmem
  rcases copy_of_step h hmem with ⟨operationId, hfound, hsame⟩ | ⟨before, hbefore, hsubmission⟩
  · refine ⟨copy, ?_, rfl⟩
    rw [hsame, laws.keyed _ _ _ hfound, hfound]
  · obtain ⟨stored, hstored, hstoredAs⟩ := copyStored_stable laws hcopy h hcopy before hbefore
    rw [ProposalAsyncOperationRecord.operationId_of_submission hsubmission]
    exact ⟨stored, hstored, hstoredAs.trans hsubmission.symm⟩

/-- At any time, what a worker has a copy of is stored. -/
theorem copies_outline (laws : repository.Lawful) :
    (asyncWorkers services repository executor).Outline (fun _ => True)
      (fun _ store worker => CopyStored repository store worker.stage) (fun _ _ _ => True) where
  start _ _ call _ := by cases call <;> exact fun _ h => by cases h
  step _ _ _ _ _ _ _ hcopy _ h := ⟨trivial, copyStored_step laws hcopy (asyncStep_of_step laws h)⟩
  stable _ _ _ _ _ _ _ _ _ hcopy _ h hother :=
    copyStored_stable laws hcopy (asyncStep_of_step laws h) hother

end Step

namespace Sample

def asyncServices : AsyncServices where
  toServices := services
  validateCreateRequest dump := some ⟨"advisor_1", dump⟩
  validateVersionRequest dump := some ⟨"advisor_1", none, dump⟩
  createDumpExcludingNone payload := payload.dump
  versionDumpExcludingNone payload := payload.dump
  dumpCreateResponse response := [("proposal_id", .str response.proposal.proposalId)]
  describeException _ := ("RuntimeError", "")

def utcClock (minute : ℕ) : UtcDateTime := ⟨clock minute, clock_utc minute⟩

/-- An executor whose calls end at once, with the outcome they are given. -/
def scripted : AsyncExecutor InMemoryStore Unit Unit ExecutorOutcome where
  start _ := ()
  step proposals _ outcome := some (proposals, none, .inr outcome)

def asyncRuns : Program (AsyncStore InMemoryStore AsyncOperationDicts Unit) (AsyncWorker Unit)
    (AsyncCall Unit) (AsyncInput ExecutorOutcome) :=
  asyncWorkers asyncServices inMemoryAsyncOperations scripted

def noOperations : Pool (AsyncStore InMemoryStore AsyncOperationDicts Unit) (AsyncWorker Unit) :=
  .initial ⟨.empty, .empty, []⟩

/-- Worker `i` takes a step in the given minute; an executor it runs ends with the outcome. -/
def stepAt (i minute : ℕ) (executor : ExecutorOutcome) :
    Label (AsyncCall Unit) (AsyncInput ExecutorOutcome) :=
  .advance i
    { now := utcClock minute, operationId := "pop_000", correlationId := "corr_000", executor }

/-- A creation is submitted by worker 0 and executed by worker `i`, up to its first read. -/
def submitThenExecute (i : ℕ) : List (Label (AsyncCall Unit) (AsyncInput ExecutorOutcome)) :=
  [.start 0 (.acceptCreateProposal ⟨"advisor_1", [("created_by", .str "advisor_1")]⟩
      (some "key-1") none),
    stepAt 0 0 (.exception "" ""),
    .start i (.execute .createProposal "pop_000" {}),
    stepAt i 1 (.exception "" "")]

def operator : AsyncOperationControlPrincipal where
  actorId := "ops_1"
  role := "OPERATIONS"
  serviceIdentity := "support-console"
  capabilities := [asyncOperationControlCapability]
  active := true

end Sample

end LotusAdvise.Proposals

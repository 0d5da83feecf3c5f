import LotusAdvise.Proposals.AsyncWorkers

/-! # Leases and attempts

An attempt takes a lease, but the guard before an attempt looks at the status and the count
that an earlier step has read, and never at the lease. Executor calls exclude each other, and
stay within the attempts of the operation, when every attempt begins from the record that
is still stored and not leased, and is put back over its own record only.
-/

namespace LotusAdvise.Proposals

open Runs Workers

variable {S T X W I : Type} {services : AsyncServices} {repository : AsyncOperationRepository S T}
  {executor : AsyncExecutor S X W I} {store : AsyncStore S T W}
  {pool pool' : Pool (AsyncStore S T W) (AsyncWorker X)} {operationId : String}

/-- The attempt whose executor call a worker is in. -/
def AsyncStage.executing? : AsyncStage X → Option ProposalAsyncOperationRecord
  | .running attempt _ _ => some attempt
  | _ => none

/-- The operation a worker executes. -/
def AsyncWorker.executingId? (worker : AsyncWorker X) : Option String :=
  worker.stage.executing?.map ProposalAsyncOperationRecord.operationId

/-- The attempt a worker has begun and not settled. -/
def AsyncStage.attempt? : AsyncStage X → Option ProposalAsyncOperationRecord
  | .running attempt _ _ => some attempt
  | .settling attempt _ _ => some attempt
  | _ => none

def AsyncJournalEntry.isCall (operationId : String) : AsyncJournalEntry W → Bool
  | .called id => id = operationId
  | .committed _ _ => false

/-- The executor calls of an operation so far. -/
def executorCalls (store : AsyncStore S T W) (operationId : String) : ℕ :=
  store.journal.countP (AsyncJournalEntry.isCall operationId)

/-- A step is taken while the lease of the worker's executor call lasts. -/
def LeaseLasts (_ : Pool (AsyncStore S T W) (AsyncWorker X)) :
    Label (AsyncCall X) (AsyncInput I) → AsyncWorker X → Prop
  | .start _ _, _ => True
  | .advance _ input, worker => ∀ attempt ∈ worker.stage.executing?,
    ∀ lease ∈ attempt.leaseExpiresAt, ¬ lease ≤ input.now

instance (pool : Pool (AsyncStore S T W) (AsyncWorker X))
    (label : Label (AsyncCall X) (AsyncInput I)) (worker : AsyncWorker X) :
    Decidable (LeaseLasts pool label worker) := by
  cases label with
  | start => exact inferInstanceAs (Decidable True)
  | advance =>
    unfold LeaseLasts
    infer_instance

variable (repository) in
/-- An attempt begins from the record that is stored and not leased; one that is put back is still
stored. -/
def BeginsUnleased (store : AsyncStore S T W) (worker : AsyncWorker X) (input : AsyncInput I) :
    Prop :=
  match worker.stage with
  | .starting operation _ =>
    repository.getOperation store.operations operation.operationId = some operation ∧
      classifyAsyncOperationForControl operation input.now ≠ .leased
  | .settling operation _ outcome => operation.Requeues outcome →
    repository.getOperation store.operations operation.operationId = some operation
  | _ => True

instance (store : AsyncStore S T W) (worker : AsyncWorker X) (input : AsyncInput I) :
    Decidable (BeginsUnleased repository store worker input) := by
  unfold BeginsUnleased
  split <;> infer_instance

variable (repository) in
/-- No two executor calls of an operation at one time, and no more than it has attempts. -/
structure LeasesExclude (pool : Pool (AsyncStore S T W) (AsyncWorker X)) : Prop where
  exclusive : pool.Exclusive AsyncWorker.executingId?
  bounded : ∀ operationId operation,
    repository.getOperation pool.store.operations operationId = some operation →
    executorCalls pool.store operationId ≤ operation.maxAttempts

variable (repository) in
/-- The calls of a stored operation are within its attempts; while it is open they are counted. -/
structure CallsCounted (store : AsyncStore S T W) : Prop where
  unstored : ∀ operationId, repository.getOperation store.operations operationId = none →
    executorCalls store operationId = 0
  bounded : ∀ operationId operation,
    repository.getOperation store.operations operationId = some operation →
    executorCalls store operationId ≤ operation.maxAttempts
  counted : ∀ operationId operation,
    repository.getOperation store.operations operationId = some operation →
    operation.isTerminal = false → executorCalls store operationId ≤ operation.attemptCount

/-- What a worker has checked before it writes. -/
def StageChecked : AsyncStage X → Prop
  | .starting operation _ =>
    operation.isTerminal = false ∧ operation.attemptCount < operation.maxAttempts
  | .quarantining _ decision => decision.idempotentNoop = false
  | _ => True

variable (repository) in
/-- What a worker knows of the operation it works on. -/
structure AttemptKnown (store : AsyncStore S T W) (stage : AsyncStage X) : Prop where
  copy : CopyStored repository store stage
  checked : StageChecked stage
  running : ∀ attempt ∈ stage.attempt?, attempt.status = .running
  counted : ∀ attempt ∈ stage.attempt?, ∀ operation,
    repository.getOperation store.operations attempt.operationId = some operation →
    operation.isTerminal = false → attempt.attemptCount ≤ operation.attemptCount
  current : ∀ attempt ∈ stage.executing?, ∀ operation,
    repository.getOperation store.operations attempt.operationId = some operation →
    operation.isTerminal = false → operation = attempt
  leased : ∀ attempt ∈ stage.executing?, ∃ lease, attempt.leaseExpiresAt = some lease

variable (repository) in
/-- The invariant: two attempts of an operation have different numbers, and one executor call of it
at most is in progress. -/
structure AttemptsApart (pool : Pool (AsyncStore S T W) (AsyncWorker X)) : Prop where
  store : CallsCounted repository pool.store
  worker : ∀ i worker, pool.worker i = some worker → AttemptKnown repository pool.store worker.stage
  numbered : ∀ i j worker worker' attempt attempt', i ≠ j → pool.worker i = some worker →
    pool.worker j = some worker' → attempt ∈ worker.stage.attempt? →
    attempt' ∈ worker'.stage.attempt? → attempt.operationId = attempt'.operationId →
    attempt.attemptCount ≠ attempt'.attemptCount
  exclusive : pool.Exclusive AsyncWorker.executingId?

theorem mem_executingId? {worker : AsyncWorker X} :
    operationId ∈ worker.executingId? ↔
      ∃ attempt ∈ worker.stage.executing?, attempt.operationId = operationId :=
  Option.mem_map

theorem attempt?_of_executing? {stage : AsyncStage X} {attempt : ProposalAsyncOperationRecord}
    (h : attempt ∈ stage.executing?) : attempt ∈ stage.attempt? := by
  cases stage with
  | running => exact h
  | _ => cases h

theorem copy?_of_attempt? {stage : AsyncStage X} {attempt : ProposalAsyncOperationRecord}
    (h : attempt ∈ stage.attempt?) : attempt ∈ stage.copy? := by
  cases stage with
  | running => exact h
  | settling => exact h
  | _ => cases h

theorem stageChecked_recovering (list : List ProposalAsyncOperationRecord) :
    StageChecked (AsyncWorker.recovering list : AsyncWorker X).stage := by
  cases list with
  | nil => trivial
  | cons operation rest =>
    simp only [AsyncWorker.recovering]
    split <;> trivial

@[simp] theorem attempt?_recovering (list : List ProposalAsyncOperationRecord) :
    (AsyncWorker.recovering list : AsyncWorker X).stage.attempt? = none := by
  cases list with
  | nil => rfl
  | cons operation rest =>
    simp only [AsyncWorker.recovering, resolveRecoverableAsyncOperationKind]
    cases operation.operationType <;> rfl

/-- Worker `i` takes a step, and the conditions are met. -/
structure AttemptStep (services : AsyncServices) (repository : AsyncOperationRepository S T)
    (executor : AsyncExecutor S X W I) (pool : Pool (AsyncStore S T W) (AsyncWorker X)) (i : ℕ)
    (input : AsyncInput I) (worker : AsyncWorker X) (store' : AsyncStore S T W)
    (worker' : AsyncWorker X) : Prop where
  lawful : repository.Lawful
  apart : AttemptsApart repository pool
  own : pool.worker i = some worker
  begins : BeginsUnleased repository pool.store worker input
  leases : ∀ j other, pool.worker j = some other → ∀ attempt ∈ other.stage.executing?,
    ∀ lease ∈ attempt.leaseExpiresAt, ¬ lease ≤ input.now
  step : AsyncStep services repository executor pool.store input worker.rest worker.stage store'
    worker'

namespace AttemptStep

variable {i j : ℕ} {input : AsyncInput I} {worker worker' other : AsyncWorker X}
  {store' : AsyncStore S T W} {operation attempt : ProposalAsyncOperationRecord}
  {call : ExecutorCall}

/-- No other worker executes an operation of which an attempt begins. -/
theorem not_executing (h : AttemptStep services repository executor pool i input worker store' worker')
    (hstage : worker.stage = .starting operation call) (hother : pool.worker j = some other)
    (hattempt : attempt ∈ other.stage.executing?) (hid : attempt.operationId = operation.operationId) :
    False := by
  have hbegins := h.begins
  simp only [BeginsUnleased, hstage] at hbegins
  have hchecked := (h.apart.worker i worker h.own).checked
  rw [hstage] at hchecked
  have hknown := h.apart.worker j other hother
  obtain rfl := hknown.current attempt hattempt operation (hid ▸ hbegins.1) hchecked.1
  obtain ⟨lease, hlease⟩ := hknown.leased operation hattempt
  have hlasts := h.leases j other hother operation hattempt lease hlease
  exact hbegins.2 (classify_eq_leased_iff.mpr
    ⟨hknown.running operation (attempt?_of_executing? hattempt),
      ProposalAsyncOperationRecord.leaseHasExpired_eq_false hlease hlasts⟩)

/-- The attempt that is put back is the one that is stored. -/
theorem stored_of_requeues
    (h : AttemptStep services repository executor pool i input worker store' worker')
    {outcome : ExecutorOutcome} (hstage : worker.stage = .settling operation call outcome)
    (hrequeues : operation.Requeues outcome) :
    repository.getOperation pool.store.operations operation.operationId = some operation ∧
      operation.isTerminal = false := by
  have hbegins := h.begins
  simp only [BeginsUnleased, hstage] at hbegins
  have hrunning := (h.apart.worker i worker h.own).running operation (by rw [hstage]; rfl)
  exact ⟨hbegins hrequeues, by simp [ProposalAsyncOperationRecord.isTerminal, hrunning]⟩

theorem known (h : AttemptStep services repository executor pool i input worker store' worker') :
    AttemptKnown repository pool.store worker.stage := h.apart.worker i worker h.own

end AttemptStep

theorem executorCalls_append (journal : List (AsyncJournalEntry W)) (operations : T) (proposals : S)
    (entries : List (AsyncJournalEntry W)) :
    executorCalls ⟨proposals, operations, journal ++ entries⟩ operationId =
      journal.countP (AsyncJournalEntry.isCall operationId) +
        entries.countP (AsyncJournalEntry.isCall operationId) :=
  List.countP_append

theorem countP_committed (id : String) (write : Option W) :
    (write.toList.map (AsyncJournalEntry.committed id)).countP
      (AsyncJournalEntry.isCall operationId) = 0 := by
  cases write <;> rfl

/-- A record is stored in place of one with the same attempts, or as a new one. -/
theorem CallsCounted.stores {store' : AsyncStore S T W} {record : ProposalAsyncOperationRecord}
    (h : CallsCounted repository store)
    (hstores : repository.Stores store.operations record store'.operations)
    (hjournal : store'.journal = store.journal)
    (hbounded : executorCalls store record.operationId ≤ record.maxAttempts)
    (hcounted : record.isTerminal = false →
      executorCalls store record.operationId ≤ record.attemptCount) :
    CallsCounted repository store' := by
  have hcalls : ∀ id, executorCalls store' id = executorCalls store id := by
    intro id
    rw [executorCalls, executorCalls, hjournal]
  constructor
  · intro id hnone
    rw [hstores id] at hnone
    split at hnone
    · cases hnone
    · rw [hcalls, h.unstored id hnone]
  · intro id operation hfound
    rw [hstores id] at hfound
    rw [hcalls]
    split at hfound
    · next hid =>
      obtain rfl := Option.some.inj hfound
      exact hid ▸ hbounded
    · exact h.bounded id operation hfound
  · intro id operation hfound hopen
    rw [hstores id] at hfound
    rw [hcalls]
    split at hfound
    · next hid =>
      obtain rfl := Option.some.inj hfound
      exact hid ▸ hcounted hopen
    · exact h.counted id operation hfound hopen

/-- The calls of an operation are within the attempts of each copy of it. -/
theorem CallsCounted.bounded_copy {stage : AsyncStage X} {copy record : ProposalAsyncOperationRecord}
    (h : CallsCounted repository store) (hstored : CopyStored repository store stage)
    (hcopy : copy ∈ stage.copy?) (hrecord : record.submission = copy.submission) :
    executorCalls store record.operationId ≤ record.maxAttempts := by
  obtain ⟨stored, hfound, hsubmission⟩ := hstored copy hcopy
  have hbounded := h.bounded _ _ hfound
  rw [ProposalAsyncOperationRecord.operationId_of_submission hrecord,
    ProposalAsyncOperationRecord.maxAttempts_of_submission hrecord,
    ← ProposalAsyncOperationRecord.maxAttempts_of_submission hsubmission]
  exact hbounded

section Preservation

variable {i j : ℕ} {input : AsyncInput I} {worker worker' other : AsyncWorker X}
  {store' : AsyncStore S T W}

/-- The calls stay within the attempts: a call is only begun from the stored record. -/
theorem callsCounted_step
    (h : AttemptStep services repository executor pool i input worker store' worker') :
    CallsCounted repository store' := by
  have hcounted := h.apart.store
  have hknown := h.known
  have hstep := h.step
  cases worker with
  | mk stage rest =>
  cases hstep with
  | submits record operations answer submitted new stores =>
    refine hcounted.stores stores rfl ?_ fun _ => ?_
    · rw [hcounted.unstored _ new]
      exact Nat.zero_le _
    · rw [hcounted.unstored _ new]
      exact Nat.zero_le _
  | @starts operation call attempt operations began stores =>
    obtain ⟨hsubmission, -, hcount, -⟩ :=
      ProposalAsyncOperationRecord.beginAsyncAttempt_eq_some began
    obtain ⟨hopen, hleft⟩ := hknown.checked
    have hfound := h.begins.1
    have hbefore := hcounted.counted _ _ hfound hopen
    have hid := ProposalAsyncOperationRecord.operationId_of_submission hsubmission
    have hmax := ProposalAsyncOperationRecord.maxAttempts_of_submission hsubmission
    have hcalls : ∀ id, executorCalls
        { pool.store with
          operations, journal := pool.store.journal ++ [.called operation.operationId] } id =
        executorCalls pool.store id + if operation.operationId = id then 1 else 0 := by
      intro id
      rw [executorCalls_append]
      simp [executorCalls, AsyncJournalEntry.isCall, List.countP_cons]
    constructor
    · intro id hnone
      rw [stores id, hid] at hnone
      rw [hcalls]
      split at hnone
      · cases hnone
      · next hne => rw [if_neg hne, hcounted.unstored id hnone]
    · intro id record hrecord
      rw [stores id, hid] at hrecord
      rw [hcalls]
      split at hrecord
      · next heq =>
        obtain rfl := Option.some.inj hrecord
        rw [if_pos heq, ← heq, hmax]
        omega
      · next hne =>
        rw [if_neg hne]
        exact hcounted.bounded id record hrecord
    · intro id record hrecord hterminal
      rw [stores id, hid] at hrecord
      rw [hcalls]
      split at hrecord
      · next heq =>
        obtain rfl := Option.some.inj hrecord
        rw [if_pos heq, ← heq, hcount]
        omega
      · next hne =>
        rw [if_neg hne]
        exact hcounted.counted id record hrecord hterminal
  | @executes operation call x proposals write next step =>
    have hcalls : ∀ id, executorCalls
        { pool.store with
          proposals
          journal := pool.store.journal ++ write.toList.map (.committed operation.operationId) } id =
        executorCalls pool.store id := by
      intro id
      rw [executorCalls_append, countP_committed, Nat.add_zero]
      rfl
    constructor
    · intro id hnone
      rw [hcalls]
      exact hcounted.unstored id hnone
    · intro id record hrecord
      rw [hcalls]
      exact hcounted.bounded id record hrecord
    · intro id record hrecord hopen
      rw [hcalls]
      exact hcounted.counted id record hrecord hopen
  | @settles operation call outcome operations stores =>
    refine hcounted.stores stores rfl
      (hcounted.bounded_copy hknown.copy rfl ProposalAsyncOperationRecord.submission_settled)
      fun hopen => ?_
    by_cases hrequeues : operation.Requeues outcome
    · obtain ⟨hfound, hrunning⟩ := h.stored_of_requeues rfl hrequeues
      rw [ProposalAsyncOperationRecord.attemptCount_settled,
        ProposalAsyncOperationRecord.operationId_of_submission
          ProposalAsyncOperationRecord.submission_settled]
      exact hcounted.counted _ _ hfound hrunning
    · rw [ProposalAsyncOperationRecord.isTerminal_settled hrequeues] at hopen
      cases hopen
  | @fails operation message operations stores =>
    exact hcounted.stores stores rfl (hcounted.bounded_copy hknown.copy rfl rfl)
      fun hopen => by cases hopen
  | @quarantines operation decision operations stores =>
    refine hcounted.stores stores rfl
      (hcounted.bounded_copy hknown.copy rfl submission_buildQuarantined) fun hopen => ?_
    have heffective : decision.idempotentNoop = false := hknown.checked
    rw [isTerminal_of_isQuarantined (isQuarantined_buildQuarantined heffective)] at hopen
    cases hopen
  | _ => exact ⟨hcounted.unstored, hcounted.bounded, hcounted.counted⟩

/-- An attempt after a step was one before it, or begins with it. -/
theorem attempt_of_step {stage : AsyncStage X} {rest : List ProposalAsyncOperationRecord}
    {attempt : ProposalAsyncOperationRecord}
    (h : AsyncStep services repository executor store input rest stage store' worker')
    (hattempt : attempt ∈ worker'.stage.attempt?) :
    (attempt ∈ stage.attempt? ∧ store'.operations = store.operations ∧
      (attempt ∈ worker'.stage.executing? → attempt ∈ stage.executing?)) ∨
    ∃ operation call, stage = .starting operation call ∧
      operation.beginAsyncAttempt input.now asyncOperationLeaseSeconds = some attempt ∧
      repository.Stores store.operations attempt store'.operations := by
  cases h with
  | @starts operation call begun operations began stores =>
    obtain rfl := Option.some.inj hattempt
    exact .inr ⟨operation, call, rfl, began, stores⟩
  | @executes operation call x proposals write next step =>
    refine .inl ⟨?_, rfl, ?_⟩
    · cases next <;> exact hattempt
    · cases next with
      | inl x => exact id
      | inr outcome => exact fun hexecuting => by cases hexecuting
  | @settles operation call outcome operations stores =>
    unfold afterSettling at hattempt
    split at hattempt
    · cases hattempt
    · rw [attempt?_recovering] at hattempt
      cases hattempt
  | recovers =>
    rw [attempt?_recovering] at hattempt
    cases hattempt
  | fails =>
    rw [attempt?_recovering] at hattempt
    cases hattempt
  | commands proposals write next => cases next <;> cases hattempt
  | _ => cases hattempt

/-- An open operation after a step was stored before it, unless it is new, begins an attempt or is
put back. -/
theorem stored_of_step
    (h : AttemptStep services repository executor pool i input worker store' worker')
    {record : ProposalAsyncOperationRecord}
    (hfound : repository.getOperation store'.operations operationId = some record)
    (hopen : record.isTerminal = false) :
    repository.getOperation pool.store.operations operationId = some record ∨
    repository.getOperation pool.store.operations operationId = none ∨
    ∃ operation, repository.getOperation pool.store.operations operationId = some operation ∧
      operation.isTerminal = false ∧ operation.attemptCount ≤ record.attemptCount ∧
      ((∃ call, worker.stage = .starting operation call) ∨ operation ∈ worker.stage.attempt?) := by
  have hknown := h.known
  have hstep := h.step
  -- what is stored under another identifier is what was stored before
  have stored : ∀ {written : ProposalAsyncOperationRecord} {operations : T},
      repository.Stores pool.store.operations written operations →
      repository.getOperation operations operationId = some record →
      repository.getOperation pool.store.operations operationId = some record ∨
        written.operationId = operationId ∧ written = record := by
    intro written operations hstores hrecord
    rw [hstores] at hrecord
    split at hrecord
    · next hid => exact .inr ⟨hid, Option.some.inj hrecord⟩
    · exact .inl hrecord
  cases worker with
  | mk stage rest =>
  cases hstep with
  | submits written operations answer submitted new stores =>
    rcases stored stores hfound with hsame | ⟨rfl, -⟩
    · exact .inl hsame
    · exact .inr (.inl new)
  | @starts operation call attempt operations began stores =>
    obtain ⟨hsubmission, -, hcount, -⟩ :=
      ProposalAsyncOperationRecord.beginAsyncAttempt_eq_some began
    rcases stored stores hfound with hsame | ⟨rfl, rfl⟩
    · exact .inl hsame
    · refine .inr (.inr ⟨operation, ?_, (hknown.checked).1, by omega,
        .inl ⟨call, rfl⟩⟩)
      rw [ProposalAsyncOperationRecord.operationId_of_submission hsubmission]
      exact h.begins.1
  | @settles operation call outcome operations stores =>
    rcases stored stores hfound with hsame | ⟨rfl, rfl⟩
    · exact .inl hsame
    · by_cases hrequeues : operation.Requeues outcome
      · obtain ⟨hstored, hrunning⟩ := h.stored_of_requeues rfl hrequeues
        refine .inr (.inr ⟨operation, ?_, hrunning, ?_, .inr rfl⟩)
        · rw [ProposalAsyncOperationRecord.operationId_of_submission
            ProposalAsyncOperationRecord.submission_settled]
          exact hstored
        · rw [ProposalAsyncOperationRecord.attemptCount_settled]
      · rw [ProposalAsyncOperationRecord.isTerminal_settled hrequeues] at hopen
        cases hopen
  | @fails operation message operations stores =>
    rcases stored stores hfound with hsame | ⟨-, rfl⟩
    · exact .inl hsame
    · cases hopen
  | @quarantines operation decision operations stores =>
    rcases stored stores hfound with hsame | ⟨-, rfl⟩
    · exact .inl hsame
    · have heffective : decision.idempotentNoop = false := hknown.checked
      rw [isTerminal_of_isQuarantined (isQuarantined_buildQuarantined heffective)] at hopen
      cases hopen
  | _ => exact .inl hfound

theorem stageChecked_step {stage : AsyncStage X} {rest : List ProposalAsyncOperationRecord}
    (h : AsyncStep services repository executor store input rest stage store' worker') :
    StageChecked worker'.stage := by
  cases h with
  | recovers list => exact stageChecked_recovering list
  | prepares operation found open_ left => exact ⟨open_, left⟩
  | executes proposals write next step => cases next <;> trivial
  | settles operations stores =>
    unfold afterSettling
    split
    · trivial
    · exact stageChecked_recovering _
  | fails operations stores => exact stageChecked_recovering _
  | decides operation decision found effective status => exact effective
  | commands proposals write next => cases next <;> trivial
  | _ => trivial

theorem attemptKnown_step
    (h : AttemptStep services repository executor pool i input worker store' worker') :
    AttemptKnown repository store' worker'.stage := by
  have hknown := h.known
  have hstep := h.step
  have hstored : ∀ {operation attempt : ProposalAsyncOperationRecord},
      repository.Stores pool.store.operations attempt store'.operations →
      repository.getOperation store'.operations attempt.operationId = some operation →
      operation = attempt := by
    intro operation attempt hstores hfound
    rw [hstores.self] at hfound
    exact (Option.some.inj hfound).symm
  constructor
  · exact copyStored_step h.lawful hknown.copy hstep
  · exact stageChecked_step hstep
  · intro attempt hattempt
    rcases attempt_of_step hstep hattempt with ⟨hbefore, -⟩ | ⟨operation, call, -, began, -⟩
    · exact hknown.running attempt hbefore
    · exact (ProposalAsyncOperationRecord.beginAsyncAttempt_eq_some began).2.1
  · intro attempt hattempt operation hfound hopen
    rcases attempt_of_step hstep hattempt with ⟨hbefore, hsame, -⟩ | ⟨_, _, -, -, stores⟩
    · exact hknown.counted attempt hbefore operation (hsame ▸ hfound) hopen
    · rw [hstored stores hfound]
  · intro attempt hattempt operation hfound hopen
    rcases attempt_of_step hstep (attempt?_of_executing? hattempt) with
      ⟨-, hsame, hbefore⟩ | ⟨_, _, -, -, stores⟩
    · exact hknown.current attempt (hbefore hattempt) operation (hsame ▸ hfound) hopen
    · exact hstored stores hfound
  · intro attempt hattempt
    rcases attempt_of_step hstep (attempt?_of_executing? hattempt) with
      ⟨-, -, hbefore⟩ | ⟨_, _, -, began, -⟩
    · exact hknown.leased attempt (hbefore hattempt)
    · obtain ⟨-, -, -, -, lease, -, hlease⟩ :=
        ProposalAsyncOperationRecord.beginAsyncAttempt_eq_some began
      exact ⟨lease, hlease⟩

/-- No step of another worker disturbs what a worker knows. -/
theorem attemptKnown_stable
    (h : AttemptStep services repository executor pool i input worker store' worker')
    (hne : i ≠ j) (hother : pool.worker j = some other) :
    AttemptKnown repository store' other.stage := by
  have hknown := h.apart.worker j other hother
  have hnew : ∀ attempt ∈ other.stage.attempt?,
      repository.getOperation pool.store.operations attempt.operationId ≠ none := by
    intro attempt hattempt hnone
    obtain ⟨stored, hstored, -⟩ := hknown.copy attempt (copy?_of_attempt? hattempt)
    cases hnone.symm.trans hstored
  refine ⟨copyStored_stable h.lawful h.known.copy h.step hknown.copy, hknown.checked,
    hknown.running, ?_, ?_, hknown.leased⟩
  · intro attempt hattempt operation hfound hopen
    rcases stored_of_step h hfound hopen with hsame | hnone | ⟨before, hbefore, hrunning, hle, -⟩
    · exact hknown.counted attempt hattempt operation hsame hopen
    · exact (hnew attempt hattempt hnone).elim
    · exact (hknown.counted attempt hattempt before hbefore hrunning).trans hle
  · intro attempt hattempt operation hfound hopen
    have hid := h.lawful.keyed _ _ _ hfound
    rcases stored_of_step h hfound hopen with hsame | hnone |
      ⟨before, hbefore, hrunning, -, ⟨call, hstarting⟩ | hown⟩
    · exact hknown.current attempt hattempt operation hsame hopen
    · exact (hnew attempt (attempt?_of_executing? hattempt) hnone).elim
    · exact (h.not_executing hstarting hother hattempt (h.lawful.keyed _ _ _ hbefore).symm).elim
    · obtain rfl := hknown.current attempt hattempt before hbefore hrunning
      exact (h.apart.numbered i j worker other before before hne h.own hother hown
        (attempt?_of_executing? hattempt) rfl rfl).elim

/-- Attempts of two workers have different numbers: one that begins has a number above all others. -/
theorem attemptCount_ne
    (h : AttemptStep services repository executor pool i input worker store' worker')
    (hne : i ≠ j) (hother : pool.worker j = some other)
    {attempt attempt' : ProposalAsyncOperationRecord} (hattempt : attempt ∈ worker'.stage.attempt?)
    (hattempt' : attempt' ∈ other.stage.attempt?) (hid : attempt.operationId = attempt'.operationId) :
    attempt.attemptCount ≠ attempt'.attemptCount := by
  rcases attempt_of_step h.step hattempt with ⟨hbefore, -⟩ | ⟨operation, call, hstage, began, -⟩
  · exact h.apart.numbered i j worker other attempt attempt' hne h.own hother hbefore hattempt' hid
  · obtain ⟨hsubmission, -, hcount, -⟩ :=
      ProposalAsyncOperationRecord.beginAsyncAttempt_eq_some began
    have hbegins := h.begins
    have hchecked := h.known.checked
    simp only [BeginsUnleased, hstage] at hbegins
    rw [hstage] at hchecked
    rw [← ProposalAsyncOperationRecord.operationId_of_submission hsubmission, hid] at hbegins
    have hle := (h.apart.worker j other hother).counted attempt' hattempt' operation hbegins.1
      hchecked.1
    omega

/-- An executor call goes on, or begins while no other is in progress. -/
theorem not_executing_step
    (h : AttemptStep services repository executor pool i input worker store' worker')
    (hne : i ≠ j) (hother : pool.worker j = some other) {id : String}
    (hid : id ∈ worker'.executingId?) : id ∉ other.executingId? := by
  intro hother'
  obtain ⟨attempt, hattempt, rfl⟩ := mem_executingId?.mp hid
  rcases attempt_of_step h.step (attempt?_of_executing? hattempt) with
    ⟨-, -, hbefore⟩ | ⟨operation, call, hstage, began, -⟩
  · have hown : attempt.operationId ∈ worker.executingId? :=
      mem_executingId?.mpr ⟨attempt, hbefore hattempt, rfl⟩
    exact hne (h.apart.exclusive i j worker other _ h.own hother hown hother')
  · obtain ⟨hsubmission, -⟩ := ProposalAsyncOperationRecord.beginAsyncAttempt_eq_some began
    obtain ⟨attempt', hattempt', hsame⟩ := mem_executingId?.mp hother'
    exact h.not_executing hstage hother hattempt'
      (hsame.trans (ProposalAsyncOperationRecord.operationId_of_submission hsubmission))

theorem attemptsApart_step
    (h : AttemptStep services repository executor pool i input worker store' worker') :
    AttemptsApart repository (pool.moved i store' worker') := by
  refine ⟨callsCounted_step h, ?_, ?_,
    h.apart.exclusive.moved fun id hid j other hne hother => not_executing_step h hne hother hid⟩
  · intro j other hother
    rcases Pool.moved_cases hother with ⟨rfl, rfl⟩ | ⟨hne, hother⟩
    · exact attemptKnown_step h
    · exact attemptKnown_stable h hne.symm hother
  · intro j k first second attempt attempt' hne hfirst hsecond hattempt hattempt' hid
    rcases Pool.moved_cases hfirst with ⟨rfl, rfl⟩ | ⟨hj, hfirst'⟩ <;>
      rcases Pool.moved_cases hsecond with ⟨rfl, rfl⟩ | ⟨hk, hsecond'⟩
    · exact (hne rfl).elim
    · exact attemptCount_ne h hne hsecond' hattempt hattempt' hid
    · exact (attemptCount_ne h hne.symm hfirst' hattempt' hattempt hid.symm).symm
    · exact h.apart.numbered j k first second attempt attempt' hne hfirst' hsecond' hattempt
        hattempt' hid

end Preservation

section Runs

variable {labels : List (Label (AsyncCall X) (AsyncInput I))}

/-- A call that starts has no attempt yet. -/
theorem attemptsApart_start {i : ℕ} {call : AsyncCall X} (h : AttemptsApart repository pool) :
    AttemptsApart repository (pool.moved i pool.store call.start) := by
  have hnone : (call.start : AsyncWorker X).stage.attempt? = none := by cases call <;> rfl
  have hexecuting : (call.start : AsyncWorker X).stage.executing? = none := by cases call <;> rfl
  refine ⟨h.store, ?_, ?_, h.exclusive.moved fun id hid => ?_⟩
  · intro j other hother
    rcases Pool.moved_cases hother with ⟨rfl, rfl⟩ | ⟨-, hother⟩
    · refine ⟨?_, ?_, ?_, ?_, ?_, ?_⟩
      · cases call <;> exact fun _ hcopy => by cases hcopy
      · cases call <;> trivial
      all_goals simp [hnone, hexecuting]
    · exact h.worker j other hother
  · intro j k first second attempt attempt' hne hfirst hsecond hattempt hattempt' hid
    rcases Pool.moved_cases hfirst with ⟨rfl, rfl⟩ | ⟨-, hfirst⟩
    · simp [hnone] at hattempt
    rcases Pool.moved_cases hsecond with ⟨rfl, rfl⟩ | ⟨-, hsecond⟩
    · simp [hnone] at hattempt'
    exact h.numbered j k first second attempt attempt' hne hfirst hsecond hattempt hattempt' hid
  · simp [AsyncWorker.executingId?, hexecuting] at hid

theorem attemptsApart_initial (hjournal : store.journal = []) :
    AttemptsApart repository (.initial store : Pool (AsyncStore S T W) (AsyncWorker X)) where
  store := by
    have hcalls : ∀ id, executorCalls store id = 0 := by
      intro id
      rw [executorCalls, hjournal, List.countP_nil]
    exact ⟨fun id _ => hcalls id, fun id _ _ => by simp [Pool.initial, hcalls],
      fun id _ _ _ => by simp [Pool.initial, hcalls]⟩
  worker _ _ h := by cases h
  numbered _ _ _ _ _ _ _ h := by cases h
  exclusive := Pool.exclusive_initial

theorem attemptsApart_next (laws : repository.Lawful) {label : Label (AsyncCall X) (AsyncInput I)}
    (h : AttemptsApart repository pool)
    (hnext : (asyncWorkers services repository executor).next pool label = some pool')
    (hbegins : Program.Guard (BeginsUnleased repository) pool label pool')
    (hleases : Program.Everyone LeaseLasts pool label pool') : AttemptsApart repository pool' := by
  cases (Program.next_iff _).mp hnext with
  | start i call idle => exact attemptsApart_start h
  | advance i input worker store' worker' hworker hstep =>
    exact attemptsApart_step ⟨laws, h, hworker, hbegins worker hworker, hleases,
      asyncStep_of_step laws hstep⟩

/-- Executor calls of an operation exclude each other and are within its attempts, in every run in
which they end before their leases do and every attempt begins from the stored record, not leased,
and is put back over its own. -/
theorem leases_exclude (laws : repository.Lawful) (hjournal : store.journal = [])
    (hleases : EveryStep (asyncWorkers services repository executor).next
      (Program.Everyone LeaseLasts) (.initial store) labels)
    (hbegins : EveryStep (asyncWorkers services repository executor).next
      (Program.Guard (BeginsUnleased repository)) (.initial store) labels)
    (hrun : run (asyncWorkers services repository executor).next (.initial store) labels =
      some pool) : LeasesExclude repository pool := by
  have hguard := everyStep_and.mpr ⟨hleases, hbegins⟩
  have hapart : AttemptsApart repository pool :=
    invariant_of_everyStep (fun _ _ _ h hnext hboth =>
      attemptsApart_next laws h hnext hboth.2 hboth.1) (attemptsApart_initial hjournal) hguard hrun
  exact ⟨hapart.exclusive, hapart.store.bounded⟩

end Runs

namespace Sample

/-- Two workers read the pending operation, and then both begin an attempt. -/
def readTogether : List (Label (AsyncCall Unit) (AsyncInput ExecutorOutcome)) :=
  submitThenExecute 1 ++
    [.start 2 (.execute .createProposal "pop_000" {}), stepAt 2 1 (.exception "" ""),
      stepAt 1 1 (.exception "" ""), stepAt 2 1 (.exception "" ""),
      stepAt 1 1 (.exception "" ""), stepAt 2 1 (.exception "" "")]

/-- An attempt of worker 1 ends with an exception, and worker 2 attempts the operation again. -/
def retried : List (Label (AsyncCall Unit) (AsyncInput ExecutorOutcome)) :=
  submitThenExecute 1 ++ List.replicate 4 (stepAt 1 1 (.exception "ConnectionError" "")) ++
    [.start 2 (.execute .createProposal "pop_000" {})] ++
    List.replicate 5 (stepAt 2 2 (.returned "pp_000" []))

end Sample

open Sample in
/-- The executor calls of two workers that read the operation before either began are in progress at
one time, within their leases. -/
theorem leases_exclude_readTogether :
    ¬ ∀ labels pool,
      EveryStep asyncRuns.next (Program.Everyone LeaseLasts) noOperations labels →
      run asyncRuns.next noOperations labels = some pool →
      LeasesExclude inMemoryAsyncOperations pool := by
  intro hexclude
  have hleases : EveryStep asyncRuns.next (Program.EveryoneBelow 3 LeaseLasts) noOperations
      readTogether := by decide +kernel
  have hexecuting : (run asyncRuns.next noOperations readTogether).map (fun pool =>
      ((pool.worker 1).bind AsyncWorker.executingId?,
        (pool.worker 2).bind AsyncWorker.executingId?)) =
      some (some "pop_000", some "pop_000") := by decide +kernel
  obtain ⟨pool, hpool, hview⟩ := Option.map_eq_some_iff.mp hexecuting
  obtain ⟨hfirst, hsecond⟩ := Prod.mk.inj hview
  obtain ⟨first, hfirst, hid⟩ := Option.bind_eq_some_iff.mp hfirst
  obtain ⟨second, hsecond, hid'⟩ := Option.bind_eq_some_iff.mp hsecond
  have hsame := (hexclude _ pool (Program.everyone_of_below hleases) hpool).exclusive 1 2 first
    second "pop_000" hfirst hsecond hid hid'
  cases hsame

open Sample in
/-- The theorem at a run in which two workers attempt an operation one after the other. -/
theorem leases_exclude_retried : ∃ pool,
    run asyncRuns.next noOperations retried = some pool ∧
      executorCalls pool.store "pop_000" = 2 ∧ LeasesExclude inMemoryAsyncOperations pool := by
  have hleases : EveryStep asyncRuns.next (Program.EveryoneBelow 3 LeaseLasts) noOperations
      retried := by decide +kernel
  have hbegins : EveryStep asyncRuns.next
      (Program.Guard (BeginsUnleased inMemoryAsyncOperations)) noOperations retried := by
    decide +kernel
  have hcalls : (run asyncRuns.next noOperations retried).map
      (fun pool => executorCalls pool.store "pop_000") = some 2 := by decide +kernel
  obtain ⟨pool, hpool, hcount⟩ := Option.map_eq_some_iff.mp hcalls
  exact ⟨pool, hpool, hcount, leases_exclude AsyncOperationDicts.lawful rfl
    (Program.everyone_of_below hleases) hbegins hpool⟩

end LotusAdvise.Proposals

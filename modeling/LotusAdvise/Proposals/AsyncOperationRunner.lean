import LotusAdvise.Proposals.TerminalOperations

/-! # The loop of one worker

A worker runs an operation until it is terminal: it reads the record anew in each round,
attempts it under a lease and goes on as long as the attempt put the operation back. Here
nothing else writes meanwhile. The attempts that are left bound the rounds.
-/

namespace LotusAdvise.Proposals

open Runs Workers Tables

/-- A repository of operations with what it keeps of its stores, and the proposals that a record may
refer to. A record that was stored before may be replaced. -/
structure KeptOperations (S T : Type) where
  repository : AsyncOperationRepository S T
  laws : repository.Lawful
  Coherent : S → T → Prop
  Known : S → String → Prop
  accepts : ∀ {proposals operations stored record}, Coherent proposals operations →
    repository.getOperation operations record.operationId = some stored →
    record.submission = stored.submission →
    (∀ proposalId ∈ record.proposalId,
      stored.proposalId = some proposalId ∨ Known proposals proposalId) →
    ∃ operations', repository.updateOperation proposals operations record = .ok operations' ∧
      Coherent proposals operations'

/-- The dictionaries take every record. -/
def inMemoryKeptOperations : KeptOperations InMemoryStore AsyncOperationDicts where
  repository := inMemoryAsyncOperations
  laws := AsyncOperationDicts.lawful
  Coherent _ _ := True
  Known _ _ := True
  accepts _ _ _ _ := ⟨_, rfl, trivial⟩

namespace AsyncOperationTable

/-- The rows meet the constraints of the table. -/
def Coherent (proposals : PostgresStore) (table : AsyncOperationTable) : Prop :=
  ∀ row ∈ table, constraints proposals table row = .ok ()

variable {proposals : PostgresStore} {table : AsyncOperationTable}
  {operation record stored : ProposalAsyncOperationRecord}

theorem constraints_eq_ok : constraints proposals table operation = .ok () ↔
    (∀ row ∈ table, row.operationId ≠ operation.operationId →
      row.correlationId ≠ operation.correlationId) ∧
    (∀ row ∈ table, row.operationId ≠ operation.operationId →
      row.idempotencyKey = none ∨ row.idempotencyKey ≠ operation.idempotencyKey) ∧
    ∀ proposalId ∈ operation.proposalId, proposals.getProposal proposalId ≠ none := by
  constructor
  · intro h
    obtain ⟨_, hcorrelation, h⟩ := bind_eq_ok.mp h
    obtain ⟨_, hkey, hproposal⟩ := bind_eq_ok.mp h
    exact ⟨require_eq_ok.mp hcorrelation, require_eq_ok.mp hkey, require_eq_ok.mp hproposal⟩
  · rintro ⟨hcorrelation, hkey, hproposal⟩
    exact bind_eq_ok.mpr ⟨(), require_eq_ok.mpr hcorrelation,
      bind_eq_ok.mpr ⟨(), require_eq_ok.mpr hkey, require_eq_ok.mpr hproposal⟩⟩

theorem Coherent.upsert (h : Coherent proposals table)
    (hrecord : constraints proposals table record = .ok ()) :
    Coherent proposals (upsert ProposalAsyncOperationRecord.operationId table record) := by
  obtain ⟨hcorrelation, hkey, hproposal⟩ := constraints_eq_ok.mp hrecord
  intro row hrow
  rw [constraints_eq_ok]
  rcases mem_upsert hrow with rfl | hold
  · refine ⟨fun other hother hne => ?_, fun other hother hne => ?_, hproposal⟩
    · rcases mem_upsert hother with rfl | hother
      · exact (hne rfl).elim
      · exact hcorrelation other hother hne
    · rcases mem_upsert hother with rfl | hother
      · exact (hne rfl).elim
      · exact hkey other hother hne
  · obtain ⟨hcorrelation', hkey', hproposal'⟩ := constraints_eq_ok.mp (h row hold)
    refine ⟨fun other hother hne => ?_, fun other hother hne => ?_, hproposal'⟩
    · rcases mem_upsert hother with rfl | hother
      · exact (hcorrelation row hold hne.symm).symm
      · exact hcorrelation' other hother hne
    · rcases mem_upsert hother with rfl | hother
      · rcases hkey row hold hne.symm with hnone | hdiffers
        · rcases heq : other.idempotencyKey with _ | key
          · exact .inl rfl
          · rw [hnone]
            exact .inr (by simp)
        · exact .inr hdiffers.symm
      · exact hkey' other hother hne

theorem constraints_of_stored (hstored : constraints proposals table stored = .ok ())
    (hsubmission : record.submission = stored.submission)
    (hproposal : ∀ proposalId ∈ record.proposalId,
      stored.proposalId = some proposalId ∨ proposals.getProposal proposalId ≠ none) :
    constraints proposals table record = .ok () := by
  obtain ⟨hcorrelation, hkey, hknown⟩ := constraints_eq_ok.mp hstored
  simp only [ProposalAsyncOperationRecord.submission, Prod.mk.injEq] at hsubmission
  rw [constraints_eq_ok, hsubmission.1, hsubmission.2.2.1, hsubmission.2.2.2.1]
  refine ⟨hcorrelation, hkey, fun proposalId hmem => ?_⟩
  exact (hproposal proposalId hmem).elim (fun hsame => hknown proposalId hsame) id

end AsyncOperationTable

/-- The table keeps its constraints; a record may refer to a stored proposal. -/
def postgresKeptOperations (collation : LinearOrder String) :
    KeptOperations PostgresStore AsyncOperationTable where
  repository := postgresAsyncOperations collation
  laws := AsyncOperationTable.lawful collation
  Coherent := AsyncOperationTable.Coherent
  Known proposals proposalId := proposals.getProposal proposalId ≠ none
  accepts {proposals operations stored record} hcoherent hstored hsubmission hproposal := by
    have hrecord := AsyncOperationTable.constraints_of_stored
      (hcoherent stored (lookup_some hstored).1) hsubmission hproposal
    exact ⟨_, bind_eq_ok.mpr ⟨(), hrecord, rfl⟩, hcoherent.upsert hrecord⟩

/-- What the loop takes from outside: the executor, which works on the proposals, and the clock. A
returned response names a proposal that is known, and a lease never leaves the calendar. -/
structure AsyncRunEnvironment {S T : Type} (kept : KeptOperations S T) where
  executor : ℕ → S → S × ExecutorOutcome
  utcNow : ℕ → UtcDateTime
  keeps : ∀ n proposals operations, kept.Coherent proposals operations →
    kept.Coherent (executor n proposals).1 operations
  known : ∀ n proposals proposalId response,
    (executor n proposals).2 = .returned proposalId response →
    kept.Known (executor n proposals).1 proposalId
  room : ∀ n, ((utcNow n).addSeconds? asyncOperationLeaseSeconds).isSome

inductive AsyncRunOutcome where
  | retry
  | terminal
deriving DecidableEq

/-- What escapes the loop. -/
inductive AsyncRunError where
  | overflow
  | refused (error : ProposalError)

/-- The stores, and how often the executor was called and the clock read. -/
structure AsyncRunState (S T : Type) where
  proposals : S
  operations : T
  executorCalls : ℕ := 0
  clockReads : ℕ := 0

section Loop

variable {S T : Type}

/-- The record is stored, with the time that was read for it. -/
def AsyncRunState.persist (kept : KeptOperations S T) (state : AsyncRunState S T)
    (operation : ProposalAsyncOperationRecord) : Except AsyncRunError (AsyncRunState S T) :=
  match kept.repository.updateOperation state.proposals state.operations operation with
  | .error error => .error (.refused error)
  | .ok operations => .ok { state with operations, clockReads := state.clockReads + 1 }

variable {kept : KeptOperations S T} (environment : AsyncRunEnvironment kept)
  (state : AsyncRunState S T) (operation : ProposalAsyncOperationRecord)

def AsyncRunState.now : UtcDateTime := environment.utcNow state.clockReads

def persistAsyncAttemptStarted :
    Except AsyncRunError (ProposalAsyncOperationRecord × AsyncRunState S T) :=
  match operation.beginAsyncAttempt (state.now environment) asyncOperationLeaseSeconds with
  | none => .error .overflow
  | some attempt => (state.persist kept attempt).map fun state => (attempt, state)

/-- The operation to attempt; without one the loop stops. -/
def shouldStopBeforeAttempt : Option ProposalAsyncOperationRecord →
    Except AsyncRunError (Option ProposalAsyncOperationRecord × AsyncRunState S T)
  | none => .ok (none, state)
  | some operation =>
    if operation.isTerminal then .ok (none, state)
    else if operation.hasExhaustedAsyncAttempts then
      (state.persist kept (operation.markOperationFailed "ProposalLifecycleError"
        "PROPOSAL_ASYNC_ATTEMPTS_EXHAUSTED" (state.now environment))).map fun state => (none, state)
    else .ok (some operation, state)

/-- The stores after a call of the executor, and how it ended. -/
def AsyncRunState.called : AsyncRunState S T × ExecutorOutcome :=
  match environment.executor state.executorCalls state.proposals with
  | (proposals, outcome) =>
    ({ state with proposals, executorCalls := state.executorCalls + 1 }, outcome)

def runAsyncOperationAttempt : Except AsyncRunError (AsyncRunOutcome × AsyncRunState S T) :=
  match state.called environment with
  | (state, outcome) =>
    (state.persist kept (operation.settled (state.now environment) outcome)).map fun state =>
      (if operation.Requeues outcome then .retry else .terminal, state)

/-- One round of the loop. -/
def runAsyncOperationRound (operationId : String) :
    Except AsyncRunError (AsyncRunOutcome × AsyncRunState S T) := do
  let (operation, state) ← shouldStopBeforeAttempt environment state
    (kept.repository.getOperation state.operations operationId)
  match operation with
  | none => return (.terminal, state)
  | some operation =>
    let (attempt, state) ← persistAsyncAttemptStarted environment state operation
    runAsyncOperationAttempt environment state attempt

/-- `none` when the loop goes on after the given number of rounds. -/
def runAsyncOperationUntilTerminal (operationId : String) :
    ℕ → AsyncRunState S T → Option (Except AsyncRunError (AsyncRunState S T))
  | 0, _ => none
  | rounds + 1, state =>
    match runAsyncOperationRound environment state operationId with
    | .error error => some (.error error)
    | .ok (.retry, state) => runAsyncOperationUntilTerminal operationId rounds state
    | .ok (.terminal, state) => some (.ok state)

end Loop

/-- A record that the loop settles. -/
structure SettledRecord (operation : ProposalAsyncOperationRecord) : Prop where
  terminal : operation.isTerminal = true
  released : operation.leaseExpiresAt = none
  finished : operation.finishedAt ≠ none
  outcome : operation.resultJson.isSome ≠ operation.errorJson.isSome

theorem settledRecord_markOperationFailed {operation : ProposalAsyncOperationRecord}
    {code message : String} {now : UtcDateTime} :
    SettledRecord (operation.markOperationFailed code message now) where
  terminal := rfl
  released := rfl
  finished := by simp [ProposalAsyncOperationRecord.markOperationFailed]
  outcome := by simp [ProposalAsyncOperationRecord.markOperationFailed]

/-- An attempt is settled for good unless it is put back. -/
theorem settledRecord_settled {operation : ProposalAsyncOperationRecord} {now : UtcDateTime}
    {outcome : ExecutorOutcome} (h : ¬ operation.Requeues outcome) :
    SettledRecord (operation.settled now outcome) := by
  have hterminal : (operation.settled now outcome).isTerminal = true :=
    ProposalAsyncOperationRecord.isTerminal_settled h
  cases outcome with
  | returned proposalId response => exact ⟨hterminal, rfl, Option.some_ne_none _, Bool.noConfusion⟩
  | lifecycleError name message => exact ⟨hterminal, rfl, Option.some_ne_none _, Bool.noConfusion⟩
  | exception name message =>
    have hleft : ¬ operation.attemptCount < operation.maxAttempts := h
    refine ⟨hterminal, rfl, ?_, Bool.noConfusion⟩
    simp [ProposalAsyncOperationRecord.settled,
      ProposalAsyncOperationRecord.applyRuntimeExceptionOutcome, hleft]

section Rounds

variable {S T : Type} {kept : KeptOperations S T} {state : AsyncRunState S T}
  {operation record : ProposalAsyncOperationRecord}

variable (kept) in
/-- The operation is stored, in stores that meet their constraints. -/
structure AsyncRunState.Holds (state : AsyncRunState S T)
    (operation : ProposalAsyncOperationRecord) : Prop where
  coherent : kept.Coherent state.proposals state.operations
  found : kept.repository.getOperation state.operations operation.operationId = some operation

/-- What is made of the stored record can be stored. -/
theorem AsyncRunState.Holds.persist (h : state.Holds kept operation)
    (hsubmission : record.submission = operation.submission)
    (hproposal : ∀ proposalId ∈ record.proposalId,
      operation.proposalId = some proposalId ∨ kept.Known state.proposals proposalId) :
    ∃ state', state.persist kept record = .ok state' ∧ state'.Holds kept record ∧
      state'.executorCalls = state.executorCalls := by
  have hfound : kept.repository.getOperation state.operations record.operationId =
      some operation := by
    rw [ProposalAsyncOperationRecord.operationId_of_submission hsubmission]
    exact h.found
  obtain ⟨operations, hupdate, hcoherent⟩ := kept.accepts h.coherent hfound hsubmission hproposal
  refine ⟨{ state with operations, clockReads := state.clockReads + 1 }, ?_, ?_, rfl⟩
  · rw [AsyncRunState.persist, hupdate]
  · exact ⟨hcoherent, (kept.laws.update _ _ _ _ hupdate).self⟩

theorem exists_persistAsyncAttemptStarted (environment : AsyncRunEnvironment kept)
    (h : state.Holds kept operation) :
    ∃ attempt state', persistAsyncAttemptStarted environment state operation =
        .ok (attempt, state') ∧
      state'.Holds kept attempt ∧ state'.executorCalls = state.executorCalls ∧
      attempt.submission = operation.submission ∧
      attempt.attemptCount = operation.attemptCount + 1 := by
  have hsome : (operation.beginAsyncAttempt (state.now environment)
      asyncOperationLeaseSeconds).isSome = true := by
    rw [ProposalAsyncOperationRecord.beginAsyncAttempt, Option.isSome_map]
    exact environment.room state.clockReads
  obtain ⟨attempt, hattempt⟩ := Option.isSome_iff_exists.mp hsome
  have hproposal : attempt.proposalId = operation.proposalId := by
    obtain ⟨lease, -, rfl⟩ := Option.map_eq_some_iff.mp hattempt
    rfl
  obtain ⟨hsubmission, -, hcount, -⟩ :=
    ProposalAsyncOperationRecord.beginAsyncAttempt_eq_some hattempt
  obtain ⟨state', hpersist, hholds, hcalls⟩ := h.persist hsubmission
    fun proposalId hmem => .inl (hproposal.symm.trans hmem)
  refine ⟨attempt, state', ?_, hholds, hcalls, hsubmission, hcount⟩
  rw [persistAsyncAttemptStarted, hattempt]
  exact map_eq_ok.mpr ⟨state', hpersist, rfl⟩

theorem exists_runAsyncOperationAttempt (environment : AsyncRunEnvironment kept)
    (h : state.Holds kept operation) :
    ∃ outcome state' now, runAsyncOperationAttempt environment state operation =
        .ok (if operation.Requeues outcome then .retry else .terminal, state') ∧
      state'.Holds kept (operation.settled now outcome) ∧
      state'.executorCalls = state.executorCalls + 1 := by
  rcases hcalled : environment.executor state.executorCalls state.proposals with
    ⟨proposals, outcome⟩
  let after : AsyncRunState S T :=
    { state with proposals, executorCalls := state.executorCalls + 1 }
  have hafter : after.Holds kept operation := by
    refine ⟨?_, h.found⟩
    have hkeeps := environment.keeps state.executorCalls _ _ h.coherent
    rwa [hcalled] at hkeeps
  have hproposal : ∀ proposalId ∈ (operation.settled (after.now environment) outcome).proposalId,
      operation.proposalId = some proposalId ∨ kept.Known proposals proposalId := by
    intro proposalId hmem
    cases outcome with
    | returned returned response =>
      obtain rfl := Option.some.inj hmem
      have hknown := environment.known state.executorCalls state.proposals returned response
        (by rw [hcalled])
      rw [hcalled] at hknown
      exact .inr hknown
    | lifecycleError => exact .inl hmem
    | exception => exact .inl hmem
  obtain ⟨state', hpersist, hholds, hcalls⟩ :=
    hafter.persist ProposalAsyncOperationRecord.submission_settled hproposal
  refine ⟨outcome, state', after.now environment, ?_, hholds, hcalls⟩
  rw [runAsyncOperationAttempt, AsyncRunState.called, hcalled]
  exact map_eq_ok.mpr ⟨state', hpersist, rfl⟩

section Round

variable {operationId : String}

theorem round_missing (environment : AsyncRunEnvironment kept)
    (h : kept.repository.getOperation state.operations operationId = none) :
    runAsyncOperationRound environment state operationId = .ok (.terminal, state) := by
  rw [runAsyncOperationRound, h]
  rfl

theorem round_terminal (environment : AsyncRunEnvironment kept)
    (h : state.Holds kept operation) (hterminal : operation.isTerminal = true) :
    runAsyncOperationRound environment state operation.operationId = .ok (.terminal, state) := by
  rw [runAsyncOperationRound, h.found, shouldStopBeforeAttempt, if_pos hterminal]
  rfl

theorem round_exhausted (environment : AsyncRunEnvironment kept)
    (h : state.Holds kept operation) (hopen : operation.isTerminal = false)
    (hexhausted : operation.hasExhaustedAsyncAttempts = true) :
    ∃ state' now, runAsyncOperationRound environment state operation.operationId =
        .ok (.terminal, state') ∧
      state'.Holds kept (operation.markOperationFailed "ProposalLifecycleError"
        "PROPOSAL_ASYNC_ATTEMPTS_EXHAUSTED" now) ∧
      state'.executorCalls = state.executorCalls := by
  have hfailed : (operation.markOperationFailed "ProposalLifecycleError"
      "PROPOSAL_ASYNC_ATTEMPTS_EXHAUSTED" (state.now environment)).submission =
        operation.submission := rfl
  obtain ⟨state', hpersist, hholds, hcalls⟩ := h.persist hfailed fun _ => .inl
  refine ⟨state', _, ?_, hholds, hcalls⟩
  rw [runAsyncOperationRound, h.found, shouldStopBeforeAttempt, hopen, if_neg Bool.false_ne_true,
    if_pos hexhausted, hpersist]
  rfl

theorem round_attempts (environment : AsyncRunEnvironment kept)
    (h : state.Holds kept operation) (hopen : operation.isTerminal = false)
    (hleft : operation.attemptCount < operation.maxAttempts) :
    ∃ (attempt : ProposalAsyncOperationRecord) (outcome : ExecutorOutcome)
      (state' : AsyncRunState S T) (now : UtcDateTime),
      runAsyncOperationRound environment state operation.operationId =
        .ok (if attempt.Requeues outcome then .retry else .terminal, state') ∧
      state'.Holds kept (attempt.settled now outcome) ∧
      state'.executorCalls = state.executorCalls + 1 ∧
      attempt.submission = operation.submission ∧
      attempt.attemptCount = operation.attemptCount + 1 := by
  obtain ⟨attempt, started, hstarted, hholds, hcalls, hsubmission, hcount⟩ :=
    exists_persistAsyncAttemptStarted environment h
  obtain ⟨outcome, state', now, hattempt, hsettled, hcalled⟩ :=
    exists_runAsyncOperationAttempt environment hholds
  refine ⟨attempt, outcome, state', now, ?_, hsettled, hcalls ▸ hcalled, hsubmission, hcount⟩
  have hattempts : ¬ operation.hasExhaustedAsyncAttempts = true := by
    rw [ProposalAsyncOperationRecord.hasExhaustedAsyncAttempts_iff]
    omega
  rw [runAsyncOperationRound, h.found, shouldStopBeforeAttempt, hopen, if_neg Bool.false_ne_true,
    if_neg hattempts]
  show (persistAsyncAttemptStarted environment state operation >>= _) = _
  rw [hstarted]
  exact hattempt

end Round

/-- The loop returns after as many calls as there are attempts left, at most. -/
theorem loop_settles (environment : AsyncRunEnvironment kept)
    (h : state.Holds kept operation) (hopen : operation.isTerminal = false)
    {rounds : ℕ} (hrounds : operation.maxAttempts - operation.attemptCount < rounds) :
    ∃ final settled,
      runAsyncOperationUntilTerminal environment operation.operationId rounds state =
        some (.ok final) ∧
      final.executorCalls ≤
        state.executorCalls + (operation.maxAttempts - operation.attemptCount) ∧
      kept.repository.getOperation final.operations operation.operationId = some settled ∧
      SettledRecord settled ∧
      settled.attemptCount ≤ max (operation.maxAttempts : ℕ) operation.attemptCount := by
  -- the measure is the number of attempts left; each round that goes on uses up one
  induction rounds generalizing state operation with
  | zero => omega
  | succ rounds ih =>
    rw [runAsyncOperationUntilTerminal]
    by_cases hleft : operation.attemptCount < operation.maxAttempts
    · obtain ⟨attempt, outcome, state', now, hround, hholds, hcalls, hsubmission, hcount⟩ :=
        round_attempts environment h hopen hleft
      have hid : (attempt.settled now outcome).operationId = operation.operationId :=
        ProposalAsyncOperationRecord.operationId_of_submission
          (ProposalAsyncOperationRecord.submission_settled.trans hsubmission)
      have hmax : (attempt.settled now outcome).maxAttempts = operation.maxAttempts :=
        ProposalAsyncOperationRecord.maxAttempts_of_submission
          (ProposalAsyncOperationRecord.submission_settled.trans hsubmission)
      have hattempts : (attempt.settled now outcome).attemptCount = operation.attemptCount + 1 :=
        ProposalAsyncOperationRecord.attemptCount_settled.trans hcount
      rw [hround]
      by_cases hrequeued : attempt.Requeues outcome
      · rw [if_pos hrequeued]
        have hpending : (attempt.settled now outcome).isTerminal = false := by
          rw [ProposalAsyncOperationRecord.isTerminal,
            ProposalAsyncOperationRecord.status_settled hrequeued]
          rfl
        obtain ⟨final, settled, hreturns, hbound, hfound, hsettled, hleast⟩ :=
          ih hholds hpending (by rw [hmax, hattempts]; omega)
        rw [hid] at hreturns hfound
        rw [hmax, hattempts] at hbound hleast
        exact ⟨final, settled, hreturns, by omega, hfound, hsettled, by omega⟩
      · rw [if_neg hrequeued]
        refine ⟨state', _, rfl, by omega, hid ▸ hholds.found, settledRecord_settled hrequeued, ?_⟩
        rw [hattempts]
        omega
    · have hexhausted : operation.hasExhaustedAsyncAttempts = true := by
        rw [ProposalAsyncOperationRecord.hasExhaustedAsyncAttempts_iff]
        omega
      obtain ⟨state', now, hround, hholds, hcalls⟩ :=
        round_exhausted environment h hopen hexhausted
      rw [hround]
      exact ⟨state', _, rfl, by omega, hholds.found, settledRecord_markOperationFailed,
        le_max_right _ _⟩

end Rounds

/-! ## Stored operations -/

section Stored

variable {S T X W I : Type} {services : AsyncServices} {repository : AsyncOperationRepository S T}
  {executor : AsyncExecutor S X W I} {store store' : AsyncStore S T W} {worker : AsyncWorker X}
  {input : AsyncInput I} {rest : List ProposalAsyncOperationRecord}

variable (repository) in
/-- No terminal operation holds a lease. -/
def TerminalReleased (store : AsyncStore S T W) : Prop :=
  ∀ operationId operation, repository.getOperation store.operations operationId = some operation →
    operation.isTerminal = true → operation.leaseExpiresAt = none

/-- A step stores nothing, or a record that is not terminal, or one without a lease. -/
theorem released_of_step {stage : AsyncStage X} (hopen : AttemptsOpen stage)
    (h : AsyncStep services repository executor store input rest stage store' worker) :
    store'.operations = store.operations ∨
      ∃ record, repository.Stores store.operations record store'.operations ∧
        (record.isTerminal = true → record.leaseExpiresAt = none) := by
  cases h with
  | submits operation operations answer submitted new stores =>
    refine .inr ⟨operation, stores, fun hterminal => ?_⟩
    simp [ProposalAsyncOperationRecord.isTerminal, submitted.status] at hterminal
  | starts attempt operations began stores =>
    obtain ⟨-, hrunning, -⟩ := ProposalAsyncOperationRecord.beginAsyncAttempt_eq_some began
    refine .inr ⟨attempt, stores, fun hterminal => ?_⟩
    simp [ProposalAsyncOperationRecord.isTerminal, hrunning] at hterminal
  | @settles operation call outcome operations stores =>
    refine .inr ⟨_, stores, fun _ => ?_⟩
    cases outcome <;> rfl
  | fails operations stores => exact .inr ⟨_, stores, fun _ => rfl⟩
  | @quarantines operation decision operations stores =>
    refine .inr ⟨_, stores, fun _ => ?_⟩
    simp [buildQuarantinedAsyncOperation, hopen.1]
  | _ => exact .inl rfl

theorem released_outline (laws : repository.Lawful) :
    (asyncWorkers services repository executor).Outline
      (fun store => FailedWithoutResult repository store ∧ TerminalReleased repository store)
      (fun _ _ worker => AttemptsOpen worker.stage) (fun _ _ _ => True) where
  start i store call h := (terminal_outline laws).start i store call h.1
  step i store worker input store' worker' hinv hasserts hguard h := by
    obtain ⟨hfailed, hopen⟩ :=
      (terminal_outline laws).step i store worker input store' worker' hinv.1 hasserts hguard h
    refine ⟨⟨hfailed, fun operationId operation hfound hterminal => ?_⟩, hopen⟩
    rcases released_of_step hasserts (asyncStep_of_step laws h) with
      hsame | ⟨record, hstores, hlease⟩
    · rw [hsame] at hfound
      exact hinv.2 operationId operation hfound hterminal
    · rw [hstores] at hfound
      split at hfound
      · obtain rfl := Option.some.inj hfound
        exact hlease hterminal
      · exact hinv.2 operationId operation hfound hterminal
  stable _ _ _ _ _ _ _ _ _ _ _ _ hother := hother

end Stored

section Settling

variable {S T X W I : Type} {services : AsyncServices} {kept : KeptOperations S T}
  {executor : AsyncExecutor S X W I} {store : AsyncStore S T W}
  {p : Pool (AsyncStore S T W) (AsyncWorker X)} {labels : List (Label (AsyncCall X) (AsyncInput I))}

/-- Whatever was stored so far, and however the executor behaves, the loop returns; it calls the
executor at most as often as there were attempts left, and settles the operation. -/
theorem async_loop_settles (environment : AsyncRunEnvironment kept)
    (hempty : ∀ operationId, kept.repository.getOperation store.operations operationId = none)
    (hrun : run (asyncWorkers services kept.repository executor).next (.initial store) labels =
      some p)
    (hcoherent : kept.Coherent p.store.proposals p.store.operations) (operationId : String) :
    ∃ rounds final,
      runAsyncOperationUntilTerminal environment operationId rounds
        ⟨p.store.proposals, p.store.operations, 0, 0⟩ = some (.ok final) ∧
      match kept.repository.getOperation p.store.operations operationId with
      | none => final.executorCalls = 0
      | some operation => final.executorCalls ≤ operation.maxAttempts - operation.attemptCount ∧
        ∃ settled, kept.repository.getOperation final.operations operationId = some settled ∧
          (settled.status = .succeeded ∨ settled.status = .failed) ∧
          settled.attemptCount ≤ max (operation.maxAttempts : ℕ) operation.attemptCount ∧
          settled.leaseExpiresAt = none ∧
          (operation.isTerminal = false →
            settled.finishedAt ≠ none ∧ settled.resultJson.isSome ≠ settled.errorJson.isSome) := by
  have hreleased : TerminalReleased kept.repository p.store := by
    have hnone : FailedWithoutResult kept.repository store ∧
        TerminalReleased kept.repository store := by
      constructor <;> intro operationId operation hfound <;>
        rw [hempty operationId] at hfound <;> cases hfound
    exact ((released_outline kept.laws).holds_run (Program.holds_initial hnone)
      Program.everyStep_guard_true hrun).store.2
  rcases hfound : kept.repository.getOperation p.store.operations operationId with _ | operation
  · refine ⟨1, ⟨p.store.proposals, p.store.operations, 0, 0⟩, ?_, rfl⟩
    rw [runAsyncOperationUntilTerminal, round_missing environment hfound]
  obtain rfl := kept.laws.keyed _ _ _ hfound
  have hholds : (⟨p.store.proposals, p.store.operations, 0, 0⟩ : AsyncRunState S T).Holds kept
      operation := ⟨hcoherent, hfound⟩
  cases hterminal : operation.isTerminal with
  | true =>
    refine ⟨1, ⟨p.store.proposals, p.store.operations, 0, 0⟩, ?_, Nat.zero_le _, operation, hfound,
      ProposalAsyncOperationRecord.isTerminal_iff.mp hterminal, le_max_right _ _,
      hreleased _ _ hfound hterminal, fun hopen => by rw [hterminal] at hopen; cases hopen⟩
    rw [runAsyncOperationUntilTerminal, round_terminal environment hholds hterminal]
  | false =>
    obtain ⟨final, settled, hreturns, hcalls, hsettled, hrecord, hcount⟩ :=
      loop_settles environment hholds hterminal (Nat.lt_succ_self _)
    refine ⟨_, final, hreturns, by simpa using hcalls, settled, hsettled,
      ProposalAsyncOperationRecord.isTerminal_iff.mp hrecord.terminal, hcount, hrecord.released,
      fun _ => ⟨hrecord.finished, hrecord.outcome⟩⟩

end Settling

namespace Sample

theorem clock_room (n : ℕ) :
    ((utcClock (n % 60)).addSeconds? asyncOperationLeaseSeconds).isSome = true := by
  have hroom : ∀ minute : Fin 60,
      ((utcClock minute).addSeconds? asyncOperationLeaseSeconds).isSome = true := by
    decide +kernel
  exact hroom ⟨n % 60, Nat.mod_lt _ (by omega)⟩

/-- An executor that is disturbed once and succeeds then. -/
def recovering : AsyncRunEnvironment inMemoryKeptOperations where
  executor n proposals := (proposals,
    if n = 0 then .exception "ConnectionError" "" else .returned "pp_000" [])
  utcNow n := utcClock (n % 60)
  keeps _ _ _ _ := trivial
  known _ _ _ _ _ := trivial
  room n := clock_room n

/-- A creation that was submitted and not executed yet. -/
def submittedOnly : List (Label (AsyncCall Unit) (AsyncInput ExecutorOutcome)) :=
  [.start 0 (.acceptCreateProposal ⟨"advisor_1", [("created_by", .str "advisor_1")]⟩
      (some "key-1") none),
    stepAt 0 0 (.exception "" "")]

end Sample

open Sample in
/-- The theorem at an operation whose first attempt is disturbed. -/
theorem async_loop_settles_recovering : ∃ p operation rounds final settled,
    run asyncRuns.next noOperations submittedOnly = some p ∧
    p.store.operations.getOperation "pop_000" = some operation ∧ operation.attemptCount = 0 ∧
    runAsyncOperationUntilTerminal recovering "pop_000" rounds
      ⟨p.store.proposals, p.store.operations, 0, 0⟩ = some (.ok final) ∧
    final.executorCalls ≤ operation.maxAttempts ∧
    final.operations.getOperation "pop_000" = some settled ∧
    (settled.status = .succeeded ∨ settled.status = .failed) ∧ settled.leaseExpiresAt = none := by
  have hview : (run asyncRuns.next noOperations submittedOnly).map (fun p =>
      (p.store.operations.getOperation "pop_000").map (·.attemptCount)) = some (some 0) := by
    decide +kernel
  obtain ⟨p, hp, hcount⟩ := Option.map_eq_some_iff.mp hview
  obtain ⟨operation, hfound, hzero⟩ := Option.map_eq_some_iff.mp hcount
  obtain ⟨rounds, final, hreturns, hsettles⟩ :=
    async_loop_settles recovering (fun _ => rfl) hp trivial "pop_000"
  have hfound' : inMemoryKeptOperations.repository.getOperation p.store.operations "pop_000" =
      some operation := hfound
  rw [hfound'] at hsettles
  obtain ⟨hcalls, settled, hsettled, hstatus, -, hlease, -⟩ := hsettles
  exact ⟨p, operation, rounds, final, settled, hp, hfound, hzero, hreturns, by omega, hsettled,
    hstatus, hlease⟩

end LotusAdvise.Proposals

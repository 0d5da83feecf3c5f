import LotusAdvise.Proposals.AsyncWorkers

/-! # Terminal operations

A succeeded or failed operation stays as it is, except that an operator may put a failed one
without attempts left into quarantine. Every write stores a whole record from a copy, so
this rests on the copies: none that is out of date may replace a terminal record.
-/

namespace LotusAdvise.Proposals

open Runs Workers

/-- A failed operation without attempts left that is not in quarantine. -/
structure RetryExhausted (operation : ProposalAsyncOperationRecord) : Prop where
  status : operation.status = .failed
  exhausted : operation.hasExhaustedAsyncAttempts = true
  quarantined : isQuarantined operation = false

theorem retryExhausted_of_classify {operation : ProposalAsyncOperationRecord} {asOf : UtcDateTime}
    (h : classifyAsyncOperationForControl operation asOf ∈
      [AsyncOperationControlStatus.pending, .recoverableStuck, .retryExhausted])
    (hterminal : operation.isTerminal = true) : RetryExhausted operation := by
  unfold classifyAsyncOperationForControl at h
  cases hq : isQuarantined operation with
  | true => simp [hq] at h
  | false =>
    rcases ProposalAsyncOperationRecord.isTerminal_iff.mp hterminal with hstatus | hstatus
    · simp [hq, hstatus] at h
    · cases hexhausted : operation.hasExhaustedAsyncAttempts with
      | true => exact ⟨hstatus, hexhausted, hq⟩
      | false => simp [hq, hstatus, hexhausted] at h

/-- What a terminal operation may become: nothing else, or the same operation in quarantine. -/
inductive Kept (operation : ProposalAsyncOperationRecord) : ProposalAsyncOperationRecord → Prop where
  | same : Kept operation operation
  | quarantined (decision : AsyncOperationControlDecision) (now : UtcDateTime)
    (exhausted : RetryExhausted operation) (effective : decision.idempotentNoop = false) :
    Kept operation (buildQuarantinedAsyncOperation operation decision now)

/-- Status, result and error of a terminal operation, later on. -/
structure StaysSettled (operation operation' : ProposalAsyncOperationRecord) : Prop where
  status : operation'.status = operation.status
  result : operation'.resultJson = operation.resultJson
  error : operation'.errorJson = operation.errorJson ∨
    RetryExhausted operation ∧ isQuarantined operation' = true

section Kept

variable {a b c : ProposalAsyncOperationRecord}

theorem Kept.trans (hab : Kept a b) (hbc : Kept b c) : Kept a c := by
  cases hab with
  | same => exact hbc
  | quarantined decision now exhausted effective =>
    cases hbc with
    | same => exact .quarantined decision now exhausted effective
    | quarantined _ _ again _ =>
      have hquarantined := again.quarantined
      rw [isQuarantined_buildQuarantined effective] at hquarantined
      cases hquarantined

theorem Kept.isTerminal (h : Kept a b) (ha : a.isTerminal = true) : b.isTerminal = true := by
  cases h with
  | same => exact ha
  | quarantined decision now exhausted effective =>
    exact isTerminal_of_isQuarantined (isQuarantined_buildQuarantined effective)

theorem Kept.staysSettled (h : Kept a b) (ha : a.status = .failed → a.resultJson = none) :
    StaysSettled a b := by
  cases h with
  | same => exact ⟨rfl, rfl, .inl rfl⟩
  | quarantined decision now exhausted effective =>
    refine ⟨?_, ?_, .inr ⟨exhausted, isQuarantined_buildQuarantined effective⟩⟩
    · simp [buildQuarantinedAsyncOperation, effective, exhausted.status]
    · simp [buildQuarantinedAsyncOperation, effective, ha exhausted.status]

end Kept

section Workers

variable {S T X W I : Type} {services : AsyncServices} {repository : AsyncOperationRepository S T}
  {executor : AsyncExecutor S X W I} {store store' : AsyncStore S T W} {worker : AsyncWorker X}
  {input : AsyncInput I} {operationId : String} {operation : ProposalAsyncOperationRecord}

variable (repository) in
/-- A failed operation has no result. -/
def FailedWithoutResult (store : AsyncStore S T W) : Prop :=
  ∀ operationId operation, repository.getOperation store.operations operationId = some operation →
    operation.status = .failed → operation.resultJson = none

/-- A worker attempts operations that are open, and quarantines open or exhausted ones. -/
def AttemptsOpen : AsyncStage X → Prop
  | .starting operation _ => operation.isTerminal = false
  | .running operation _ _ => operation.isTerminal = false
  | .settling operation _ _ => operation.isTerminal = false
  | .quarantining operation decision =>
    decision.idempotentNoop = false ∧ (operation.isTerminal = true → RetryExhausted operation)
  | _ => True

variable (repository) in
/-- The copy that is about to be stored does not replace a terminal record unless it was made of that
record, and no failure replaces one. -/
def ReplacesCurrent (store : AsyncStore S T W) (worker : AsyncWorker X) (_ : AsyncInput I) : Prop :=
  match worker.stage with
  | .starting operation _ | .settling operation _ _ | .quarantining operation _ =>
    ∀ stored ∈ repository.getOperation store.operations operation.operationId,
      stored.isTerminal = true → stored = operation
  | .failing operation _ =>
    ∀ stored ∈ repository.getOperation store.operations operation.operationId,
      stored.isTerminal = false
  | _ => True

instance (store : AsyncStore S T W) (worker : AsyncWorker X) (input : AsyncInput I) :
    Decidable (ReplacesCurrent repository store worker input) := by
  unfold ReplacesCurrent
  refine AsyncStage.casesOn worker.stage ?_ ?_ ?_ ?_ ?_ ?_ ?_ ?_ ?_ ?_ ?_ ?_ ?_ ?_ ?_ <;> intros <;>
    infer_instance

theorem attemptsOpen_recovering (list : List ProposalAsyncOperationRecord) :
    AttemptsOpen (AsyncWorker.recovering list : AsyncWorker X).stage := by
  cases list with
  | nil => trivial
  | cons operation rest =>
    simp only [AsyncWorker.recovering]
    split <;> trivial

theorem FailedWithoutResult.stores (h : FailedWithoutResult repository store)
    (hstores : repository.Stores store.operations operation store'.operations)
    (hnone : operation.status = .failed → operation.resultJson = none) :
    FailedWithoutResult repository store' := by
  intro id stored hstored hfailed
  rw [hstores id] at hstored
  split at hstored
  · obtain rfl := Option.some.inj hstored
    exact hnone hfailed
  · exact h id stored hstored hfailed

theorem result_settled {now : UtcDateTime} {outcome : ExecutorOutcome}
    (h : (operation.settled now outcome).status = .failed) :
    (operation.settled now outcome).resultJson = none := by
  cases outcome with
  | returned => cases h
  | lifecycleError => rfl
  | exception => rfl

theorem terminal_outline (laws : repository.Lawful) :
    (asyncWorkers services repository executor).Outline (FailedWithoutResult repository)
      (fun _ _ worker => AttemptsOpen worker.stage) (fun _ _ _ => True) where
  start _ _ call _ := by cases call <;> trivial
  step _ store worker input store' worker' hinv hasserts _ h := by
    cases worker with
    | mk stage rest =>
    cases asyncStep_of_step laws h with
    | ends => exact ⟨hinv, trivial⟩
    | answers => exact ⟨hinv, trivial⟩
    | submits operation operations answer submitted new stores =>
      refine ⟨hinv.stores stores fun hfailed => ?_, trivial⟩
      cases submitted.status.symm.trans hfailed
    | correlates => exact ⟨hinv, trivial⟩
    | recovers list => exact ⟨hinv, attemptsOpen_recovering list⟩
    | refuses => exact ⟨hinv, trivial⟩
    | resolves => exact ⟨hinv, trivial⟩
    | exhausts => exact ⟨hinv, trivial⟩
    | prepares operation found open_ left => exact ⟨hinv, open_⟩
    | starts attempt operations began stores =>
      obtain ⟨-, hrunning, -⟩ := ProposalAsyncOperationRecord.beginAsyncAttempt_eq_some began
      refine ⟨?_, ?_⟩
      · refine hinv.stores stores fun hfailed => ?_
        cases hrunning.symm.trans hfailed
      · simp [AttemptsOpen, ProposalAsyncOperationRecord.isTerminal, hrunning]
    | executes proposals write next step =>
      refine ⟨hinv, ?_⟩
      cases next with
      | inl x => exact hasserts
      | inr outcome => exact hasserts
    | settles operations stores =>
      refine ⟨hinv.stores stores result_settled, ?_⟩
      unfold afterSettling
      split
      · trivial
      · exact attemptsOpen_recovering _
    | fails operations stores => exact ⟨hinv.stores stores fun _ => rfl, attemptsOpen_recovering _⟩
    | decides operation decision found effective status =>
      exact ⟨hinv, effective, retryExhausted_of_classify status⟩
    | quarantines operations stores =>
      refine ⟨hinv.stores stores fun _ => ?_, trivial⟩
      simp [buildQuarantinedAsyncOperation, hasserts.1]
    | commands proposals write next =>
      refine ⟨hinv, ?_⟩
      cases next <;> trivial
  stable _ _ _ _ _ _ _ _ _ _ _ _ hother := hother

/-- One step keeps a terminal operation when it replaces none from an old copy. -/
theorem kept_of_step (laws : repository.Lawful) (hopen : AttemptsOpen worker.stage)
    (hguard : ReplacesCurrent repository store worker input) {worker' : AsyncWorker X}
    (hstep : (asyncWorkers services repository executor).step store worker input =
      some (store', worker'))
    (hfound : repository.getOperation store.operations operationId = some operation)
    (hterminal : operation.isTerminal = true) :
    ∃ operation', repository.getOperation store'.operations operationId = some operation' ∧
      Kept operation operation' := by
  have hid : operation.operationId = operationId := laws.keyed _ _ _ hfound
  -- a record stored under the identifier would replace the terminal one
  have keep : ∀ {record : ProposalAsyncOperationRecord} {operations : T},
      repository.Stores store.operations record operations →
      (record.operationId = operationId → Kept operation record) →
      ∃ operation', repository.getOperation operations operationId = some operation' ∧
        Kept operation operation' := by
    intro record operations hstores hkept
    by_cases heq : record.operationId = operationId
    · exact ⟨record, heq ▸ hstores.self, hkept heq⟩
    · exact ⟨operation, (hstores.other heq).trans hfound, .same⟩
  have current : ∀ {record : ProposalAsyncOperationRecord}, record.operationId = operationId →
      operation ∈ repository.getOperation store.operations record.operationId := by
    rintro record rfl
    exact hfound
  have clash : ∀ {record : ProposalAsyncOperationRecord}, record.isTerminal = false →
      operation = record → False := by
    rintro record hopen rfl
    rw [hterminal] at hopen
    cases hopen
  cases worker with
  | mk stage rest =>
  cases asyncStep_of_step laws hstep with
  | ends => exact ⟨operation, hfound, .same⟩
  | answers => exact ⟨operation, hfound, .same⟩
  | submits record operations answer submitted new stores =>
    refine keep stores fun heq => ?_
    rw [heq, hfound] at new
    cases new
  | correlates => exact ⟨operation, hfound, .same⟩
  | recovers => exact ⟨operation, hfound, .same⟩
  | refuses => exact ⟨operation, hfound, .same⟩
  | resolves => exact ⟨operation, hfound, .same⟩
  | exhausts => exact ⟨operation, hfound, .same⟩
  | prepares => exact ⟨operation, hfound, .same⟩
  | @starts record call attempt operations began stores =>
    refine keep stores fun heq => ?_
    obtain ⟨hsubmission, -⟩ := ProposalAsyncOperationRecord.beginAsyncAttempt_eq_some began
    have hrecord : record.operationId = operationId :=
      (ProposalAsyncOperationRecord.operationId_of_submission hsubmission).symm.trans heq
    exact (clash hopen (hguard operation (current hrecord) hterminal)).elim
  | executes => exact ⟨operation, hfound, .same⟩
  | @settles record call outcome operations stores =>
    refine keep stores fun heq => ?_
    have hrecord : record.operationId = operationId :=
      (ProposalAsyncOperationRecord.operationId_of_submission
        ProposalAsyncOperationRecord.submission_settled).symm.trans heq
    exact (clash hopen (hguard operation (current hrecord) hterminal)).elim
  | @fails record message operations stores =>
    refine keep stores fun heq => ?_
    have hrecord : record.operationId = operationId := heq
    exact (clash (hguard operation (current hrecord)) rfl).elim
  | decides => exact ⟨operation, hfound, .same⟩
  | @quarantines record decision operations stores =>
    refine keep stores fun heq => ?_
    have hrecord : record.operationId = operationId :=
      (ProposalAsyncOperationRecord.operationId_of_submission
        submission_buildQuarantined).symm.trans heq
    have hcopy : operation = record := hguard operation (current hrecord) hterminal
    rw [← hcopy] at hopen ⊢
    exact .quarantined decision input.now (hopen.2 hterminal) hopen.1
  | commands => exact ⟨operation, hfound, .same⟩

variable {p q : Pool (AsyncStore S T W) (AsyncWorker X)}
  {before after : List (Label (AsyncCall X) (AsyncInput I))}

/-- A terminal operation stays settled in every run in which no terminal record is replaced from an
old copy or by a failure; a quarantine changes the error of a retry-exhausted one, once. -/
theorem terminal_operation_stays_settled (laws : repository.Lawful)
    (hstore : FailedWithoutResult repository store)
    (hbefore : run (asyncWorkers services repository executor).next (.initial store) before = some p)
    (hafter : run (asyncWorkers services repository executor).next p after = some q)
    (hguard : EveryStep (asyncWorkers services repository executor).next
      (Program.Guard (ReplacesCurrent repository)) p after)
    (hfound : repository.getOperation p.store.operations operationId = some operation)
    (hterminal : operation.isTerminal = true) :
    ∃ operation', repository.getOperation q.store.operations operationId = some operation' ∧
      StaysSettled operation operation' := by
  have outline : (asyncWorkers services repository executor).Outline _ _ _ := terminal_outline laws
  have hp := outline.holds_run (Program.holds_initial hstore) Program.everyStep_guard_true hbefore
  have hrun : Program.Holds (FailedWithoutResult repository)
      (fun _ _ worker => AttemptsOpen worker.stage) q ∧
      ∃ operation', repository.getOperation q.store.operations operationId = some operation' ∧
        Kept operation operation' := by
    refine invariant_of_everyStep (I := fun pool =>
      Program.Holds (FailedWithoutResult repository)
        (fun _ _ worker => AttemptsOpen worker.stage) pool ∧
      ∃ operation', repository.getOperation pool.store.operations operationId = some operation' ∧
        Kept operation operation') ?_ ⟨hp, operation, hfound, .same⟩ hguard hafter
    rintro pool label next ⟨hpool, current, hcurrent, hkept⟩ hnext hlabel
    refine ⟨outline.holds_next hpool hnext ?_, ?_⟩
    · cases label with
      | start => trivial
      | advance => exact fun _ _ => trivial
    · cases (Program.next_iff _).mp hnext with
      | start => exact ⟨current, hcurrent, hkept⟩
      | advance i input worker store' worker' hworker hstep =>
        obtain ⟨later, hlater, hstay⟩ := kept_of_step laws (hpool.worker i worker hworker)
          (hlabel worker hworker) hstep hcurrent (hkept.isTerminal hterminal)
        exact ⟨later, hlater, hkept.trans hstay⟩
  obtain ⟨-, later, hlater, hkept⟩ := hrun
  exact ⟨later, hlater, hkept.staysSettled (hp.store _ _ hfound)⟩

end Workers

namespace Sample

/-- Three attempts that end with an exception. -/
def exhaust : List (Label (AsyncCall Unit) (AsyncInput ExecutorOutcome)) :=
  submitThenExecute 1 ++ (List.replicate 12 (stepAt 1 2 (.exception "ConnectionError" "")))

/-- An operator quarantines the operation. -/
def quarantine : List (Label (AsyncCall Unit) (AsyncInput ExecutorOutcome)) :=
  [.start 2 (.quarantine "pop_000" operator "ctl-1" "dependency outage"),
    stepAt 2 3 (.exception "" ""), stepAt 2 4 (.exception "" "")]

/-- Status and error code of the operation. -/
def statusAndCode (pool : Pool (AsyncStore InMemoryStore AsyncOperationDicts Unit)
    (AsyncWorker Unit)) : Option (ProposalAsyncOperationStatus × Option Json) :=
  (pool.store.operations.getOperation "pop_000").map fun operation =>
    (operation.status, operation.errorJson.map fun error => JsonObject.get error "code")

end Sample

open Sample in
/-- The error of an operation that ran out of attempts is replaced by its quarantine. -/
theorem terminal_operation_quarantined :
    ¬ ∀ before after p q, run asyncRuns.next noOperations before = some p →
      run asyncRuns.next p after = some q →
      ∀ operation, p.store.operations.getOperation "pop_000" = some operation →
        operation.isTerminal = true →
        ∃ operation', q.store.operations.getOperation "pop_000" = some operation' ∧
          operation'.status = operation.status ∧ operation'.resultJson = operation.resultJson ∧
          operation'.errorJson = operation.errorJson := by
  intro hfrozen
  have hfirst : (run asyncRuns.next noOperations exhaust).map statusAndCode =
      some (some (.failed, some (.str "ConnectionError"))) := by decide +kernel
  have hlast : (run asyncRuns.next noOperations (exhaust ++ quarantine)).map statusAndCode =
      some (some (.failed, some (.str asyncOperationQuarantinedCode))) := by decide +kernel
  obtain ⟨p, hp, hview⟩ := Option.map_eq_some_iff.mp hfirst
  obtain ⟨q, hq, hview'⟩ := Option.map_eq_some_iff.mp hlast
  obtain ⟨p', hp', hafter⟩ := run_append_eq_some.mp hq
  obtain rfl := Option.some.inj (hp.symm.trans hp')
  obtain ⟨operation, hfound, hfields⟩ := Option.map_eq_some_iff.mp hview
  obtain ⟨hstatus, hcode⟩ := Prod.mk.inj hfields
  obtain ⟨operation', hfound', -, -, herror⟩ := hfrozen _ _ _ _ hp hafter operation hfound
    (by simp [ProposalAsyncOperationRecord.isTerminal, hstatus])
  rw [statusAndCode, hfound', Option.map_some, herror, hcode] at hview'
  simp [asyncOperationQuarantinedCode] at hview'

open Sample in
/-- The theorem at the run in which an operation fails and is put into quarantine. -/
theorem terminal_operation_stays_settled_quarantine : ∃ p q operation operation',
    run asyncRuns.next noOperations exhaust = some p ∧
    run asyncRuns.next p quarantine = some q ∧
    p.store.operations.getOperation "pop_000" = some operation ∧
    q.store.operations.getOperation "pop_000" = some operation' ∧
    StaysSettled operation operation' := by
  have hfirst : (run asyncRuns.next noOperations exhaust).map statusAndCode =
      some (some (.failed, some (.str "ConnectionError"))) := by decide +kernel
  have hguarded : (run asyncRuns.next noOperations exhaust).map (fun p =>
      decide (EveryStep asyncRuns.next
        (Program.Guard (ReplacesCurrent inMemoryAsyncOperations)) p quarantine ∧
        (run asyncRuns.next p quarantine).isSome)) = some true := by decide +kernel
  obtain ⟨p, hp, hview⟩ := Option.map_eq_some_iff.mp hfirst
  rw [hp, Option.map_some, Option.some.injEq, decide_eq_true_eq] at hguarded
  obtain ⟨q, hq⟩ := Option.isSome_iff_exists.mp hguarded.2
  obtain ⟨operation, hfound, hfields⟩ := Option.map_eq_some_iff.mp hview
  obtain ⟨hstatus, -⟩ := Prod.mk.inj hfields
  obtain ⟨operation', hfound', hsettled⟩ := terminal_operation_stays_settled
    AsyncOperationDicts.lawful (fun _ _ h => by cases h) hp hq hguarded.1 hfound
    (by simp [ProposalAsyncOperationRecord.isTerminal, hstatus])
  exact ⟨p, q, operation, operation', hp, hq, hfound, hfound', hsettled⟩

end LotusAdvise.Proposals

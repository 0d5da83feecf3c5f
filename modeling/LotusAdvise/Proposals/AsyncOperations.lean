import LotusAdvise.Proposals.Commands
import Mathlib.Data.PNat.Defs

/-! # Asynchronous operations

An operation is submitted with its payload, attempted under a lease, and settled. The
functions here are pure: an attempt and its outcome change a copy of the record, which the
caller then stores as a whole.
-/

namespace LotusAdvise.Proposals

inductive ProposalAsyncOperationType where
  | createProposal
  | createProposalVersion
deriving DecidableEq

inductive ProposalAsyncOperationStatus where
  | pending
  | running
  | succeeded
  | failed
deriving DecidableEq

def ProposalAsyncOperationType.text : ProposalAsyncOperationType → String
  | .createProposal => "CREATE_PROPOSAL"
  | .createProposalVersion => "CREATE_PROPOSAL_VERSION"

def ProposalAsyncOperationStatus.text : ProposalAsyncOperationStatus → String
  | .pending => "PENDING"
  | .running => "RUNNING"
  | .succeeded => "SUCCEEDED"
  | .failed => "FAILED"

structure ProposalAsyncOperationRecord where
  operationId : String
  operationType : ProposalAsyncOperationType
  status : ProposalAsyncOperationStatus
  correlationId : String
  idempotencyKey : Option String
  proposalId : Option String
  createdBy : String
  createdAt : UtcDateTime
  payloadJson : JsonObject
  attemptCount : ℕ
  maxAttempts : ℕ+
  startedAt : Option UtcDateTime
  leaseExpiresAt : Option UtcDateTime
  finishedAt : Option UtcDateTime
  resultJson : Option JsonObject
  errorJson : Option JsonObject
deriving DecidableEq

/-- The environment of asynchronous execution: validation of stored payloads, dumps, and the class
names and texts of exceptions that are no lifecycle errors. -/
structure AsyncServices extends Services where
  validateCreateRequest : JsonObject → Option ProposalCreateRequest
  validateVersionRequest : JsonObject → Option ProposalVersionRequest
  /-- `payload.model_dump(mode="json", exclude_none=True)` -/
  createDumpExcludingNone : ProposalCreateRequest → JsonObject
  versionDumpExcludingNone : ProposalVersionRequest → JsonObject
  dumpCreateResponse : ProposalCreateResponse → JsonObject
  describeException : ProposalError → String × String

def asyncOperationLeaseSeconds : ℕ := 60

def asyncDefaultMaxAttempts : ℕ+ := 3

section Submission

variable (services : AsyncServices)

def hashAsyncCreateSubmission (payload : ProposalCreateRequest) : Except String String :=
  if JsonObject.get payload.dump "input_mode" = .str "stateful" then
    .ok (services.hashCanonicalPayload (services.createDumpExcludingNone payload))
  else
    (services.resolveCreateRequest payload).map (buildCreateRequestHash services.toServices payload)

def hashAsyncVersionSubmission (proposalId : String) (payload : ProposalVersionRequest) :
    Except String String :=
  if JsonObject.get payload.dump "input_mode" = .str "stateful" then
    .ok (services.hashCanonicalPayload
      (("proposal_id", .str proposalId) :: services.versionDumpExcludingNone payload))
  else
    (services.resolveVersionRequest payload).map fun resolved =>
      services.hashCanonicalPayload [("proposal_id", .str proposalId),
        ("created_by", .str payload.createdBy),
        ("expected_current_version_no", .ofInt? payload.expectedCurrentVersionNo),
        ("advisory_context", .obj (advisoryContextDump resolved))]

def buildCreateProposalAsyncOperation (operationId correlationId idempotencyKey : String)
    (payload : ProposalCreateRequest) (submissionHash : String) (createdAt : UtcDateTime)
    (maxAttempts : ℕ+) : ProposalAsyncOperationRecord where
  operationId := operationId
  operationType := .createProposal
  status := .pending
  correlationId := correlationId
  idempotencyKey := some idempotencyKey
  proposalId := none
  createdBy := payload.createdBy
  createdAt := createdAt
  payloadJson := [("payload", .obj payload.dump), ("idempotency_key", .str idempotencyKey),
    ("submission_hash", .str submissionHash)]
  attemptCount := 0
  maxAttempts := maxAttempts
  startedAt := none
  leaseExpiresAt := none
  finishedAt := none
  resultJson := none
  errorJson := none

def buildCreateVersionAsyncOperation (operationId proposalId correlationId : String)
    (payload : ProposalVersionRequest) (submissionHash : String) (createdAt : UtcDateTime)
    (maxAttempts : ℕ+) : ProposalAsyncOperationRecord where
  operationId := operationId
  operationType := .createProposalVersion
  status := .pending
  correlationId := correlationId
  idempotencyKey := none
  proposalId := some proposalId
  createdBy := payload.createdBy
  createdAt := createdAt
  payloadJson := [("proposal_id", .str proposalId), ("payload", .obj payload.dump),
    ("submission_hash", .str submissionHash)]
  attemptCount := 0
  maxAttempts := maxAttempts
  startedAt := none
  leaseExpiresAt := none
  finishedAt := none
  resultJson := none
  errorJson := none

def isMatchingCreateProposalAsyncSubmission (operation : ProposalAsyncOperationRecord)
    (idempotencyKey submissionHash : String) : Bool :=
  operation.operationType = .createProposal && operation.idempotencyKey = some idempotencyKey &&
    JsonObject.get operation.payloadJson "submission_hash" = .str submissionHash

def isMatchingCreateVersionAsyncSubmission (operation : ProposalAsyncOperationRecord)
    (proposalId submissionHash : String) : Bool :=
  operation.operationType = .createProposalVersion && operation.proposalId = some proposalId &&
    JsonObject.get operation.payloadJson "submission_hash" = .str submissionHash

end Submission

section Payloads

/-- The call an executor makes: the command, with what it was resolved to. -/
inductive ExecutorCall where
  | createProposal (payload : ProposalCreateRequest) (idempotencyKey correlationId : String)
    (replayLineage : JsonObject)
  | createVersion (proposalId : String) (payload : ProposalVersionRequest) (correlationId : String)
    (replayLineage : JsonObject)

/-- What a caller of an execution passes besides the operation. -/
structure AsyncFallback where
  createPayload : Option ProposalCreateRequest := none
  versionPayload : Option ProposalVersionRequest := none
  idempotencyKey : Option String := none
  proposalId : Option String := none
  correlationId : Option String := none

/-- A payload that cannot be resolved, a `ProposalLifecycleError` with the message. -/
structure AsyncPayloadResolutionFailure where
  message : String

def firstNonBlankString : List Json → Option String
  | [] => none
  | .str value :: rest =>
    if Text.strip value = "" then firstNonBlankString rest else some (Text.strip value)
  | _ :: rest => firstNonBlankString rest

def buildAsyncReplayLineage (operation : ProposalAsyncOperationRecord) : JsonObject :=
  [("async_operation_id", .str operation.operationId),
    ("async_operation_type", .str operation.operationType.text),
    ("correlation_id", .str operation.correlationId),
    ("idempotency_key", .ofText? operation.idempotencyKey)]

variable (services : AsyncServices) (operation : ProposalAsyncOperationRecord)
  (fallback : AsyncFallback)

/-- The stored payload, or the caller's when none is stored. -/
def resolveAsyncPayload {P : Type} (validate : JsonObject → Option P) (fallbackPayload : Option P) :
    Except AsyncPayloadResolutionFailure P :=
  match JsonObject.get operation.payloadJson "payload" with
  | .obj payloadJson => (validate payloadJson).elim (.error ⟨"PROPOSAL_ASYNC_PAYLOAD_INVALID"⟩) .ok
  | _ => fallbackPayload.elim (.error ⟨"PROPOSAL_ASYNC_PAYLOAD_INVALID"⟩) .ok

def asyncIdempotencyKey : Option String :=
  firstNonBlankString [JsonObject.get operation.payloadJson "idempotency_key",
    .ofText? operation.idempotencyKey, .ofText? fallback.idempotencyKey]

def asyncProposalId : Option String :=
  firstNonBlankString [JsonObject.get operation.payloadJson "proposal_id",
    .ofText? operation.proposalId, .ofText? fallback.proposalId]

/-- `fallback_correlation_id or operation.correlation_id` -/
def asyncCorrelationId : String := (presentKey fallback.correlationId).getD operation.correlationId

def resolveAsyncCreatePayload : Except AsyncPayloadResolutionFailure ExecutorCall := do
  let payload ← resolveAsyncPayload operation services.validateCreateRequest fallback.createPayload
  match asyncIdempotencyKey operation fallback with
  | none => .error ⟨"PROPOSAL_ASYNC_IDEMPOTENCY_KEY_REQUIRED"⟩
  | some idempotencyKey =>
    return .createProposal payload idempotencyKey (asyncCorrelationId operation fallback)
      (buildAsyncReplayLineage operation)

def resolveAsyncVersionPayload : Except AsyncPayloadResolutionFailure ExecutorCall := do
  let payload ← resolveAsyncPayload operation services.validateVersionRequest
    fallback.versionPayload
  match asyncProposalId operation fallback with
  | none => .error ⟨"PROPOSAL_ASYNC_PROPOSAL_ID_REQUIRED"⟩
  | some proposalId =>
    return .createVersion proposalId payload (asyncCorrelationId operation fallback)
      (buildAsyncReplayLineage operation)

def resolveAsyncCall : ProposalAsyncOperationType →
    Except AsyncPayloadResolutionFailure ExecutorCall
  | .createProposal => resolveAsyncCreatePayload services operation fallback
  | .createProposalVersion => resolveAsyncVersionPayload services operation fallback

end Payloads

/-- How an executor call ends. -/
inductive ExecutorOutcome where
  | returned (proposalId : String) (response : JsonObject)
  | lifecycleError (name message : String)
  | exception (name message : String)

namespace ProposalAsyncOperationRecord

variable (operation : ProposalAsyncOperationRecord)

/-- `status in ASYNC_TERMINAL_STATUSES` -/
def isTerminal : Bool := operation.status = .succeeded || operation.status = .failed

def hasExhaustedAsyncAttempts : Bool := operation.maxAttempts ≤ operation.attemptCount

/-- The attempt, unless its lease would end beyond the calendar. -/
def beginAsyncAttempt (attemptStartedAt : UtcDateTime) (leaseSeconds : ℕ) :
    Option ProposalAsyncOperationRecord :=
  (attemptStartedAt.addSeconds? leaseSeconds).map fun leaseExpiresAt =>
    { operation with
      status := .running
      attemptCount := operation.attemptCount + 1
      startedAt := some attemptStartedAt
      leaseExpiresAt := some leaseExpiresAt
      finishedAt := none
      resultJson := none
      errorJson := none }

def markOperationSucceeded (proposalId : String) (response : JsonObject) (finishedAt : UtcDateTime) :
    ProposalAsyncOperationRecord :=
  { operation with
    status := .succeeded
    proposalId := some proposalId
    resultJson := some response
    errorJson := none
    leaseExpiresAt := none
    finishedAt := some finishedAt }

def markOperationFailed (code message : String) (finishedAt : UtcDateTime) :
    ProposalAsyncOperationRecord :=
  { operation with
    status := .failed
    resultJson := none
    errorJson := some [("code", .str code), ("message", .str message)]
    leaseExpiresAt := none
    finishedAt := some finishedAt }

/-- The operation waits for another attempt while it has one left. -/
def applyRuntimeExceptionOutcome (name message : String) (finishedAt : UtcDateTime) :
    ProposalAsyncOperationRecord :=
  { operation with
    resultJson := none
    leaseExpiresAt := none
    errorJson := some [("code", .str name),
      ("message", .str (if message = "" then name else message))]
    status := if operation.attemptCount < operation.maxAttempts then .pending else .failed
    finishedAt :=
      if operation.attemptCount < operation.maxAttempts then none else some finishedAt }

/-- The record an attempt is settled with. -/
def settled (finishedAt : UtcDateTime) : ExecutorOutcome → ProposalAsyncOperationRecord
  | .returned proposalId response => operation.markOperationSucceeded proposalId response finishedAt
  | .lifecycleError name message => operation.markOperationFailed name message finishedAt
  | .exception name message => operation.applyRuntimeExceptionOutcome name message finishedAt

/-- An exception that leaves attempts puts the operation back. -/
def Requeues : ExecutorOutcome → Prop
  | .exception _ _ => operation.attemptCount < operation.maxAttempts
  | _ => False

instance : DecidablePred operation.Requeues := by
  intro outcome
  unfold Requeues
  split <;> infer_instance

/-- A running attempt whose lease is over. -/
def leaseHasExpired (asOf : UtcDateTime) : Bool :=
  operation.status = .running && operation.finishedAt = none &&
    operation.leaseExpiresAt.any fun lease => lease ≤ asOf

def isRecoverable (asOf : UtcDateTime) : Bool :=
  operation.status = .pending || operation.leaseHasExpired asOf

/-- What a submission fixes: no attempt, outcome or quarantine changes it. -/
def submission : String × ProposalAsyncOperationType × String × Option String × String ×
    UtcDateTime × JsonObject × ℕ+ :=
  (operation.operationId, operation.operationType, operation.correlationId,
    operation.idempotencyKey, operation.createdBy, operation.createdAt, operation.payloadJson,
    operation.maxAttempts)

variable {operation} {attempt : ProposalAsyncOperationRecord} {now : UtcDateTime} {leaseSeconds : ℕ}

theorem isTerminal_iff : operation.isTerminal = true ↔
    operation.status = .succeeded ∨ operation.status = .failed := by
  simp [isTerminal]

theorem hasExhaustedAsyncAttempts_iff : operation.hasExhaustedAsyncAttempts = true ↔
    operation.maxAttempts ≤ operation.attemptCount := by
  simp [hasExhaustedAsyncAttempts]

/-- What a begun attempt is like. -/
theorem beginAsyncAttempt_eq_some
    (h : operation.beginAsyncAttempt now leaseSeconds = some attempt) :
    attempt.submission = operation.submission ∧ attempt.status = .running ∧
      attempt.attemptCount = operation.attemptCount + 1 ∧ attempt.finishedAt = none ∧
      ∃ lease, now.addSeconds? leaseSeconds = some lease ∧ attempt.leaseExpiresAt = some lease := by
  obtain ⟨lease, hlease, rfl⟩ := Option.map_eq_some_iff.mp h
  exact ⟨rfl, rfl, rfl, rfl, lease, hlease, rfl⟩

@[simp] theorem submission_markOperationFailed {code message : String} :
    (operation.markOperationFailed code message now).submission = operation.submission := rfl

@[simp] theorem isTerminal_markOperationFailed {code message : String} :
    (operation.markOperationFailed code message now).isTerminal = true := rfl

@[simp] theorem submission_settled {outcome : ExecutorOutcome} :
    (operation.settled now outcome).submission = operation.submission := by
  cases outcome <;> rfl

/-- An attempt is settled for good unless it is put back. -/
theorem isTerminal_settled {outcome : ExecutorOutcome} (h : ¬ operation.Requeues outcome) :
    (operation.settled now outcome).isTerminal = true := by
  cases outcome with
  | returned => rfl
  | lifecycleError => rfl
  | exception =>
    have hleft : ¬ operation.attemptCount < operation.maxAttempts := h
    simp [isTerminal, settled, applyRuntimeExceptionOutcome, hleft]

theorem attemptCount_settled {outcome : ExecutorOutcome} :
    (operation.settled now outcome).attemptCount = operation.attemptCount := by
  cases outcome <;> rfl

/-- An operation that is put back has the status and the attempts of before. -/
theorem status_settled {outcome : ExecutorOutcome} (h : operation.Requeues outcome) :
    (operation.settled now outcome).status = .pending := by
  cases outcome with
  | returned => exact h.elim
  | lifecycleError => exact h.elim
  | exception =>
    have hleft : operation.attemptCount < operation.maxAttempts := h
    simp [settled, applyRuntimeExceptionOutcome, hleft]

theorem leaseHasExpired_eq_false {lease : UtcDateTime}
    (hlease : operation.leaseExpiresAt = some lease) (hlasts : ¬ lease ≤ now) :
    operation.leaseHasExpired now = false := by
  rw [leaseHasExpired, hlease, Option.any_some, decide_eq_false hlasts, Bool.and_false]

theorem maxAttempts_of_submission (h : attempt.submission = operation.submission) :
    attempt.maxAttempts = operation.maxAttempts := by
  simp only [submission, Prod.mk.injEq] at h
  exact h.2.2.2.2.2.2.2

theorem operationId_of_submission (h : attempt.submission = operation.submission) :
    attempt.operationId = operation.operationId :=
  (Prod.mk.inj h).1

end ProposalAsyncOperationRecord

end LotusAdvise.Proposals

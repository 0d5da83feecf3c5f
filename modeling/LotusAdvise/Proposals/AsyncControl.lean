import LotusAdvise.Proposals.AsyncOperations

/-! # Operator control of asynchronous operations

An operator's decision depends on the principal and on how the operation is classified at
that time. A quarantine ends the operation with an error that carries the decision's audit
event.
-/

namespace LotusAdvise.Proposals

inductive AsyncOperationControlAction where
  | dryRun
  | retry
  | quarantine
  | pauseDrain
deriving DecidableEq

inductive AsyncOperationControlStatus where
  | pending
  | leased
  | recoverableStuck
  | retryExhausted
  | quarantined
  | terminalFailed
  | terminalSucceeded
deriving DecidableEq

def AsyncOperationControlAction.text : AsyncOperationControlAction → String
  | .dryRun => "DRY_RUN"
  | .retry => "RETRY"
  | .quarantine => "QUARANTINE"
  | .pauseDrain => "PAUSE_DRAIN"

def AsyncOperationControlStatus.text : AsyncOperationControlStatus → String
  | .pending => "PENDING"
  | .leased => "LEASED"
  | .recoverableStuck => "RECOVERABLE_STUCK"
  | .retryExhausted => "RETRY_EXHAUSTED"
  | .quarantined => "QUARANTINED"
  | .terminalFailed => "TERMINAL_FAILED"
  | .terminalSucceeded => "TERMINAL_SUCCEEDED"

structure AsyncOperationControlPrincipal where
  actorId : String
  role : String
  serviceIdentity : String
  capabilities : List String
  active : Bool

def asyncOperationControlCapability : String := "advisory.proposals.async_operations.control"

def asyncOperationQuarantinedCode : String := "PROPOSAL_ASYNC_OPERATION_QUARANTINED"

/-- The answer to a control request, with the code of its reason. -/
inductive ControlReasonCode where
  | notAuthorized
  | dryRunAllowed
  | pauseDrainAllowed
  | retryAllowed
  | retryBlockedByActiveLease
  | retryBlockedByExhaustedAttempts
  | retryBlockedByTerminalState
  | alreadyQuarantined
  | quarantineAllowed
  | quarantineBlockedByActiveLease
  | quarantineBlockedByTerminalState
deriving DecidableEq

def ControlReasonCode.text : ControlReasonCode → String
  | .notAuthorized => "ASYNC_CONTROL_NOT_AUTHORIZED"
  | .dryRunAllowed => "ASYNC_CONTROL_DRY_RUN_ALLOWED"
  | .pauseDrainAllowed => "ASYNC_CONTROL_PAUSE_DRAIN_ALLOWED"
  | .retryAllowed => "ASYNC_CONTROL_RETRY_ALLOWED"
  | .retryBlockedByActiveLease => "ASYNC_CONTROL_RETRY_BLOCKED_BY_ACTIVE_LEASE"
  | .retryBlockedByExhaustedAttempts => "ASYNC_CONTROL_RETRY_BLOCKED_BY_EXHAUSTED_ATTEMPTS"
  | .retryBlockedByTerminalState => "ASYNC_CONTROL_RETRY_BLOCKED_BY_TERMINAL_STATE"
  | .alreadyQuarantined => "ASYNC_CONTROL_ALREADY_QUARANTINED"
  | .quarantineAllowed => "ASYNC_CONTROL_QUARANTINE_ALLOWED"
  | .quarantineBlockedByActiveLease => "ASYNC_CONTROL_QUARANTINE_BLOCKED_BY_ACTIVE_LEASE"
  | .quarantineBlockedByTerminalState => "ASYNC_CONTROL_QUARANTINE_BLOCKED_BY_TERMINAL_STATE"

structure AsyncOperationControlDecision where
  allowed : Bool
  action : AsyncOperationControlAction
  reasonCode : ControlReasonCode
  controlStatus : AsyncOperationControlStatus
  targetStatus : Option ProposalAsyncOperationStatus
  scheduleExecution : Bool
  auditEvent : JsonObject
  idempotentNoop : Bool

section Classification

variable (operation : ProposalAsyncOperationRecord) (asOf : UtcDateTime)

def isQuarantined : Bool :=
  operation.status = .failed && operation.errorJson.any fun error =>
    JsonObject.get error "code" = .str asyncOperationQuarantinedCode

def classifyAsyncOperationForControl : AsyncOperationControlStatus :=
  if isQuarantined operation then .quarantined
  else match operation.status with
    | .succeeded => .terminalSucceeded
    | .failed => if operation.hasExhaustedAsyncAttempts then .retryExhausted else .terminalFailed
    | .pending => if operation.hasExhaustedAsyncAttempts then .retryExhausted else .pending
    | .running =>
      if operation.leaseHasExpired asOf then
        if operation.hasExhaustedAsyncAttempts then .retryExhausted else .recoverableStuck
      else .leased

variable {operation asOf}

/-- A running operation is leased as long as its lease is not over. -/
theorem classify_eq_leased_iff : classifyAsyncOperationForControl operation asOf = .leased ↔
    operation.status = .running ∧ operation.leaseHasExpired asOf = false := by
  unfold classifyAsyncOperationForControl isQuarantined
  cases hstatus : operation.status with
  | pending => cases operation.hasExhaustedAsyncAttempts <;> simp
  | running =>
    cases operation.leaseHasExpired asOf with
    | false => simp
    | true => cases operation.hasExhaustedAsyncAttempts <;> simp
  | succeeded => simp
  | failed => split <;> cases operation.hasExhaustedAsyncAttempts <;> simp

end Classification

def principalIsAuthorized (principal : AsyncOperationControlPrincipal) : Bool :=
  principal.active && asyncOperationControlCapability ∈ principal.capabilities &&
    Text.upper principal.role ∈ ["OPERATIONS", "PLATFORM_OPERATOR", "SUPPORT_LEAD"]

def retryReasonCode : AsyncOperationControlStatus → ControlReasonCode
  | .pending | .recoverableStuck => .retryAllowed
  | .leased => .retryBlockedByActiveLease
  | .retryExhausted => .retryBlockedByExhaustedAttempts
  | _ => .retryBlockedByTerminalState

def quarantineReasonCode : AsyncOperationControlStatus → ControlReasonCode
  | .quarantined => .alreadyQuarantined
  | .pending | .recoverableStuck | .retryExhausted => .quarantineAllowed
  | .leased => .quarantineBlockedByActiveLease
  | _ => .quarantineBlockedByTerminalState

def controlReasonCode (action : AsyncOperationControlAction)
    (controlStatus : AsyncOperationControlStatus) (principal : AsyncOperationControlPrincipal) :
    ControlReasonCode :=
  if principalIsAuthorized principal then
    match action with
    | .dryRun => .dryRunAllowed
    | .pauseDrain => .pauseDrainAllowed
    | .retry => retryReasonCode controlStatus
    | .quarantine => quarantineReasonCode controlStatus
  else .notAuthorized

/-- The codes that allow the action. -/
def ControlReasonCode.allows (code : ControlReasonCode) : Bool :=
  code ∈ [.dryRunAllowed, .retryAllowed, .quarantineAllowed, .alreadyQuarantined, .pauseDrainAllowed]

section Evaluation

variable (services : AsyncServices) (operation : ProposalAsyncOperationRecord)
  (principal : AsyncOperationControlPrincipal) (asOf : UtcDateTime)
  (idempotencyKey reason : String)

def hashRef (kind value : String) : Json :=
  .str (services.hashCanonicalPayload [("kind", .str kind), ("value", .str value)])

def buildControlAuditEvent (action : AsyncOperationControlAction)
    (controlStatus : AsyncOperationControlStatus) (decision : ControlReasonCode) : JsonObject :=
  [("event_type", .str "PROPOSAL_ASYNC_OPERATION_CONTROL_DECISION"),
    ("operation_ref_hash", hashRef services "operation" operation.operationId),
    ("correlation_ref_hash", hashRef services "correlation" operation.correlationId),
    ("proposal_ref_hash",
      (presentKey operation.proposalId).elim .null (hashRef services "proposal")),
    ("actor_ref_hash", hashRef services "actor" principal.actorId),
    ("service_identity_hash", hashRef services "service_identity" principal.serviceIdentity),
    ("idempotency_key_hash", hashRef services "idempotency_key" idempotencyKey),
    ("reason_hash", hashRef services "reason" reason),
    ("action", .str action.text),
    ("decision", .str decision.text),
    ("operation_type", .str operation.operationType.text),
    ("operation_status", .str operation.status.text),
    ("control_status", .str controlStatus.text),
    ("attempt_count", .int operation.attemptCount),
    ("max_attempts", .int (operation.maxAttempts : ℕ)),
    ("occurred_at", .str asOf.isoformat),
    ("payload_mutation_allowed", .bool false),
    ("audit_payload_version", .str "proposal_async_operation_control_decision.v1")]

def evaluateAsyncOperationControl (action : AsyncOperationControlAction) :
    AsyncOperationControlDecision :=
  let controlStatus := classifyAsyncOperationForControl operation asOf
  let reasonCode := controlReasonCode action controlStatus principal
  { allowed := reasonCode.allows
    action
    reasonCode
    controlStatus
    targetStatus := if reasonCode.allows && action = .quarantine then some .failed else none
    scheduleExecution := reasonCode.allows && action = .retry
    auditEvent := buildControlAuditEvent services operation principal asOf idempotencyKey reason
      action controlStatus reasonCode
    idempotentNoop := reasonCode = .alreadyQuarantined }

variable {services operation principal asOf idempotencyKey reason}

/-- A quarantine that changes the operation finds it waiting, stuck or out of attempts. -/
theorem quarantine_effective
    (hallowed : (evaluateAsyncOperationControl services operation principal asOf idempotencyKey
      reason .quarantine).allowed = true)
    (hnoop : (evaluateAsyncOperationControl services operation principal asOf idempotencyKey
      reason .quarantine).idempotentNoop = false) :
    classifyAsyncOperationForControl operation asOf ∈
      [AsyncOperationControlStatus.pending, .recoverableStuck, .retryExhausted] := by
  simp only [evaluateAsyncOperationControl, controlReasonCode] at hallowed hnoop
  split at hallowed
  · next hauthorized =>
    simp only [hauthorized, if_true] at hnoop
    cases h : classifyAsyncOperationForControl operation asOf <;>
      simp_all [quarantineReasonCode, ControlReasonCode.allows]
  · cases hallowed

end Evaluation

/-- The record a quarantine stores. -/
def buildQuarantinedAsyncOperation (operation : ProposalAsyncOperationRecord)
    (decision : AsyncOperationControlDecision) (finishedAt : UtcDateTime) :
    ProposalAsyncOperationRecord :=
  if decision.idempotentNoop then operation
  else
    { operation with
      status := .failed
      leaseExpiresAt := none
      finishedAt := some finishedAt
      resultJson := none
      errorJson := some [("code", .str asyncOperationQuarantinedCode),
        ("message", .str asyncOperationQuarantinedCode), ("audit_event", .obj decision.auditEvent)] }

section Quarantine

variable {operation : ProposalAsyncOperationRecord} {decision : AsyncOperationControlDecision}
  {now : UtcDateTime}

@[simp] theorem submission_buildQuarantined :
    (buildQuarantinedAsyncOperation operation decision now).submission = operation.submission := by
  unfold buildQuarantinedAsyncOperation
  split <;> rfl

theorem isQuarantined_buildQuarantined (h : decision.idempotentNoop = false) :
    isQuarantined (buildQuarantinedAsyncOperation operation decision now) = true := by
  simp [buildQuarantinedAsyncOperation, h, isQuarantined, JsonObject.get,
    asyncOperationQuarantinedCode]

theorem isTerminal_of_isQuarantined (h : isQuarantined operation = true) :
    operation.isTerminal = true := by
  simp only [isQuarantined, Bool.and_eq_true, decide_eq_true_eq] at h
  simp [ProposalAsyncOperationRecord.isTerminal, h.1]

end Quarantine

end LotusAdvise.Proposals

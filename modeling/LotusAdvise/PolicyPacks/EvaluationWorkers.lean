import LotusAdvise.Foundations.Workers
import LotusAdvise.PolicyPacks.EvaluationState

/-! # Commands through the durable repository

A command of `DurablePolicyEvaluationRepository` loads a snapshot with three queries, runs
on the store that is built from it, and saves the whole store in one transaction. Between
these steps other commands may commit.
-/

namespace LotusAdvise.PolicyPacks

open Workers PolicyEvaluationTables

inductive EvaluationStage where
  | selectRecords (command : PolicyEvaluationCommand)
  | selectEvents (command : PolicyEvaluationCommand) (records : Dict String PolicyEvaluationRecord)
  | selectIdempotency (command : PolicyEvaluationCommand)
    (records : Dict String PolicyEvaluationRecord)
    (events : Dict String (List PolicyEvaluationAuditEvent))
  | running (command : PolicyEvaluationCommand) (loaded : PolicyEvaluationRecordStore)
  | saving (command : PolicyEvaluationCommand) (answer : PolicyEvaluationAnswer)
    (snapshot : PolicyEvaluationRecordStore)
  | returned (command : PolicyEvaluationCommand) (answer : PolicyEvaluationAnswer)
  | raised (command : PolicyEvaluationCommand) (error : PolicyPackError)

section Steps

variable {Catalog : Type} (services : PolicyServices Catalog) (collation : LinearOrder String)

/-- One step of a command. The index of identities is not stored, and is empty after each load. -/
def stepEvaluation (tables : PolicyEvaluationTables) :
    EvaluationStage → Drawn Catalog → Option (PolicyEvaluationTables × EvaluationStage)
  | .selectRecords command, _ =>
    some (tables, .selectEvents command (tables.selectRecords collation))
  | .selectEvents command records, _ =>
    some (tables, .selectIdempotency command records (tables.selectEvents collation))
  | .selectIdempotency command records events, _ =>
    some (tables, .running command ⟨records, events, tables.selectIdempotency collation, []⟩)
  | .running command loaded, drawn =>
    match loaded.run services drawn command with
    | .error error => some (tables, .raised command error)
    | .ok (answer, snapshot) => some (tables, .saving command answer snapshot)
  | .saving command answer snapshot, _ =>
    match saveSnapshot tables snapshot with
    | .error error => some (tables, .raised command error)
    | .ok tables' => some (tables', .returned command answer)
  | .returned _ _, _ => none
  | .raised _ _, _ => none

def durableEvaluations : Program PolicyEvaluationTables EvaluationStage PolicyEvaluationCommand
    (Drawn Catalog) where
  start := .selectRecords
  step := stepEvaluation services collation

end Steps

namespace Sample

/-! A small environment in which commands can be run: every policy pack finds every bundle ready,
and the digest of a value is its text. -/

def moment (minute : ℕ) : UtcDateTime where
  time := {
    year := 2026
    month := 5
    day := 26
    hour := 9
    minute := minute % 60
    second := 0
    microsecond := 0
    utcOffset := some 0
    inRange := by
      have : minute % 60 < 60 := Nat.mod_lt minute (by omega)
      refine ⟨by omega, by omega, by decide, by omega, this, by omega, by omega, ?_⟩
      rintro _ ⟨⟩
      omega }
  utc := rfl

def summary (policyPackId policyVersion : String) : PolicyPackSummary where
  policyPackId := policyPackId
  policyVersion := policyVersion
  policyFamily := "SG_PRIVATE_BANKING"
  displayName := "SG private banking"
  activationState := .active
  referencePosture := "REFERENCE_EXAMPLE_NOT_LEGAL_ADVICE"
  makerCheckerRequired := true
  contentHash := "sha256:content"

def services : PolicyServices Unit where
  sha256 := Json.text
  dateFromIsoformat := some
  datetimeFromIsoformat _ := none
  dateIn _ t := t.isoDate
  evaluatePolicyPackVersion _ _ policyPackId policyVersion := .ok
    { contractVersion := "rfc0025.policy-evaluation-engine.v1"
      policyPack := summary policyPackId policyVersion
      evaluationStatus := .ready
      applicability := ⟨.applicable, [], [], ["POLICY_PACK_APPLIES_TO_PROPOSAL_CONTEXT"]⟩
      sourcePosture := []
      ruleResults := []
      supportability := [] }
  policyContentHash _ _ _ := .ok "sha256:content"

def drawnAt (minute : ℕ) : Drawn Unit := ⟨moment minute, moment minute, (), ()⟩

def evidenceBundle : JsonObject :=
  [("inputs", .obj [("portfolio_snapshot",
    .obj [("portfolio_id", .str "PB_SG_001"), ("as_of_date", .str "2026-05-25")])])]

def principal (subject : String) : Json :=
  .obj [("subject", .str subject), ("tenant_id", .str "tenant_1"),
    ("legal_entity_code", .str "REFERENCE"), ("service_identity", .str "lotus-gateway"),
    ("correlation_id", .str "corr_1"), ("trace_id", .str "trace_1")]

def finalize (idempotencyKey : String) : PolicyEvaluationCommand := .finalize
  { evidenceBundle
    policyPackId := "SG_REFERENCE"
    policyVersion := "2026.05"
    proposalId := "pp_001"
    proposalVersionId := "ppv_001"
    createdBy := "advisor_1"
    idempotencyKey
    reason := [("trusted_principal", principal "advisor_1")] }

def evaluationId : String :=
  evaluationIdOf services "pp_001" "ppv_001" "SG_REFERENCE" "2026.05"
    (services.hashCanonicalPayload evidenceBundle)

def review (actorId idempotencyKey : String) : PolicyEvaluationCommand := .appendEvent
  { evaluationId
    eventType := .reviewRecorded
    actorId
    reason := [("review_action", .str "REQUEST_MORE_EVIDENCE")]
    idempotencyKey := some idempotencyKey }

end Sample

end LotusAdvise.PolicyPacks

import LotusAdvise.Foundations.Durations
import LotusAdvise.Foundations.ExpiringRegistry
import LotusAdvise.Proposals.Idempotency
import Mathlib.Data.List.DropRight
import Mathlib.Data.List.Sort
import Mathlib.Data.Prod.Lex

/-! # The intake of proposal ideas

An idea that is handed over is acknowledged with a receipt. The receipt is kept under the key of the
call and the scope of the caller, as long as it has not expired and is not crowded out, and answers
later calls with the same request.
-/

namespace LotusAdvise.Proposals

open ExpiringRegistry

inductive IdeaProposalIntakeStatus where
  | accepted | acceptedReplayed | rejected
deriving DecidableEq

inductive IdeaProposalIntentType where
  | reviewForAdvisoryProposal | createAdvisoryProposalDraft
deriving DecidableEq

def IdeaProposalIntentType.text : IdeaProposalIntentType → String
  | .reviewForAdvisoryProposal => "REVIEW_FOR_ADVISORY_PROPOSAL"
  | .createAdvisoryProposalDraft => "CREATE_ADVISORY_PROPOSAL_DRAFT"

inductive IdeaIntakeError where
  | validation (detail : String)
  | idempotencyConflict (detail : String)
  /-- The sum of a date-time and a duration is no date-time. -/
  | overflow
deriving DecidableEq

def ideaProposalIntakeCertificationBlockers : List String := [
  "suitability_policy_authority_remains_lotus_advise", "advisory_proposal_creation_not_certified",
  "proposal_lifecycle_persistence_not_certified", "client_publication_authority_blocked"]

def ideaProposalIntakeIdempotencyReplayTtlSeconds : ℕ := 24 * 60 * 60

def ideaProposalIntakeIdempotencyMaxRecords : ℕ := 4096

def ideaProposalIntakeAcceptCapability : String := "advisory.idea_proposal_intake.accept"

/-- A reference to evidence, whose texts are neither blank nor padded. -/
structure IdeaProposalSourceRef where
  sourceType : String
  sourceId : String
  contentHash : Option String
  trimmed : ∀ text ∈ sourceType :: sourceId :: contentHash.toList,
    Text.strip text = text ∧ text ≠ ""
deriving DecidableEq

structure IdeaProposalIntakeRequest where
  ideaCandidateId : String
  conversionIntentId : String
  intentType : IdeaProposalIntentType
  sourceRefs : List IdeaProposalSourceRef
deriving DecidableEq

structure IdeaProposalIntakePrincipal where
  actorId : String
  role : String
  tenantId : String
  legalEntityCode : String
  correlationId : String
  serviceIdentity : String
deriving DecidableEq

structure TrustedScope where
  subject : String
  role : String
  tenantId : String
  legalEntityCode : String
  correlationId : String
  serviceIdentity : String
  capability : String
deriving DecidableEq

/-- A receipt. Its time is kept as the date-time of which it holds the text. -/
structure IdeaProposalIntakeResponse where
  intakeId : String
  intakeStatus : IdeaProposalIntakeStatus
  supportabilityStatus : String := "not_certified"
  sourceAuthority : String := "lotus-idea"
  proposalAuthority : String := "lotus-advise"
  targetProduct : String := "lotus-advise:AdvisoryProposalLifecycleRecord:v1"
  routeExistenceProven : Bool := true
  intakeReceiptAccepted : Bool
  idempotencyReplay : Bool := false
  idempotencyKeyHash : String
  requestFingerprint : String
  trustedScope : TrustedScope
  outcomeReasonCodes : List String
  proposalRecordCreated : Bool := false
  suitabilityAuthorityGranted : Bool := false
  orderCreated : Bool := false
  clientPublicationAuthorized : Bool := false
  certificationBlockers : List String := ideaProposalIntakeCertificationBlockers
  evidenceRefs : List String := [
    "contracts/idea-proposal-intake/lotus-advise-idea-proposal-intake.v1.json",
    "src/api/proposals/routes_idea_intake.py", "src/core/proposals/idea_proposal_intake.py"]
  receivedAt : DateTime
  correlationId : String
deriving DecidableEq

/-- Digests as hexadecimal texts. -/
structure IntakeDigests where
  /-- The digest of the compact text of a value with sorted keys. -/
  sha256 : Json → String
  textDigest : String → String
  length_sha256 : ∀ value, (sha256 value).length = 64

section Fingerprints

variable (digests : IntakeDigests) (request : IdeaProposalIntakeRequest)

def IdeaProposalSourceRef.dump (ref : IdeaProposalSourceRef) : Json :=
  .obj [("source_system", .str "lotus-idea"), ("source_type", .str ref.sourceType),
    ("source_id", .str ref.sourceId), ("content_hash", .ofText? ref.contentHash)]

/-- The key of the sort; the source system is the same for all. -/
def IdeaProposalSourceRef.sortKey (ref : IdeaProposalSourceRef) : String ×ₗ (String ×ₗ String) :=
  toLex (ref.sourceType, toLex (ref.sourceId, ref.contentHash.getD ""))

def canonicalRefs (sourceRefs : List IdeaProposalSourceRef) : Json :=
  .arr ((sourceRefs.insertionSort fun a b => a.sortKey ≤ b.sortKey).map IdeaProposalSourceRef.dump)

def sourceRefsFingerprint : String := digests.sha256 (canonicalRefs request.sourceRefs)

def requestPayload : Json :=
  .obj [("source_system", .str "lotus-idea"),
    ("source_product", .str "lotus-idea:IdeaCandidate:v1"),
    ("idea_candidate_id", .str request.ideaCandidateId),
    ("conversion_intent_id", .str request.conversionIntentId),
    ("intent_type", .str request.intentType.text),
    ("source_refs_fingerprint", .str (sourceRefsFingerprint digests request))]

/-- `digest[:12]`. -/
def shortDigest (digest : String) : String := String.ofList (digest.toList.take 12)

def requestFingerprint : String :=
  "sha256:" ++ shortDigest (digests.sha256 (requestPayload digests request))

def safeKeyHash (idempotencyKey : String) : String :=
  "sha256:" ++ shortDigest (digests.textDigest (Text.strip idempotencyKey))

def fullKeyDigest (idempotencyKey : String) : String :=
  "sha256:" ++ digests.textDigest (Text.strip idempotencyKey)

def scopePayload (trustedScope : TrustedScope) : Json :=
  .obj [("tenant_id", .str trustedScope.tenantId),
    ("legal_entity_code", .str trustedScope.legalEntityCode),
    ("service_identity", .str trustedScope.serviceIdentity),
    ("subject", .str trustedScope.subject), ("capability", .str trustedScope.capability)]

def registryKey (idempotencyKey : String) (trustedScope : TrustedScope) : String :=
  digests.sha256 (scopePayload trustedScope) ++ ":" ++ fullKeyDigest digests idempotencyKey

def intakeId : String :=
  "ipi_" ++ shortDigest (digests.textDigest (request.ideaCandidateId ++ "|" ++
    request.conversionIntentId ++ "|" ++ request.intentType.text ++ "|" ++
    sourceRefsFingerprint digests request))

end Fingerprints

section Acknowledgement

def IdeaProposalIntakePrincipal.auditMetadata (principal : IdeaProposalIntakePrincipal)
    (capability : String) : TrustedScope where
  subject := principal.actorId
  role := principal.role
  tenantId := principal.tenantId
  legalEntityCode := principal.legalEntityCode
  correlationId := principal.correlationId
  serviceIdentity := principal.serviceIdentity
  capability := capability

def trustedScope (principal : Option IdeaProposalIntakePrincipal) (correlationId : String) :
    TrustedScope :=
  match principal with
  | none =>
    { subject := "domain-only"
      role := "DOMAIN_TEST"
      tenantId := "domain-only"
      legalEntityCode := "DOMAIN"
      correlationId
      serviceIdentity := "domain-only"
      capability := ideaProposalIntakeAcceptCapability }
  | some principal =>
    { principal.auditMetadata ideaProposalIntakeAcceptCapability with correlationId }

def outcomeReasonCodes (request : IdeaProposalIntakeRequest) : List String :=
  match request.intentType with
  | .reviewForAdvisoryProposal => ["idea_intake_receipt_accepted"]
  | .createAdvisoryProposalDraft =>
    ["advisory_proposal_creation_not_certified", "idea_intake_receipt_rejected_no_proposal_created"]

def acknowledgeIdeaProposalIntake (digests : IntakeDigests) (request : IdeaProposalIntakeRequest)
    (correlationId idempotencyKey : String) (principal : Option IdeaProposalIntakePrincipal)
    (timestamp : DateTime) : IdeaProposalIntakeResponse :=
  let accepted := request.intentType = .reviewForAdvisoryProposal
  { intakeId := intakeId digests request
    intakeStatus := if accepted then .accepted else .rejected
    intakeReceiptAccepted := accepted
    idempotencyKeyHash := safeKeyHash digests idempotencyKey
    requestFingerprint := requestFingerprint digests request
    trustedScope := trustedScope principal correlationId
    outcomeReasonCodes := outcomeReasonCodes request
    receivedAt := timestamp
    correlationId }

end Acknowledgement

section Registry

structure IdeaProposalIntakeIdempotencyRecord where
  requestFingerprint : String
  response : IdeaProposalIntakeResponse
  expiresAt : DateTime
deriving DecidableEq

abbrev IntakeRecords := Dict String IdeaProposalIntakeIdempotencyRecord

/-- The limits of a registry. -/
structure IntakeLimits where
  replayTtlSeconds : ℕ := ideaProposalIntakeIdempotencyReplayTtlSeconds
  maxRecords : ℕ := ideaProposalIntakeIdempotencyMaxRecords

/-- `_parse_received_at`, of the text of a date-time. -/
def parseReceivedAt (receivedAt : DateTime) : DateTime := receivedAt.orUtc

/-- `record.expires_at <= now`. -/
def IdeaProposalIntakeIdempotencyRecord.expired (now : DateTime)
    (record : IdeaProposalIntakeIdempotencyRecord) : Bool :=
  now.lt? record.expiresAt ≠ some true

def replayReasonCodes (response : IdeaProposalIntakeResponse) : List String :=
  if response.intakeReceiptAccepted then ["idea_intake_receipt_replayed"]
  else ["idea_intake_rejection_replayed"]

/-- The stored receipt, as it answers a later call. -/
def replayedResponse (stored response : IdeaProposalIntakeResponse) : IdeaProposalIntakeResponse :=
  { stored with
    intakeStatus := if stored.intakeReceiptAccepted then .acceptedReplayed else .rejected
    idempotencyReplay := true
    correlationId := response.correlationId
    trustedScope := response.trustedScope
    receivedAt := response.receivedAt
    outcomeReasonCodes := replayReasonCodes stored }

variable (limits : IntakeLimits) (digests : IntakeDigests)

/-- `_IdeaProposalIntakeIdempotencyRegistry.record`. -/
def recordIntake (records : IntakeRecords) (idempotencyKey requestFingerprint : String)
    (response : IdeaProposalIntakeResponse) :
    IntakeRecords × Except IdeaIntakeError IdeaProposalIntakeResponse :=
  let now := parseReceivedAt response.receivedAt
  let key := registryKey digests idempotencyKey response.trustedScope
  let current := purge (IdeaProposalIntakeIdempotencyRecord.expired now) records
  match Dict.get? current key with
  | none =>
    match now.afterSeconds? limits.replayTtlSeconds with
    | none => (current, .error .overflow)
    | some expiresAt =>
      (enforceCap limits.maxRecords
        (Dict.set current key { requestFingerprint, response, expiresAt }), .ok response)
  | some existing =>
    if existing.requestFingerprint ≠ requestFingerprint then
      (current, .error (.idempotencyConflict "IDEA_PROPOSAL_INTAKE_IDEMPOTENCY_CONFLICT"))
    else (current, .ok (replayedResponse existing.response response))

/-- A call, with the time that it gives or else the reading of the clock. -/
structure IntakeCall where
  request : IdeaProposalIntakeRequest
  correlationId : String
  idempotencyKey : String
  principal : IdeaProposalIntakePrincipal
  receivedAt : DateTime

def processIdeaProposalIntake (records : IntakeRecords) (call : IntakeCall) :
    IntakeRecords × Except IdeaIntakeError IdeaProposalIntakeResponse :=
  match normalizeOptionalIdempotencyKey (some call.idempotencyKey) with
  | none => (records, .error (.validation "IDEMPOTENCY_KEY_REQUIRED"))
  | some idempotencyKey =>
    let response := acknowledgeIdeaProposalIntake digests call.request call.correlationId
      idempotencyKey (some call.principal) call.receivedAt
    recordIntake limits digests records idempotencyKey response.requestFingerprint response

end Registry

end LotusAdvise.Proposals

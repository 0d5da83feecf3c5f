import LotusAdvise.Foundations.DateTime
import LotusAdvise.Foundations.Except
import LotusAdvise.PolicyPacks.Records

/-! # Receipt identity and reasons

The identity of a receipt: the business date that the evidence agrees on, and the scope of
the trusted principal in a form that is safe to store. A reason is compared without the
volatile fields of the principals in it, and stored without what a replay must not see.
-/

namespace LotusAdvise.PolicyPacks

/-- What the policy evaluations see of their surroundings: the digest, the parsers of dates, and the
evaluation of a policy-pack version in a state of the catalog. -/
structure PolicyServices (Catalog : Type) where
  /-- The hexadecimal digest of the canonical text of a value in canonical form. -/
  sha256 : Json → String
  /-- `date.fromisoformat(text).isoformat()`. -/
  dateFromIsoformat : String → Option String
  datetimeFromIsoformat : String → Option DateTime
  /-- The ISO date of a moment in a time zone, or in UTC. -/
  dateIn : (timezone : Option String) → DateTime → String
  evaluatePolicyPackVersion : Catalog → (evidenceBundle : JsonObject) →
    (policyPackId policyVersion : String) → Except PolicyPackError PolicyPackEvaluationResponse
  /-- The content hash of the policy-pack version that `get_policy_pack_version` returns. -/
  policyContentHash : Catalog → (policyPackId policyVersion : String) →
    Except PolicyPackError String

variable {Catalog : Type} (services : PolicyServices Catalog)

def PolicyServices.hashCanonicalPayload (payload : JsonObject) : String :=
  "sha256:" ++ services.sha256 (Json.obj payload).canonical

def receiptIdentityContractVersion : String := "rfc0002.policy-evaluation-receipt-identity.v1"

def trustedAuthoritySource : String := "trusted_policy_control_principal"

structure PolicyEvaluationReceiptScopeIdentity where
  tenantScopeHash : String
  legalEntityCode : String
  bookingCenterCode : Option String
  serviceIdentityHash : String
  proposalId : String
  proposalVersionId : String
  portfolioId : String
deriving DecidableEq

inductive TraceIdentitySource where
  | adviseObservabilityContext
  | trustedPolicyControlPrincipal
deriving DecidableEq

def TraceIdentitySource.text : TraceIdentitySource → String
  | .adviseObservabilityContext => "advise_observability_context"
  | .trustedPolicyControlPrincipal => trustedAuthoritySource

structure PolicyEvaluationReceiptIdentity where
  asOfDate : String
  scopeIdentity : PolicyEvaluationReceiptScopeIdentity
  observedCorrelationIdHash : String
  observedTraceIdHash : String
  traceIdentitySource : TraceIdentitySource
deriving DecidableEq

def PolicyEvaluationReceiptScopeIdentity.dump (scope : PolicyEvaluationReceiptScopeIdentity) :
    JsonObject :=
  [("identity_contract_version", .str receiptIdentityContractVersion),
    ("authority_source", .str trustedAuthoritySource),
    ("tenant_scope_hash", .str scope.tenantScopeHash),
    ("legal_entity_code", .str scope.legalEntityCode),
    ("booking_center_code", .ofText? scope.bookingCenterCode),
    ("service_identity_hash", .str scope.serviceIdentityHash),
    ("proposal_id", .str scope.proposalId), ("proposal_version_id", .str scope.proposalVersionId),
    ("portfolio_id", .str scope.portfolioId)]

def PolicyEvaluationReceiptIdentity.dump (identity : PolicyEvaluationReceiptIdentity) :
    JsonObject :=
  [("receipt_contract_version", .str receiptIdentityContractVersion),
    ("as_of_date", .str identity.asOfDate), ("scope_identity", .obj identity.scopeIdentity.dump),
    ("observed_correlation_id_hash", .str identity.observedCorrelationIdHash),
    ("observed_trace_id_hash", .str identity.observedTraceIdHash),
    ("correlation_identity_source", .str trustedAuthoritySource),
    ("trace_identity_source", .str identity.traceIdentitySource.text)]

section Reasons

def volatileTrustedPrincipalFields : List String := ["correlation_id", "trace_id"]

def dropVolatileFields : Json → Json
  | .obj items => .obj (items.filter fun kv => kv.1 ∉ volatileTrustedPrincipalFields)
  | j => j

mutual

def stripVolatile : Json → Json
  | .arr items => .arr (stripVolatileItems items)
  | .obj items => .obj (stripVolatileFields items)
  | j => j

def stripVolatileItems : List Json → List Json
  | [] => []
  | j :: js => stripVolatile j :: stripVolatileItems js

/-- The volatile fields go from every trusted principal, at any depth. -/
def stripVolatileFields : JsonObject → JsonObject
  | [] => []
  | (k, j) :: rest =>
    (k, if k = "trusted_principal" then dropVolatileFields (stripVolatile j) else stripVolatile j) ::
      stripVolatileFields rest

end

def idempotencyStableReason (reason : JsonObject) : JsonObject := stripVolatileFields reason

def replaySafeReason (reason : JsonObject) : JsonObject :=
  let safeReason := reason.filter fun kv => kv.1 ≠ "system_repair_intent"
  match JsonObject.get safeReason "trusted_principal" with
  | .obj trustedPrincipal =>
    JsonObject.set safeReason "trusted_principal" <| .obj <|
      ("authority_source", .str trustedAuthoritySource) ::
        trustedPrincipal.filter fun kv => kv.1 ∈ ["role", "capability", "legal_entity_code"]
  | _ => safeReason

end Reasons

/-- The value at a path of keys; a value that is not an object has nothing below it. -/
def nestedValue : Json → List String → Json
  | j, [] => j
  | .obj items, key :: path => nestedValue (JsonObject.get items key) path
  | _, _ :: _ => .null

def hasValue : Json → Bool
  | .null => false
  | .str s => Text.strip s ≠ ""
  | _ => true

def requiredIdentityValue (value : Json) (errorCode : String) : Except PolicyPackError String :=
  match value with
  | .str s => if Text.strip s = "" then .error (.validation errorCode) else .ok (Text.strip s)
  | _ => .error (.validation errorCode)

section AsOfDate

/-- The text with a closing `Z` written as the offset of UTC. -/
def zuluOffset (value : String) : String :=
  if value.toList.getLast? = some 'Z' then String.ofList value.toList.dropLast ++ "+00:00" else value

def parseSourceDatetime (value : String) : Except PolicyPackError DateTime :=
  match services.datetimeFromIsoformat (zuluOffset value) with
  | none => .error (.validation "POLICY_EVALUATION_SOURCE_AS_OF_DATE_INVALID")
  | some parsed =>
    if parsed.utcOffset = none then
      .error (.validation "POLICY_EVALUATION_SOURCE_AS_OF_DATE_TIMEZONE_REQUIRED")
    else .ok parsed

def normalizeSourceDate (value : Json) : Except PolicyPackError String :=
  match value with
  | .str s =>
    let candidate := Text.strip s
    if candidate = "" then .error (.validation "POLICY_EVALUATION_SOURCE_AS_OF_DATE_REQUIRED")
    else if 'T' ∉ candidate.toList then
      match services.dateFromIsoformat candidate with
      | none => .error (.validation "POLICY_EVALUATION_SOURCE_AS_OF_DATE_INVALID")
      | some date => .ok date
    else (parseSourceDatetime services candidate).map DateTime.isoDate
  | _ => .error (.validation "POLICY_EVALUATION_SOURCE_AS_OF_DATE_INVALID")

def asOfDatePaths : List (List String) :=
  [["context_resolution", "as_of_date"],
    ["context_resolution", "as_of"],
    ["context_resolution", "resolved_context", "as_of_date"],
    ["context_resolution", "resolved_context", "as_of"],
    ["inputs", "portfolio_snapshot", "as_of_date"],
    ["inputs", "portfolio_snapshot", "as_of"],
    ["inputs", "portfolio_snapshot", "snapshot_date"],
    ["inputs", "portfolio_snapshot", "valuation_date"],
    ["inputs", "market_data_snapshot", "as_of_date"],
    ["inputs", "market_data_snapshot", "as_of"],
    ["inputs", "market_data_snapshot", "snapshot_date"],
    ["inputs", "market_data_snapshot", "valuation_date"]]

def bookingCenterCode (evidenceBundle : JsonObject) : Option String :=
  match nestedValue (.obj evidenceBundle)
    ["context_resolution", "advisory_policy_context", "booking_center_code"] with
  | .str s => if Text.strip s = "" then none else some (Text.upper (Text.strip s))
  | _ => none

def bookingCenterTimezones : List (String × String) :=
  [("SG", "Asia/Singapore"), ("HK", "Asia/Hong_Kong"), ("CH", "Europe/Zurich"),
    ("UK", "Europe/London"), ("US", "America/New_York")]

def observedBusinessDate (evidenceBundle : JsonObject) (observedAt : DateTime) : String :=
  services.dateIn ((bookingCenterCode evidenceBundle).bind fun code =>
    bookingCenterTimezones.lookup code) observedAt

/-- The one date on which the evidence agrees; ISO dates are in the order of their texts. -/
def sourceOwnedAsOfDate (evidenceBundle : JsonObject) (observedAt : DateTime) :
    Except PolicyPackError String := do
  let candidates := asOfDatePaths.map (nestedValue (.obj evidenceBundle))
  let normalized ← (candidates.filter hasValue).mapM (normalizeSourceDate services)
  match normalized with
  | [] => .error (.validation "POLICY_EVALUATION_SOURCE_AS_OF_DATE_REQUIRED")
  | date :: rest =>
    require (∀ other ∈ rest, other = date)
      (.validation "POLICY_EVALUATION_SOURCE_AS_OF_DATE_MISMATCH")
    require (date ≤ observedBusinessDate services evidenceBundle observedAt)
      (.validation "POLICY_EVALUATION_SOURCE_AS_OF_DATE_IN_FUTURE")
    return date

end AsOfDate

section Identity

def safeHash (field value : String) : String :=
  services.hashCanonicalPayload
    [("contract_version", .str receiptIdentityContractVersion), ("field", .str field),
      ("value", .str value)]

def traceIdentity (observedTraceId : Option String) (trustedPrincipal : JsonObject) :
    Except PolicyPackError (String × TraceIdentitySource) :=
  match observedTraceId.filter fun s => Text.strip s ≠ "" with
  | some s => .ok (Text.strip s, .adviseObservabilityContext)
  | none => do
    let traceId ← requiredIdentityValue (JsonObject.get trustedPrincipal "trace_id")
      "POLICY_EVALUATION_OBSERVED_TRACE_ID_REQUIRED"
    return (traceId, .trustedPolicyControlPrincipal)

def trustedPrincipal (reason : JsonObject) : Except PolicyPackError JsonObject :=
  match JsonObject.get reason "trusted_principal" with
  | .obj principal => .ok principal
  | _ => .error (.validation "POLICY_EVALUATION_TRUSTED_PRINCIPAL_REQUIRED")

def buildPolicyEvaluationReceiptIdentity (evidenceBundle : JsonObject)
    (proposalId proposalVersionId portfolioId : String) (reason : JsonObject)
    (observedTraceId : Option String) (observedAt : DateTime) :
    Except PolicyPackError PolicyEvaluationReceiptIdentity := do
  let principal ← trustedPrincipal reason
  let asOfDate ← sourceOwnedAsOfDate services evidenceBundle observedAt
  let (traceId, traceIdentitySource) ← traceIdentity observedTraceId principal
  let tenantId ← requiredIdentityValue (JsonObject.get principal "tenant_id")
    "POLICY_EVALUATION_TRUSTED_TENANT_REQUIRED"
  let legalEntityCode ← requiredIdentityValue (JsonObject.get principal "legal_entity_code")
    "POLICY_EVALUATION_TRUSTED_LEGAL_ENTITY_REQUIRED"
  let correlationId ← requiredIdentityValue (JsonObject.get principal "correlation_id")
    "POLICY_EVALUATION_OBSERVED_CORRELATION_ID_REQUIRED"
  let serviceIdentity ← requiredIdentityValue (JsonObject.get principal "service_identity")
    "POLICY_EVALUATION_TRUSTED_SERVICE_IDENTITY_REQUIRED"
  return {
    asOfDate
    scopeIdentity := {
      tenantScopeHash := safeHash services "tenant_scope" tenantId
      legalEntityCode := Text.upper legalEntityCode
      bookingCenterCode := bookingCenterCode evidenceBundle
      serviceIdentityHash := safeHash services "service_identity" serviceIdentity
      proposalId
      proposalVersionId
      portfolioId }
    observedCorrelationIdHash := safeHash services "correlation_id" correlationId
    observedTraceIdHash := safeHash services "trace_id" traceId
    traceIdentitySource }

/-- The scope identity that a dump describes: all its texts, and no other key. -/
def PolicyEvaluationReceiptScopeIdentity.validate (dump : JsonObject) :
    Option PolicyEvaluationReceiptScopeIdentity := do
  let text key : Option String := match JsonObject.get dump key with
    | .str s => some s
    | _ => none
  guard ((← text "identity_contract_version") = receiptIdentityContractVersion)
  guard ((← text "authority_source") = trustedAuthoritySource)
  let bookingCenterCode ← match JsonObject.get dump "booking_center_code" with
    | .null => some none
    | .str s => some (some s)
    | _ => none
  let scope : PolicyEvaluationReceiptScopeIdentity := {
    tenantScopeHash := ← text "tenant_scope_hash"
    legalEntityCode := ← text "legal_entity_code"
    bookingCenterCode
    serviceIdentityHash := ← text "service_identity_hash"
    proposalId := ← text "proposal_id"
    proposalVersionId := ← text "proposal_version_id"
    portfolioId := ← text "portfolio_id" }
  guard (∀ key ∈ dump.map Prod.fst, key ∈ scope.dump.map Prod.fst)
  return scope

def PolicyEvaluationReceiptIdentity.validate (dump : JsonObject) :
    Option PolicyEvaluationReceiptIdentity := do
  let text key : Option String := match JsonObject.get dump key with
    | .str s => some s
    | _ => none
  guard ((← text "receipt_contract_version") = receiptIdentityContractVersion)
  guard ((← text "correlation_identity_source") = trustedAuthoritySource)
  let scopeIdentity ← match JsonObject.get dump "scope_identity" with
    | .obj items => PolicyEvaluationReceiptScopeIdentity.validate items
    | _ => none
  let traceIdentitySource ←
    [TraceIdentitySource.adviseObservabilityContext, .trustedPolicyControlPrincipal].find? fun
      source => some source.text = text "trace_identity_source"
  let identity : PolicyEvaluationReceiptIdentity := {
    asOfDate := ← text "as_of_date"
    scopeIdentity
    observedCorrelationIdHash := ← text "observed_correlation_id_hash"
    observedTraceIdHash := ← text "observed_trace_id_hash"
    traceIdentitySource }
  guard (∀ key ∈ dump.map Prod.fst, key ∈ identity.dump.map Prod.fst)
  return identity

def legacyAsOfDate (record : PolicyEvaluationRecord) : Except PolicyPackError String :=
  match JsonObject.get record.replayMetadataJson "as_of_date" with
  | .str s =>
    if Text.strip s ≠ "" then normalizeSourceDate services (.str s)
    else legacyGeneratedDate record
  | _ => legacyGeneratedDate record
where
  legacyGeneratedDate (record : PolicyEvaluationRecord) : Except PolicyPackError String :=
    if Text.strip record.generatedAt ≠ "" then normalizeSourceDate services (.str record.generatedAt)
    else .error (.validation "POLICY_EVALUATION_RECEIPT_IDENTITY_REQUIRED")

def legacyReceiptIdentityFromRecord (record : PolicyEvaluationRecord) :
    Except PolicyPackError PolicyEvaluationReceiptIdentity := do
  let asOfDate ← legacyAsOfDate services record
  return {
    asOfDate
    scopeIdentity := {
      tenantScopeHash := safeHash services "legacy_tenant_scope" record.evaluationId
      legalEntityCode := "LEGACY_UNAVAILABLE"
      bookingCenterCode := none
      serviceIdentityHash := safeHash services "legacy_service_identity" "legacy_record"
      proposalId := record.proposalId
      proposalVersionId := record.proposalVersionId
      portfolioId := record.portfolioId }
    observedCorrelationIdHash := safeHash services "legacy_correlation_id" record.evaluationId
    observedTraceIdHash := safeHash services "legacy_trace_id" record.evaluationId
    traceIdentitySource := .trustedPolicyControlPrincipal }

/-- The identity stored with a record; a stored identity that does not validate is an error. -/
def receiptIdentityFromRecord (record : PolicyEvaluationRecord) :
    Except PolicyPackError PolicyEvaluationReceiptIdentity :=
  match JsonObject.get record.replayMetadataJson "receipt_identity" with
  | .obj dump =>
    match PolicyEvaluationReceiptIdentity.validate dump with
    | none => .error (.validation "receipt_identity")
    | some identity => .ok identity
  | _ => legacyReceiptIdentityFromRecord services record

end Identity

end LotusAdvise.PolicyPacks

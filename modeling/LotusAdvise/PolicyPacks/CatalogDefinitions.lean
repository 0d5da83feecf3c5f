import LotusAdvise.Foundations.Except
import LotusAdvise.Foundations.Text
import LotusAdvise.PolicyPacks.Records

/-! # Policy-pack definitions

The definition of a policy-pack version is a document; the catalog keeps its key, its
activation state and its content hash apart. The hash covers everything but the activation
state, so that it pins what evaluations are made with.
-/

namespace LotusAdvise.PolicyPacks

/-- What the catalog uses of its language: a digest, `str` of a value that is no text, and
`str.upper`. -/
structure CatalogServices where
  /-- The hexadecimal digest of the canonical text of a value in canonical form. -/
  sha256 : Json → String
  str : Json → String
  upper : String → String

def CatalogServices.hashCanonicalPayload (services : CatalogServices) (payload : JsonObject) :
    String :=
  "sha256:" ++ services.sha256 (Json.obj payload).canonical

/-- `str(value)`. -/
def CatalogServices.text (services : CatalogServices) : Json → String
  | .str s => s
  | j => services.str j

/-- `list(value)`: a text gives its characters, and an object its keys. -/
def listOf : Json → Except PolicyPackError (List Json)
  | .arr items => .ok items
  | .str s => .ok (s.toList.map fun c => .str (String.singleton c))
  | .obj items => .ok (items.map fun kv => .str kv.1)
  | _ => .error (.typeError "object is not iterable")

def policyCatalogContractVersion : String := "rfc0025.policy-pack-catalog.v1"

def referencePolicyPackPosture : String := "REFERENCE_EXAMPLE_NOT_LEGAL_ADVICE"

structure PolicyPackDefinition where
  policyPackId : String
  policyVersion : String
  activationState : PolicyPackActivationState
  contentHash : String := ""
  /-- The other items of the document. -/
  fields : JsonObject
deriving DecidableEq

namespace PolicyPackDefinition

variable (definition : PolicyPackDefinition)

/-- `definition_key`. -/
def key : String × String := (definition.policyPackId, definition.policyVersion)

/-- `definition.get(key)`, for the items that a validation reads. -/
def get (key : String) : Json :=
  if key = "policy_pack_id" then .str definition.policyPackId
  else if key = "policy_version" then .str definition.policyVersion
  else JsonObject.get definition.fields key

/-- `definition[key]`. -/
def field (key : String) : Except PolicyPackError Json :=
  (definition.fields.lookup key).elim (.error (.keyError key)) .ok

/-- What the content hash covers. -/
def content : JsonObject :=
  ("policy_pack_id", .str definition.policyPackId) ::
    ("policy_version", .str definition.policyVersion) :: definition.fields

end PolicyPackDefinition

section Definitions

variable (services : CatalogServices)

def withReferencePosture (definition : PolicyPackDefinition) : PolicyPackDefinition :=
  { definition with
    fields := JsonObject.set definition.fields "reference_posture" (.str referencePolicyPackPosture) }

def prepareDefinition (definition : PolicyPackDefinition) : PolicyPackDefinition :=
  { withReferencePosture definition with
    contentHash := services.hashCanonicalPayload (withReferencePosture definition).content }

def summaryFromDefinition (definition : PolicyPackDefinition) :
    Except PolicyPackError PolicyPackSummary := do
  let policyFamily ← definition.field "policy_family"
  let displayName ← definition.field "display_name"
  let referencePosture ← definition.field "reference_posture"
  let makerCheckerRequired ← definition.field "maker_checker_required"
  return {
    policyPackId := definition.policyPackId
    policyVersion := definition.policyVersion
    policyFamily := services.text policyFamily
    displayName := services.text displayName
    activationState := definition.activationState
    referencePosture := services.text referencePosture
    makerCheckerRequired := makerCheckerRequired.truthy
    contentHash := definition.contentHash }

end Definitions

section Validation

variable (services : CatalogServices)

def requiredDefinitionFields : List String :=
  ["policy_pack_id", "policy_version", "policy_family", "applicability", "source_requirements",
    "rules", "sample_fixture_refs", "schema_version"]

def requiredFieldDiagnostics (definition : PolicyPackDefinition) : List String :=
  (requiredDefinitionFields.filter fun key => !(definition.get key).truthy).map fun key =>
    Text.upper key ++ "_REQUIRED"

def referencePostureDiagnostics (definition : PolicyPackDefinition) : List String :=
  if definition.get "reference_posture" = .str referencePolicyPackPosture then []
  else ["REFERENCE_POSTURE_NOT_DECLARED"]

def ruleIdentifier (rule : JsonObject) : String :=
  if (JsonObject.get rule "rule_id").truthy then services.text (JsonObject.get rule "rule_id")
  else ""

def ruleIdentifierDiagnostics (ruleId : String) : List String :=
  if ruleId ≠ "" ∧ services.upper ruleId = ruleId ∧ '-' ∉ ruleId.toList then []
  else ["RULE_ID_NOT_UPPER_SNAKE_CASE"]

/-- The prefix of the diagnostics of a rule. -/
def ruleLabel (ruleId : String) : String := if ruleId = "" then "RULE" else ruleId

def requiredEvidenceFieldDiagnostics (rule : JsonObject) (ruleId : String) : List String :=
  if (JsonObject.get rule "required_evidence_fields").truthy then []
  else [ruleLabel ruleId ++ "_REQUIRED_EVIDENCE_FIELDS_REQUIRED"]

def missingEvidenceWordingDiagnostics (rule : JsonObject) (ruleId : String) : List String :=
  if "positive_wording_when_missing_evidence" ∈ rule.map Prod.fst then
    [ruleLabel ruleId ++ "_FORBIDDEN_POSITIVE_MISSING_EVIDENCE_WORDING"]
  else []

def ruleDiagnostics : Json → List String
  | .obj rule =>
    ruleIdentifierDiagnostics services (ruleIdentifier services rule) ++
      requiredEvidenceFieldDiagnostics rule (ruleIdentifier services rule) ++
      missingEvidenceWordingDiagnostics rule (ruleIdentifier services rule)
  | _ => ["RULE_MUST_BE_OBJECT"]

def ruleCollectionDiagnostics (definition : PolicyPackDefinition) : List String :=
  match definition.get "rules" with
  | .arr rules => rules.flatMap (ruleDiagnostics services)
  | _ => ["RULES_MUST_BE_LIST"]

def validateDefinition (definition : PolicyPackDefinition) : List String :=
  requiredFieldDiagnostics definition ++ referencePostureDiagnostics definition ++
    ruleCollectionDiagnostics services definition

/-- A definition with diagnostics is rejected with all of them. -/
def requireValidDefinition (definition : PolicyPackDefinition) : Except PolicyPackError Unit :=
  require (validateDefinition services definition = [])
    (.validation (";".intercalate (validateDefinition services definition)))

end Validation

section ReferencePacks

def referenceRule (ruleId severity : String) (requiredEvidenceFields : List String)
    (sourceGapHandling outcomeMapping : String) : Json :=
  .obj [("rule_id", .str ruleId), ("severity", .str severity),
    ("required_evidence_fields", .ofTexts requiredEvidenceFields),
    ("source_gap_handling", .str sourceGapHandling), ("outcome_mapping", .str outcomeMapping)]

def referenceTemplate (templateId templateVersion audience : String) : Json :=
  .obj [("template_id", .str templateId), ("template_version", .str templateVersion),
    ("audience", .str audience)]

def referenceRoute (routeId ownerRole reviewSla : String) : Json :=
  .obj [("route_id", .str routeId), ("owner_role", .str ownerRole), ("review_sla", .str reviewSla)]

def globalPrivateBankingBaseline : PolicyPackDefinition where
  policyPackId := "GLOBAL_PRIVATE_BANKING_BASELINE"
  policyVersion := "2026.05"
  activationState := .active
  fields :=
    [("policy_family", .str "GLOBAL_PRIVATE_BANKING"),
      ("display_name", .str "Global Private Banking Baseline"),
      ("jurisdiction_scope", .ofTexts ["GLOBAL"]),
      ("booking_center_code_scope", .ofTexts ["GLOBAL"]),
      ("legal_entity_scope", .ofTexts ["REFERENCE"]),
      ("client_segment_scope", .ofTexts ["PRIVATE_BANKING"]),
      ("product_scope", .ofTexts ["MULTI_ASSET"]),
      ("effective_from", .str "2026-05-01"), ("effective_to", .str "3999-12-31"),
      ("owner_role", .str "ADVISORY_POLICY_STEWARD"), ("maker_checker_required", .bool false),
      ("schema_version", .str policyCatalogContractVersion),
      ("applicability", .obj
        [("jurisdiction_scope", .ofTexts ["GLOBAL"]),
          ("booking_center_code_scope", .ofTexts ["GLOBAL"]),
          ("legal_entity_scope", .ofTexts ["REFERENCE"]),
          ("client_segment_scope", .ofTexts ["PRIVATE_BANKING"]),
          ("product_scope", .ofTexts ["MULTI_ASSET"])]),
      ("source_requirements", .ofTexts
        ["client_classification", "mandate_objectives", "mandate_restrictions",
          "holdings_cash_market_data", "product_eligibility", "risk_policy_metrics"]),
      ("rules", .arr
        [referenceRule "GLOBAL_SOURCE_READINESS_REQUIRED" "BLOCKING"
            ["policy_source_readiness.overall_posture", "policy_source_readiness.source_authority"]
            "PENDING_REVIEW_OR_BLOCKED" "NO_POSITIVE_POLICY_OUTCOME_WITH_MISSING_SOURCE_EVIDENCE",
          referenceRule "GLOBAL_MANDATE_RESTRICTIONS_REVIEW" "REVIEW_REQUIRED"
            ["core_mandate_objectives_restrictions"] "PENDING_REVIEW_OR_BLOCKED"
            "MANDATE_RESTRICTIONS_REQUIRE_ADVISOR_REVIEW"]),
      ("disclosure_templates", .arr []), ("consent_templates", .arr []),
      ("approval_routes", .arr [referenceRoute "ADVISOR_REVIEW" "ADVISOR" "P2D"]),
      ("sample_fixture_refs", .ofTexts
        ["PB_SG_GLOBAL_BAL_001", "fixtures/policy-packs/global-private-banking-baseline.json"])]

def sgPrivateBankingReference : PolicyPackDefinition where
  policyPackId := "SG_PRIVATE_BANKING_REFERENCE"
  policyVersion := "2026.05"
  activationState := .draft
  fields :=
    [("policy_family", .str "SG_PRIVATE_BANKING"),
      ("display_name", .str "Singapore Private Banking Reference"),
      ("jurisdiction_scope", .ofTexts ["SG"]), ("booking_center_code_scope", .ofTexts ["SG"]),
      ("legal_entity_scope", .ofTexts ["REFERENCE"]),
      ("client_segment_scope", .ofTexts ["ACCREDITED_INVESTOR", "PRIVATE_BANKING"]),
      ("product_scope", .ofTexts ["MULTI_ASSET", "STRUCTURED_PRODUCT", "PRIVATE_ASSET"]),
      ("effective_from", .str "2026-05-01"), ("effective_to", .str "3999-12-31"),
      ("owner_role", .str "ADVISORY_POLICY_STEWARD"), ("maker_checker_required", .bool true),
      ("schema_version", .str policyCatalogContractVersion),
      ("applicability", .obj
        [("jurisdiction_scope", .ofTexts ["SG"]), ("booking_center_code_scope", .ofTexts ["SG"]),
          ("legal_entity_scope", .ofTexts ["REFERENCE"]),
          ("client_segment_scope", .ofTexts ["ACCREDITED_INVESTOR", "PRIVATE_BANKING"]),
          ("product_scope", .ofTexts ["MULTI_ASSET", "STRUCTURED_PRODUCT", "PRIVATE_ASSET"])]),
      ("source_requirements", .ofTexts
        ["household_id", "account_id", "mandate_id", "client_classification",
          "product_eligibility", "target_market", "product_complexity", "risk_policy_metrics"]),
      ("rules", .arr
        [referenceRule "SG_AI_PRODUCT_ELIGIBILITY_REVIEW" "BLOCKING"
            ["core_product_eligibility_target_market_complexity",
              "core_client_profile_classification"]
            "BLOCKED" "ELIGIBILITY_REVIEW_REQUIRED",
          referenceRule "SG_COMPLEX_PRODUCT_DISCLOSURE_REVIEW" "REVIEW_REQUIRED"
            ["private_asset_or_structured_product_flag", "risk_policy_metrics"] "PENDING_REVIEW"
            "DISCLOSURE_AND_CONSENT_REVIEW_REQUIRED",
          referenceRule "SG_BEST_INTEREST_COST_REVIEW" "REVIEW_REQUIRED"
            ["fee_cost_tax_friction_evidence"] "PENDING_REVIEW"
            "BEST_INTEREST_COST_REASONABLENESS_REVIEW_REQUIRED",
          referenceRule "SG_CONFLICT_REVIEW" "REVIEW_REQUIRED"
            ["conflict_evidence", "product_document_evidence"] "PENDING_REVIEW"
            "CONFLICT_AND_DISCLOSURE_REVIEW_REQUIRED"]),
      ("disclosure_templates", .arr
        [referenceTemplate "SG_COMPLEX_PRODUCT_DISCLOSURE" "2026.05" "INTERNAL_REVIEW"]),
      ("consent_templates", .arr
        [referenceTemplate "SG_COMPLEX_PRODUCT_CONSENT" "2026.05" "INTERNAL_REVIEW"]),
      ("approval_routes", .arr
        [referenceRoute "INVESTMENT_COUNSELLOR_REVIEW" "INVESTMENT_COUNSELLOR" "P1D",
          referenceRoute "SUPERVISORY_REVIEW" "SUPERVISOR" "P2D"]),
      ("sample_fixture_refs", .ofTexts
        ["PB_SG_GLOBAL_BAL_001", "fixtures/policy-packs/sg-private-banking-reference.json"])]

def referencePolicyPacks : List PolicyPackDefinition :=
  [globalPrivateBankingBaseline, sgPrivateBankingReference]

end ReferencePacks

section Lemmas

variable (services : CatalogServices) (definition : PolicyPackDefinition)

@[simp] theorem prepareDefinition_key : (prepareDefinition services definition).key = definition.key :=
  rfl

@[simp] theorem prepareDefinition_activationState :
    (prepareDefinition services definition).activationState = definition.activationState := rfl

end Lemmas

end LotusAdvise.PolicyPacks

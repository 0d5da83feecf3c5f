import LotusAdvise.Foundations.Dict
import LotusAdvise.PolicyPacks.CatalogDefinitions

/-! # The applicability of a policy pack

A policy pack declares a scope for each of five selectors, and the evidence of a proposal has a value
for each of them. A selector whose scope is restricted needs evidence. What the evidence of an
unrestricted selector is matters for two of them: their scope is only matched when they have any.
-/

namespace LotusAdvise.PolicyPacks

section Evidence

/-- `dict_at`. -/
def dictAt (payload : JsonObject) (key : String) : JsonObject :=
  match JsonObject.get payload key with
  | .obj items => items
  | _ => []

/-- `list_at`. -/
def listAt (payload : JsonObject) (key : String) : List Json :=
  match JsonObject.get payload key with
  | .arr items => items
  | _ => []

/-- `sorted(set(texts))`. -/
def sortedSet (texts : List String) : List String := texts.dedup.insertionSort fun a b => a ≤ b

variable (services : CatalogServices)

/-- `a or b or ""`. -/
def firstTruthy (values : List Json) : Json := (values.find? Json.truthy).getD (.str "")

/-- The instrument of a row that has one. -/
def rowInstrument : Json → Option (String × JsonObject)
  | .obj row =>
    if (JsonObject.get row "instrument_id").truthy then
      some (services.text (JsonObject.get row "instrument_id"), row)
    else none
  | _ => none

def shelfRowsByInstrument (inputs : JsonObject) : Dict String JsonObject :=
  Dict.ofItems ((listAt inputs "shelf_entries").filterMap (rowInstrument services))

def proposedInstrumentIds (inputs : JsonObject) : List String :=
  ((listAt inputs "proposed_trades").filterMap (rowInstrument services)).map Prod.fst

/-- The shelf row of each proposed instrument, if it has one. -/
def proposedShelfRows (evidenceBundle : JsonObject) : Dict String (Option JsonObject) :=
  let inputs := dictAt evidenceBundle "inputs"
  Dict.ofItems ((proposedInstrumentIds services inputs).map fun instrumentId =>
    (instrumentId, Dict.get? (shelfRowsByInstrument services inputs) instrumentId))

def complexityClassification (shelf attributes : JsonObject) : String :=
  services.upper (services.text (firstTruthy [JsonObject.get shelf "complexity",
    JsonObject.get shelf "product_complexity", JsonObject.get attributes "complexity",
    JsonObject.get attributes "product_complexity"]))

def truthyProductFlag (shelf attributes : JsonObject) (flag : String) : Bool :=
  (JsonObject.get shelf flag).truthy || (JsonObject.get attributes flag).truthy

def normalizedScopeValues : Json → List String
  | .arr items => (items.map fun item => Text.strip (services.text item)).filterMap fun value =>
      if value = "" then none else some (services.upper value)
  | .str value => if Text.strip value = "" then [] else [services.upper (Text.strip value)]
  | _ => []

def explicitProductScopes (shelf attributes : JsonObject) : List String :=
  normalizedScopeValues services (JsonObject.get shelf "product_scope") ++
    normalizedScopeValues services (JsonObject.get attributes "product_scope")

/-- The scopes of a product: those it states, or else those its complexity gives it. -/
def policyProductScopes (shelf : JsonObject) : List String :=
  let attributes := dictAt shelf "attributes"
  let explicit := explicitProductScopes services shelf attributes
  let complexity := complexityClassification services shelf attributes
  if explicit ≠ [] then sortedSet explicit
  else sortedSet (["MULTI_ASSET"] ++
    (if complexity = "PRIVATE_ASSET" ∨ truthyProductFlag shelf attributes "private_asset" then
      ["PRIVATE_ASSET"] else []) ++
    if complexity ∈ ["COMPLEX", "STRUCTURED"] ∨
        truthyProductFlag shelf attributes "structured_product" then ["STRUCTURED_PRODUCT"] else [])

def productScopes (evidenceBundle : JsonObject) : List String :=
  sortedSet ((proposedShelfRows services evidenceBundle).flatMap fun row =>
    (row.2.map (policyProductScopes services)).getD [])

def normalizedSelector (value : Json) : String :=
  if value = .null ∨ Text.strip (services.text value) = "" then ""
  else services.upper (Text.strip (services.text value))

structure PolicyApplicabilityContext where
  jurisdiction : String
  bookingLocationCode : String
  legalEntityCode : String
  clientSegment : String
  productScopes : List String
deriving DecidableEq

def applicabilityContext (evidenceBundle : JsonObject) : PolicyApplicabilityContext :=
  let context := dictAt (dictAt evidenceBundle "context_resolution") "advisory_policy_context"
  { jurisdiction := normalizedSelector services (JsonObject.get context "jurisdiction")
    bookingLocationCode := normalizedSelector services (JsonObject.get context "booking_center_code")
    legalEntityCode := normalizedSelector services (JsonObject.get context "legal_entity_code")
    clientSegment := normalizedSelector services (JsonObject.get context "client_classification")
    productScopes := productScopes services evidenceBundle }

end Evidence

inductive ApplicabilitySelector where
  | jurisdiction
  | bookingLocation
  | legalEntity
  | clientSegment
  | productScope
deriving DecidableEq

namespace ApplicabilitySelector

/-- The selectors, in the order in which their evidence is required. -/
def all : List ApplicabilitySelector :=
  [jurisdiction, bookingLocation, legalEntity, clientSegment, productScope]

theorem mem_all (selector : ApplicabilitySelector) : selector ∈ all := by
  cases selector <;> decide

def scopeKey : ApplicabilitySelector → String
  | jurisdiction => "jurisdiction_scope"
  | bookingLocation => "booking_center_code_scope"
  | legalEntity => "legal_entity_scope"
  | clientSegment => "client_segment_scope"
  | productScope => "product_scope"

def evidenceKey : ApplicabilitySelector → String
  | jurisdiction => "jurisdiction"
  | bookingLocation => "booking_center_code"
  | legalEntity => "legal_entity_code"
  | clientSegment => "client_classification"
  | productScope => "product_scope"

def missingReasonCode : ApplicabilitySelector → String
  | jurisdiction => "POLICY_APPLICABILITY_JURISDICTION_SOURCE_MISSING"
  | bookingLocation => "POLICY_APPLICABILITY_BOOKING_LOCATION_SOURCE_MISSING"
  | legalEntity => "POLICY_APPLICABILITY_LEGAL_ENTITY_SOURCE_MISSING"
  | clientSegment => "POLICY_APPLICABILITY_CLIENT_SEGMENT_SOURCE_MISSING"
  | productScope => "POLICY_APPLICABILITY_PRODUCT_SCOPE_SOURCE_MISSING"

/-- The reason code of a pack that does not apply by the selector. -/
def mismatchReasonCode : ApplicabilitySelector → String
  | jurisdiction => "POLICY_PACK_JURISDICTION_NOT_APPLICABLE"
  | bookingLocation => "POLICY_PACK_BOOKING_LOCATION_NOT_APPLICABLE"
  | legalEntity => "POLICY_PACK_LEGAL_ENTITY_NOT_APPLICABLE"
  | clientSegment => "POLICY_PACK_CLIENT_SEGMENT_NOT_APPLICABLE"
  | productScope => "POLICY_PACK_PRODUCT_SCOPE_NOT_APPLICABLE"

end ApplicabilitySelector

section Scopes

variable (scope : List String)

def matchesScope (value : String) : Bool := "GLOBAL" ∈ scope ∨ value ∈ scope

def clientSegmentMatchesScope (value : String) : Bool :=
  "GLOBAL" ∈ scope ∨ value ∈ scope ∨
    ("PRIVATE_BANKING" ∈ scope ∧ value ∈ ["ACCREDITED_INVESTOR", "PRIVATE_BANKING"])

def productScopeMatchesScope (productScopes : List String) : Bool :=
  "GLOBAL" ∈ scope ∨ ∃ value ∈ productScopes, value ∈ scope

end Scopes

section Applicability

variable (services : CatalogServices) (applicability : JsonObject)

namespace PolicyApplicabilityContext

variable (context : PolicyApplicabilityContext)

/-- The evidence of a selector. -/
def evidence : ApplicabilitySelector → List String
  | .jurisdiction => if context.jurisdiction = "" then [] else [context.jurisdiction]
  | .bookingLocation => if context.bookingLocationCode = "" then [] else [context.bookingLocationCode]
  | .legalEntity => if context.legalEntityCode = "" then [] else [context.legalEntityCode]
  | .clientSegment => if context.clientSegment = "" then [] else [context.clientSegment]
  | .productScope => context.productScopes

def matchedSelectors : List (String × String) :=
  [("jurisdiction", context.jurisdiction), ("client_segment", context.clientSegment)] ++
    (if context.bookingLocationCode = "" then []
      else [("booking_center_code", context.bookingLocationCode)]) ++
    (if context.legalEntityCode = "" then []
      else [("legal_entity_code", context.legalEntityCode)]) ++
    if context.productScopes = [] then []
    else [("product_scope", "|".intercalate context.productScopes)]

end PolicyApplicabilityContext

/-- `{str(item) for item in list_at(applicability, scope_key)}`. -/
def scopeOf (selector : ApplicabilitySelector) : List String :=
  (listAt applicability selector.scopeKey).map services.text

def requiresSelector (selector : ApplicabilitySelector) : Bool :=
  scopeOf services applicability selector ≠ [] ∧
    "GLOBAL" ∉ scopeOf services applicability selector

def missingApplicabilityEvidence (context : PolicyApplicabilityContext) :
    List ApplicabilitySelector :=
  ApplicabilitySelector.all.filter fun selector =>
    requiresSelector services applicability selector ∧ context.evidence selector = []

/-- A scope that the code and the legal entity are only held against when there is evidence. -/
def matchesSelector (context : PolicyApplicabilityContext) (selector : ApplicabilitySelector) :
    Bool :=
  let scope := scopeOf services applicability selector
  match selector with
  | .jurisdiction => matchesScope scope context.jurisdiction
  | .bookingLocation => context.bookingLocationCode = "" || matchesScope scope
      context.bookingLocationCode
  | .legalEntity => context.legalEntityCode = "" || matchesScope scope context.legalEntityCode
  | .clientSegment => clientSegmentMatchesScope scope context.clientSegment
  | .productScope => productScopeMatchesScope scope context.productScopes

def notApplicableResult (matchedSelectors : List (String × String)) (reasonCode : String) :
    PolicyPackApplicabilityResult where
  status := .notApplicable
  matchedSelectors := matchedSelectors.filter fun selector => selector.2 ≠ ""
  missingEvidence := []
  reasonCodes := [reasonCode]

/-- A jurisdiction that does not match is reported alone. -/
def mismatchSelectors (context : PolicyApplicabilityContext) :
    ApplicabilitySelector → List (String × String)
  | .jurisdiction => [("jurisdiction", context.jurisdiction)]
  | _ => context.matchedSelectors

/-- `evaluate_policy_pack_applicability`: the selectors are matched in their order. -/
def evaluatePolicyPackApplicability (evidenceBundle : JsonObject) : PolicyPackApplicabilityResult :=
  let context := applicabilityContext services evidenceBundle
  let missing := missingApplicabilityEvidence services applicability context
  if missing ≠ [] then
    { status := .blocked
      matchedSelectors := []
      missingEvidence := missing.map ApplicabilitySelector.evidenceKey
      reasonCodes := "POLICY_APPLICABILITY_SOURCE_EVIDENCE_MISSING" ::
        missing.map ApplicabilitySelector.missingReasonCode }
  else
    match ApplicabilitySelector.all.find? fun selector =>
        !matchesSelector services applicability context selector with
    | some selector => notApplicableResult (mismatchSelectors context selector)
        selector.mismatchReasonCode
    | none =>
      { status := .applicable
        matchedSelectors := context.matchedSelectors
        missingEvidence := []
        reasonCodes := ["POLICY_PACK_APPLIES_TO_PROPOSAL_CONTEXT"] }

end Applicability

section Status

variable {services : CatalogServices} {applicability : JsonObject}
  {context context' : PolicyApplicabilityContext} {selector : ApplicabilitySelector}

/-- The selector has the evidence that its scope requires, and its value matches. -/
def Satisfied (services : CatalogServices) (applicability : JsonObject)
    (context : PolicyApplicabilityContext) (selector : ApplicabilitySelector) : Prop :=
  (requiresSelector services applicability selector → context.evidence selector ≠ []) ∧
    matchesSelector services applicability context selector

/-- The scope of the selector is absent, empty or global. -/
def Unrestricted (services : CatalogServices) (applicability : JsonObject)
    (selector : ApplicabilitySelector) : Prop :=
  scopeOf services applicability selector = [] ∨
    "GLOBAL" ∈ scopeOf services applicability selector

theorem requiresSelector_iff : requiresSelector services applicability selector = true ↔
    ¬ Unrestricted services applicability selector := by
  simp [requiresSelector, Unrestricted]

theorem missing_eq_nil_iff : missingApplicabilityEvidence services applicability context = [] ↔
    ∀ selector, requiresSelector services applicability selector →
      context.evidence selector ≠ [] := by
  simp [missingApplicabilityEvidence, List.filter_eq_nil_iff, ApplicabilitySelector.mem_all]

/-- The pack is blocked exactly when required evidence is missing. -/
theorem status_eq_blocked_iff (evidenceBundle : JsonObject) :
    (evaluatePolicyPackApplicability services applicability evidenceBundle).status = .blocked ↔
      ∃ selector, requiresSelector services applicability selector ∧
        (applicabilityContext services evidenceBundle).evidence selector = [] := by
  unfold evaluatePolicyPackApplicability
  dsimp only
  split
  · next hmissing =>
    refine iff_of_true rfl (by_contra fun hnone => hmissing (missing_eq_nil_iff.mpr ?_))
    intro selector hrequired hevidence
    exact hnone ⟨selector, hrequired, hevidence⟩
  · next hnone =>
    rw [not_not, missing_eq_nil_iff] at hnone
    have hnot : ¬ ∃ selector, requiresSelector services applicability selector ∧
        (applicabilityContext services evidenceBundle).evidence selector = [] := by
      rintro ⟨selector, hrequired, hevidence⟩
      exact hnone selector hrequired hevidence
    refine iff_of_false ?_ hnot
    split <;> exact fun h => nomatch h

/-- The pack applies exactly when every selector is satisfied. -/
theorem status_eq_applicable_iff (evidenceBundle : JsonObject) :
    (evaluatePolicyPackApplicability services applicability evidenceBundle).status = .applicable ↔
      ∀ selector, Satisfied services applicability
        (applicabilityContext services evidenceBundle) selector := by
  unfold evaluatePolicyPackApplicability
  dsimp only
  split
  · next hmissing =>
    rw [ne_eq, missing_eq_nil_iff] at hmissing
    refine iff_of_false (fun h => nomatch h) fun h => hmissing fun selector => (h selector).1
  · next hnone =>
    rw [not_not, missing_eq_nil_iff] at hnone
    split
    · next selector hfound =>
      have hmismatch := List.find?_some hfound
      refine iff_of_false (fun h => nomatch h) fun h => ?_
      rw [Bool.not_eq_true', (h selector).2] at hmismatch
      cases hmismatch
    · next hall =>
      rw [List.find?_eq_none] at hall
      refine iff_of_true rfl fun selector => ⟨hnone selector, ?_⟩
      simpa using hall selector (ApplicabilitySelector.mem_all selector)

/-- The code and the legal entity are not matched without evidence. -/
def ApplicabilitySelector.Guarded (selector : ApplicabilitySelector) : Prop :=
  selector = .bookingLocation ∨ selector = .legalEntity

theorem evidence_text_eq_nil {value : String} : (if value = "" then [] else [value]) = [] ↔
    value = "" := by
  by_cases h : value = "" <;> simp [h]

theorem evidence_text_inj {value value' : String}
    (h : (if value = "" then [] else [value]) = if value' = "" then [] else [value']) :
    value = value' := by
  by_cases hvalue : value = ""
  · rw [if_pos hvalue, eq_comm, evidence_text_eq_nil] at h
    rw [hvalue, h]
  · by_cases hvalue' : value' = ""
    · rw [if_pos hvalue', evidence_text_eq_nil] at h
      exact absurd h hvalue
    · rw [if_neg hvalue, if_neg hvalue'] at h
      exact List.singleton_inj.mp h

/-- A selector is matched by its evidence alone. -/
theorem satisfied_congr (h : context.evidence selector = context'.evidence selector) :
    Satisfied services applicability context selector ↔
      Satisfied services applicability context' selector := by
  have hmatches : matchesSelector services applicability context selector =
      matchesSelector services applicability context' selector := by
    unfold matchesSelector
    cases selector with
    | productScope =>
      have hscopes : context.productScopes = context'.productScopes := h
      rw [hscopes]
    | jurisdiction =>
      have hvalue : context.jurisdiction = context'.jurisdiction := evidence_text_inj h
      rw [hvalue]
    | bookingLocation =>
      have hvalue : context.bookingLocationCode = context'.bookingLocationCode :=
        evidence_text_inj h
      rw [hvalue]
    | legalEntity =>
      have hvalue : context.legalEntityCode = context'.legalEntityCode := evidence_text_inj h
      rw [hvalue]
    | clientSegment =>
      have hvalue : context.clientSegment = context'.clientSegment := evidence_text_inj h
      rw [hvalue]
  rw [Satisfied, Satisfied, h, hmatches]

/-- An unrestricted scope matches when it is global, and else only where nothing is matched. -/
theorem satisfied_unrestricted_iff (h : Unrestricted services applicability selector) :
    Satisfied services applicability context selector ↔
      "GLOBAL" ∈ scopeOf services applicability selector ∨
        selector.Guarded ∧ context.evidence selector = [] := by
  have hrequires : ¬ requiresSelector services applicability selector = true := by
    rw [requiresSelector_iff]
    exact not_not.mpr h
  rw [Satisfied, and_iff_right fun hrequired => absurd hrequired hrequires]
  by_cases hglobal : "GLOBAL" ∈ scopeOf services applicability selector
  · refine iff_of_true ?_ (.inl hglobal)
    unfold matchesSelector
    cases selector <;>
      simp [matchesScope, clientSegmentMatchesScope, productScopeMatchesScope, hglobal]
  · have hempty : scopeOf services applicability selector = [] := h.resolve_right hglobal
    rw [or_iff_right hglobal]
    unfold matchesSelector
    rw [hempty]
    cases selector <;>
      simp [matchesScope, clientSegmentMatchesScope, productScopeMatchesScope,
        ApplicabilitySelector.Guarded, PolicyApplicabilityContext.evidence]

end Status

section Law

variable (services : CatalogServices) (applicability : JsonObject) (selector : ApplicabilitySelector)
  (evidenceBundle evidenceBundle' : JsonObject)

/-- The bundles have the same evidence for every other selector. -/
def AgreeExcept : Prop :=
  ∀ other ≠ selector, (applicabilityContext services evidenceBundle).evidence other =
    (applicabilityContext services evidenceBundle').evidence other

/-- The evidence of the selector decides: it is not matched without evidence, its scope is empty, one
of the bundles alone has evidence for it, and every other selector is satisfied. -/
structure GuardDecides : Prop where
  guarded : selector.Guarded
  scope : scopeOf services applicability selector = []
  evidence : (applicabilityContext services evidenceBundle).evidence selector = [] ↔
    (applicabilityContext services evidenceBundle').evidence selector ≠ []
  others : ∀ other ≠ selector,
    Satisfied services applicability (applicabilityContext services evidenceBundle) other

variable {services applicability selector evidenceBundle evidenceBundle'}

theorem blocked_iff_of_agree (hagree : AgreeExcept services selector evidenceBundle evidenceBundle')
    (hunrestricted : Unrestricted services applicability selector) :
    (evaluatePolicyPackApplicability services applicability evidenceBundle).status = .blocked ↔
      (evaluatePolicyPackApplicability services applicability evidenceBundle').status =
        .blocked := by
  rw [status_eq_blocked_iff, status_eq_blocked_iff]
  apply exists_congr
  intro other
  apply and_congr_right
  intro hrequired
  have hother : other ≠ selector := by
    rintro rfl
    exact requiresSelector_iff.mp hrequired hunrestricted
  rw [hagree other hother]

theorem applicable_iff_of_unrestricted (evidenceBundle : JsonObject)
    (hunrestricted : Unrestricted services applicability selector) :
    (evaluatePolicyPackApplicability services applicability evidenceBundle).status = .applicable ↔
      (∀ other ≠ selector, Satisfied services applicability
        (applicabilityContext services evidenceBundle) other) ∧
        ("GLOBAL" ∈ scopeOf services applicability selector ∨ selector.Guarded ∧
          (applicabilityContext services evidenceBundle).evidence selector = []) := by
  rw [status_eq_applicable_iff, ← satisfied_unrestricted_iff hunrestricted]
  constructor
  · exact fun h => ⟨fun other _ => h other, h selector⟩
  · rintro ⟨hothers, hselector⟩ other
    by_cases h : other = selector
    · rw [h]
      exact hselector
    · exact hothers other h

theorem guardDecides_iff (hunrestricted : Unrestricted services applicability selector) :
    GuardDecides services applicability selector evidenceBundle evidenceBundle' ↔
      "GLOBAL" ∉ scopeOf services applicability selector ∧ selector.Guarded ∧
        ((applicabilityContext services evidenceBundle).evidence selector = [] ↔
          ¬ (applicabilityContext services evidenceBundle').evidence selector = []) ∧
        ∀ other ≠ selector, Satisfied services applicability
          (applicabilityContext services evidenceBundle) other := by
  constructor
  · rintro ⟨hguarded, hscope, hevidence, hothers⟩
    refine ⟨?_, hguarded, hevidence, hothers⟩
    rw [hscope]
    exact List.not_mem_nil
  · rintro ⟨hglobal, hguarded, hevidence, hothers⟩
    exact ⟨hguarded, hunrestricted.resolve_right hglobal, hevidence, hothers⟩

theorem same_guard_iff {others scope guarded evidence evidence' : Prop} :
    ((others ∧ (scope ∨ guarded ∧ evidence)) ↔ others ∧ (scope ∨ guarded ∧ evidence')) ↔
      ¬ (¬ scope ∧ guarded ∧ (evidence ↔ ¬ evidence') ∧ others) := by
  tauto

/-- The evidence of an unrestricted selector does not change the status, and missing evidence of a
restricted one blocks, exactly when the guard of the selector does not decide. -/
theorem unrestricted_selector_iff
    (hagree : AgreeExcept services selector evidenceBundle evidenceBundle')
    (hunrestricted : Unrestricted services applicability selector) :
    ((evaluatePolicyPackApplicability services applicability evidenceBundle).status =
        (evaluatePolicyPackApplicability services applicability evidenceBundle').status ∧
      ∀ other, ¬ Unrestricted services applicability other →
        (applicabilityContext services evidenceBundle).evidence other = [] →
          (evaluatePolicyPackApplicability services applicability evidenceBundle).status =
            .blocked) ↔
    ¬ GuardDecides services applicability selector evidenceBundle evidenceBundle' := by
  have hblocks : ∀ other, ¬ Unrestricted services applicability other →
      (applicabilityContext services evidenceBundle).evidence other = [] →
        (evaluatePolicyPackApplicability services applicability evidenceBundle).status =
          .blocked :=
    fun other hrestricted hevidence => (status_eq_blocked_iff evidenceBundle).mpr
      ⟨other, requiresSelector_iff.mpr hrestricted, hevidence⟩
  rw [and_iff_left hblocks]
  have hothers : (∀ other ≠ selector, Satisfied services applicability
        (applicabilityContext services evidenceBundle) other) ↔
      ∀ other ≠ selector, Satisfied services applicability
        (applicabilityContext services evidenceBundle') other :=
    forall₂_congr fun other hother => satisfied_congr (hagree other hother)
  have hblocked := blocked_iff_of_agree hagree hunrestricted
  have happlicable := applicable_iff_of_unrestricted evidenceBundle hunrestricted
  have happlicable' :=
    applicable_iff_of_unrestricted evidenceBundle' hunrestricted
  rw [← hothers] at happlicable'
  have hsame : ∀ status status' : PolicyApplicabilityStatus,
      (status = .blocked ↔ status' = .blocked) →
        (status = status' ↔ (status = .applicable ↔ status' = .applicable)) := by
    intro status status' h
    cases status <;> cases status' <;> simp_all
  rw [hsame _ _ hblocked, happlicable, happlicable', guardDecides_iff hunrestricted]
  exact same_guard_iff

end Law

namespace ApplicabilitySample

def services : CatalogServices where
  sha256 _ := "0"
  str _ := "None"
  upper := Text.upper

/-- A pack for Singapore without a scope of legal entities. -/
def applicability : JsonObject := [
  ("jurisdiction_scope", .ofTexts ["SG"]),
  ("booking_center_code_scope", .ofTexts ["GLOBAL"]),
  ("client_segment_scope", .ofTexts ["PRIVATE_BANKING"]),
  ("product_scope", .ofTexts ["GLOBAL"])]

def evidenceOf (context : JsonObject) : JsonObject :=
  [("context_resolution", .obj [("advisory_policy_context", .obj ([
    ("jurisdiction", .str "sg"), ("client_classification", .str "accredited_investor")] ++
      context))])]

end ApplicabilitySample

open ApplicabilitySample in
/-- Evidence for the legal entity, which the pack does not restrict, makes the pack not apply. -/
theorem unrestricted_entity_decides :
    AgreeExcept services .legalEntity (evidenceOf [])
        (evidenceOf [("legal_entity_code", .str "LE_SG")]) ∧
      Unrestricted services applicability .legalEntity ∧
      (evaluatePolicyPackApplicability services applicability (evidenceOf [])).status =
        .applicable ∧
      (evaluatePolicyPackApplicability services applicability
        (evidenceOf [("legal_entity_code", .str "LE_SG")])).status = .notApplicable := by
  refine ⟨?_, .inl rfl, by decide +kernel, by decide +kernel⟩
  intro other hother
  cases other with
  | legalEntity => exact absurd rfl hother
  | _ => decide +kernel

open ApplicabilitySample in
/-- The theorem at a booking location whose scope is global. -/
theorem unrestricted_booking_location :
    ((evaluatePolicyPackApplicability services applicability (evidenceOf [])).status =
        (evaluatePolicyPackApplicability services applicability
          (evidenceOf [("booking_center_code", .str "HK")])).status ∧
      ∀ other, ¬ Unrestricted services applicability other →
        (applicabilityContext services (evidenceOf [])).evidence other = [] →
          (evaluatePolicyPackApplicability services applicability (evidenceOf [])).status =
            .blocked) ↔
    ¬ GuardDecides services applicability .bookingLocation (evidenceOf [])
      (evidenceOf [("booking_center_code", .str "HK")]) := by
  apply unrestricted_selector_iff
  · intro other hother
    cases other with
    | bookingLocation => exact absurd rfl hother
    | _ => decide +kernel
  · exact .inr (by decide +kernel)

end LotusAdvise.PolicyPacks

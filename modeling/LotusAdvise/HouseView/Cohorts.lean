import LotusAdvise.Foundations.Dict
import LotusAdvise.Foundations.Json
import LotusAdvise.Foundations.Text
import Mathlib.Data.Prod.Lex
import Mathlib.Data.Rat.Floor

/-! # Tactical house-view cohorts

The candidate portfolios of a tactical house view are affected by it or excluded from it. The cohort
lists both with the source references that it rests on, and is identified by a hash of its contents.
-/

namespace LotusAdvise.HouseView

/-- What is used of the language: a digest of the canonical text of a value in canonical form, and
`str.upper`. -/
structure Services where
  sha256 : Json → String
  upper : String → String

inductive TacticalHouseViewAction where
  | increase | reduce | review | exclude
deriving DecidableEq

def TacticalHouseViewAction.text : TacticalHouseViewAction → String
  | .increase => "INCREASE"
  | .reduce => "REDUCE"
  | .review => "REVIEW"
  | .exclude => "EXCLUDE"

inductive TacticalHouseViewAlignment where
  | overweight | underweight | aligned | unknown
deriving DecidableEq

def TacticalHouseViewAlignment.text : TacticalHouseViewAlignment → String
  | .overweight => "OVERWEIGHT"
  | .underweight => "UNDERWEIGHT"
  | .aligned => "ALIGNED"
  | .unknown => "UNKNOWN"

structure TacticalHouseViewSourceRef where
  sourceSystem : String
  sourceType : String
  sourceId : String
  sourceVersion : Option String := none
  contentHash : Option String := none
deriving DecidableEq

structure TacticalHouseViewCandidatePortfolio where
  portfolioId : String
  mandateId : Option String := none
  portfolioType : String
  discretionaryMandate : Bool
  currentExposureWeight : Option ℚ := none
  alignmentSignal : TacticalHouseViewAlignment := .unknown
  sourceRefs : List TacticalHouseViewSourceRef
  reasonCodes : List String := []
deriving DecidableEq

structure TacticalHouseViewDefinition where
  tacticalViewId : String
  tacticalViewVersion : String
  themeId : String
  asOfDate : String
  targetAction : TacticalHouseViewAction
  sourceRefs : List TacticalHouseViewSourceRef
deriving DecidableEq

structure TacticalHouseViewCohortRequest where
  tacticalView : TacticalHouseViewDefinition
  candidatePortfolios : List TacticalHouseViewCandidatePortfolio
  eligiblePortfolioTypes : List String := ["DISCRETIONARY", "MANAGED"]
  minExposureWeight : Option ℚ := none
  correlationId : String
deriving DecidableEq

structure TacticalHouseViewAffectedPortfolio where
  portfolioId : String
  mandateId : Option String
  inclusionReasonCodes : List String
  sourceRefs : List TacticalHouseViewSourceRef
deriving DecidableEq

structure TacticalHouseViewExcludedPortfolio where
  portfolioId : String
  exclusionReasonCodes : List String
  sourceRefs : List TacticalHouseViewSourceRef
deriving DecidableEq

structure TacticalHouseViewSupportability where
  state : String
  reasonCodes : List String
  evaluatedCandidateCount : ℕ
  affectedCount : ℕ
  excludedCount : ℕ
deriving DecidableEq

structure TacticalHouseViewAffectedCohort where
  cohortId : String
  tacticalViewId : String
  tacticalViewVersion : String
  themeId : String
  asOfDate : String
  targetAction : TacticalHouseViewAction
  affectedPortfolios : List TacticalHouseViewAffectedPortfolio
  excludedPortfolios : List TacticalHouseViewExcludedPortfolio
  supportability : TacticalHouseViewSupportability
  sourceRefs : List TacticalHouseViewSourceRef
  contentHash : String
  generatedAt : String
  correlationId : String
deriving DecidableEq

section Dumps

def TacticalHouseViewSourceRef.dump (ref : TacticalHouseViewSourceRef) : Json :=
  .obj [("source_system", .str ref.sourceSystem), ("source_type", .str ref.sourceType),
    ("source_id", .str ref.sourceId), ("source_version", .ofText? ref.sourceVersion),
    ("content_hash", .ofText? ref.contentHash)]

def dumpRefs (refs : List TacticalHouseViewSourceRef) : Json :=
  .arr (refs.map TacticalHouseViewSourceRef.dump)

def TacticalHouseViewAffectedPortfolio.dump (portfolio : TacticalHouseViewAffectedPortfolio) :
    Json :=
  .obj [("portfolio_id", .str portfolio.portfolioId), ("mandate_id", .ofText? portfolio.mandateId),
    ("inclusion_reason_codes", .ofTexts portfolio.inclusionReasonCodes),
    ("source_refs", dumpRefs portfolio.sourceRefs)]

def TacticalHouseViewExcludedPortfolio.dump (portfolio : TacticalHouseViewExcludedPortfolio) :
    Json :=
  .obj [("portfolio_id", .str portfolio.portfolioId),
    ("exclusion_reason_codes", .ofTexts portfolio.exclusionReasonCodes),
    ("source_refs", dumpRefs portfolio.sourceRefs)]

def TacticalHouseViewSupportability.dump (supportability : TacticalHouseViewSupportability) :
    Json :=
  .obj [("state", .str supportability.state), ("reason_codes", .ofTexts supportability.reasonCodes),
    ("evaluated_candidate_count", .int supportability.evaluatedCandidateCount),
    ("affected_count", .int supportability.affectedCount),
    ("excluded_count", .int supportability.excludedCount)]

def TacticalHouseViewAffectedCohort.dump (cohort : TacticalHouseViewAffectedCohort) : JsonObject :=
  [("product_name", .str "TacticalHouseViewAffectedCohort"), ("product_version", .str "v1"),
    ("cohort_id", .str cohort.cohortId), ("tactical_view_id", .str cohort.tacticalViewId),
    ("tactical_view_version", .str cohort.tacticalViewVersion), ("theme_id", .str cohort.themeId),
    ("as_of_date", .str cohort.asOfDate), ("target_action", .str cohort.targetAction.text),
    ("affected_portfolios",
      .arr (cohort.affectedPortfolios.map TacticalHouseViewAffectedPortfolio.dump)),
    ("excluded_portfolios",
      .arr (cohort.excludedPortfolios.map TacticalHouseViewExcludedPortfolio.dump)),
    ("supportability", cohort.supportability.dump), ("source_refs", dumpRefs cohort.sourceRefs),
    ("content_hash", .str cohort.contentHash), ("generated_at", .str cohort.generatedAt),
    ("correlation_id", .str cohort.correlationId)]

end Dumps

section Rules

variable (services : Services)

def normalizePortfolioType (portfolioType : String) : String :=
  let normalized := services.upper (Text.strip portfolioType)
  if normalized = "DPM" then "DISCRETIONARY" else normalized

def exposureExclusionReasons (currentExposureWeight minExposureWeight : Option ℚ) : List String :=
  match minExposureWeight, currentExposureWeight with
  | none, _ => []
  | some _, none => ["TACTICAL_HOUSE_VIEW_EXPOSURE_EVIDENCE_MISSING"]
  | some minimum, some weight =>
    if weight < minimum then ["TACTICAL_HOUSE_VIEW_EXPOSURE_BELOW_MINIMUM"] else []

def candidateExclusionReasons (candidate : TacticalHouseViewCandidatePortfolio)
    (eligibleTypes : List String) (minExposureWeight : Option ℚ) : List String :=
  (if normalizePortfolioType services candidate.portfolioType ∉ eligibleTypes then
    ["TACTICAL_HOUSE_VIEW_PORTFOLIO_TYPE_NOT_ELIGIBLE"] else []) ++
  (if candidate.discretionaryMandate = false then
    ["TACTICAL_HOUSE_VIEW_NON_DISCRETIONARY_MANDATE"] else []) ++
  (if candidate.alignmentSignal = .aligned then ["TACTICAL_HOUSE_VIEW_ALREADY_ALIGNED"] else []) ++
  (if candidate.alignmentSignal = .unknown then
    ["TACTICAL_HOUSE_VIEW_ALIGNMENT_UNKNOWN"] else []) ++
  exposureExclusionReasons candidate.currentExposureWeight minExposureWeight

/-- `sorted(set)`. -/
def sortedSet (texts : List String) : List String :=
  texts.dedup.insertionSort fun a b => a ≤ b

def candidateInclusionReasonCodes (candidate : TacticalHouseViewCandidatePortfolio) :
    List String :=
  sortedSet (["TACTICAL_HOUSE_VIEW_PORTFOLIO_AFFECTED",
    "TACTICAL_HOUSE_VIEW_" ++ candidate.alignmentSignal.text] ++ candidate.reasonCodes)

def supportability (evaluatedCandidateCount affectedCount excludedCount : ℕ) :
    TacticalHouseViewSupportability :=
  if affectedCount = 0 then
    { state := "EMPTY"
      reasonCodes := ["TACTICAL_HOUSE_VIEW_NO_ELIGIBLE_AFFECTED_PORTFOLIOS"]
      evaluatedCandidateCount, affectedCount, excludedCount }
  else
    { state := "READY"
      reasonCodes := ["TACTICAL_HOUSE_VIEW_AFFECTED_COHORT_READY"]
      evaluatedCandidateCount, affectedCount, excludedCount }

/-- What a reference is unique by. -/
abbrev RefKey := String × String × String × Option String

def TacticalHouseViewSourceRef.key (ref : TacticalHouseViewSourceRef) : RefKey :=
  (ref.sourceSystem, ref.sourceType, ref.sourceId, ref.sourceVersion)

/-- What keys are sorted by, in which a missing version is an empty one. -/
def sortKey (key : RefKey) : String ×ₗ String ×ₗ String ×ₗ String :=
  toLex (key.1, toLex (key.2.1, toLex (key.2.2.1, key.2.2.2.getD "")))

def KeyLE (key other : RefKey) : Prop := sortKey key ≤ sortKey other

instance (key other : RefKey) : Decidable (KeyLE key other) :=
  inferInstanceAs (Decidable (sortKey key ≤ sortKey other))

/-- The last reference under each key. -/
def dedupeSourceRefs (refs : List TacticalHouseViewSourceRef) : List TacticalHouseViewSourceRef :=
  let unique := Dict.ofItems (refs.map fun ref => (ref.key, ref))
  ((unique.map Prod.fst).insertionSort KeyLE).filterMap fun key => Dict.get? unique key

end Rules

section Build

variable (services : Services) (request : TacticalHouseViewCohortRequest)

def eligiblePortfolioTypes : List String :=
  request.eligiblePortfolioTypes.map (normalizePortfolioType services)

def affectedPortfolio (candidate : TacticalHouseViewCandidatePortfolio) :
    TacticalHouseViewAffectedPortfolio where
  portfolioId := candidate.portfolioId
  mandateId := candidate.mandateId
  inclusionReasonCodes := candidateInclusionReasonCodes candidate
  sourceRefs := candidate.sourceRefs

def excludedPortfolio (candidate : TacticalHouseViewCandidatePortfolio)
    (exclusionReasonCodes : List String) : TacticalHouseViewExcludedPortfolio where
  portfolioId := candidate.portfolioId
  exclusionReasonCodes
  sourceRefs := candidate.sourceRefs

def classifyCandidate (candidate : TacticalHouseViewCandidatePortfolio)
    (eligibleTypes : List String) (minExposureWeight : Option ℚ) :
    Option TacticalHouseViewAffectedPortfolio × Option TacticalHouseViewExcludedPortfolio :=
  let exclusionReasons :=
    candidateExclusionReasons services candidate eligibleTypes minExposureWeight
  if exclusionReasons ≠ [] then (none, some (excludedPortfolio candidate exclusionReasons))
  else (some (affectedPortfolio candidate), none)

def classifyCandidates :
    List TacticalHouseViewAffectedPortfolio × List TacticalHouseViewExcludedPortfolio :=
  let classified := request.candidatePortfolios.map fun candidate =>
    classifyCandidate services candidate (eligiblePortfolioTypes services request)
      request.minExposureWeight
  (classified.filterMap Prod.fst, classified.filterMap Prod.snd)

/-- The references of the view, and those of the candidates. -/
def citations : List TacticalHouseViewSourceRef :=
  request.tacticalView.sourceRefs ++
    request.candidatePortfolios.flatMap TacticalHouseViewCandidatePortfolio.sourceRefs

def cohortSourceRefs : List TacticalHouseViewSourceRef := dedupeSourceRefs (citations request)

def hashCanonicalPayload (payload : JsonObject) : String :=
  "sha256:" ++ services.sha256 (Json.obj payload).canonical

def strippedHash (exclude : List String) (payload : JsonObject) : String :=
  hashCanonicalPayload services (Json.stripKeysFields exclude payload)

/-- The payload is dumped, gets its hashes and is validated as a cohort again. -/
def finalizeCohortIdentity (cohort : TacticalHouseViewAffectedCohort) :
    TacticalHouseViewAffectedCohort :=
  let payload := cohort.dump
  let hashed := JsonObject.set payload "content_hash"
    (.str (strippedHash services ["content_hash"] payload))
  let cohortId := strippedHash services ["cohort_id", "content_hash", "generated_at"] hashed
  let identified := JsonObject.set hashed "cohort_id" (.str cohortId)
  { cohort with cohortId, contentHash := strippedHash services ["content_hash"] identified }

/-- The cohort before it gets its identity. -/
def draftCohort (generatedAt : String) : TacticalHouseViewAffectedCohort :=
  let classified := classifyCandidates services request
  { cohortId := ""
    tacticalViewId := request.tacticalView.tacticalViewId
    tacticalViewVersion := request.tacticalView.tacticalViewVersion
    themeId := request.tacticalView.themeId
    asOfDate := request.tacticalView.asOfDate
    targetAction := request.tacticalView.targetAction
    affectedPortfolios := classified.1.insertionSort fun a b => a.portfolioId ≤ b.portfolioId
    excludedPortfolios := classified.2.insertionSort fun a b => a.portfolioId ≤ b.portfolioId
    supportability := supportability request.candidatePortfolios.length classified.1.length
      classified.2.length
    sourceRefs := cohortSourceRefs request
    contentHash := ""
    generatedAt
    correlationId := request.correlationId }

/-- The time of generation is given as its text. -/
def buildTacticalHouseViewAffectedCohort (generatedAt : String) :
    TacticalHouseViewAffectedCohort :=
  finalizeCohortIdentity services (draftCohort services request generatedAt)

/-- The recorded cohorts, by their identifiers. -/
abbrev CohortStore := Dict String TacticalHouseViewAffectedCohort

def recordTacticalHouseViewAffectedCohort (store : CohortStore)
    (cohort : TacticalHouseViewAffectedCohort) : CohortStore :=
  Dict.set store cohort.cohortId cohort

end Build

end LotusAdvise.HouseView

import LotusAdvise.Foundations.CanonicalJson
import LotusAdvise.HouseView.Cohorts

/-! # What the identifier of a cohort pins

The keys of the hashes are stripped at every depth, so that the identifier of a cohort is the hash
of everything but its own hashes, its time and the content hashes of the references in it.
-/

namespace LotusAdvise.HouseView

open Json

/-- What the identifier is a hash of. References are known by their keys. -/
structure CohortIdentity where
  tacticalViewId : String
  tacticalViewVersion : String
  themeId : String
  asOfDate : String
  targetAction : TacticalHouseViewAction
  affected : List (String × Option String × List String × List RefKey)
  excluded : List (String × List String × List RefKey)
  supportability : TacticalHouseViewSupportability
  sourceRefs : List RefKey
  correlationId : String

def refKeys (refs : List TacticalHouseViewSourceRef) : List RefKey :=
  refs.map TacticalHouseViewSourceRef.key

def TacticalHouseViewAffectedCohort.identity (cohort : TacticalHouseViewAffectedCohort) :
    CohortIdentity where
  tacticalViewId := cohort.tacticalViewId
  tacticalViewVersion := cohort.tacticalViewVersion
  themeId := cohort.themeId
  asOfDate := cohort.asOfDate
  targetAction := cohort.targetAction
  affected := cohort.affectedPortfolios.map fun portfolio =>
    (portfolio.portfolioId, portfolio.mandateId, portfolio.inclusionReasonCodes,
      refKeys portfolio.sourceRefs)
  excluded := cohort.excludedPortfolios.map fun portfolio =>
    (portfolio.portfolioId, portfolio.exclusionReasonCodes, refKeys portfolio.sourceRefs)
  supportability := cohort.supportability
  sourceRefs := refKeys cohort.sourceRefs
  correlationId := cohort.correlationId

section Dumps

def dumpKey (key : RefKey) : Json :=
  .obj [("source_system", .str key.1), ("source_type", .str key.2.1), ("source_id", .str key.2.2.1),
    ("source_version", .ofText? key.2.2.2)]

def dumpKeys (keys : List RefKey) : Json := .arr (keys.map dumpKey)

def dumpAffected (portfolio : String × Option String × List String × List RefKey) : Json :=
  .obj [("portfolio_id", .str portfolio.1), ("mandate_id", .ofText? portfolio.2.1),
    ("inclusion_reason_codes", .ofTexts portfolio.2.2.1), ("source_refs", dumpKeys portfolio.2.2.2)]

def dumpExcluded (portfolio : String × List String × List RefKey) : Json :=
  .obj [("portfolio_id", .str portfolio.1), ("exclusion_reason_codes", .ofTexts portfolio.2.1),
    ("source_refs", dumpKeys portfolio.2.2)]

def CohortIdentity.dump (identity : CohortIdentity) : JsonObject :=
  [("product_name", .str "TacticalHouseViewAffectedCohort"), ("product_version", .str "v1"),
    ("tactical_view_id", .str identity.tacticalViewId),
    ("tactical_view_version", .str identity.tacticalViewVersion),
    ("theme_id", .str identity.themeId), ("as_of_date", .str identity.asOfDate),
    ("target_action", .str identity.targetAction.text),
    ("affected_portfolios", .arr (identity.affected.map dumpAffected)),
    ("excluded_portfolios", .arr (identity.excluded.map dumpExcluded)),
    ("supportability", identity.supportability.dump), ("source_refs", dumpKeys identity.sourceRefs),
    ("correlation_id", .str identity.correlationId)]

theorem actionText_injective : Function.Injective TacticalHouseViewAction.text := by
  intro a b h
  cases a <;> cases b <;> first | rfl | exact absurd h (by decide)

theorem faithful_dumpKey : Faithful dumpKey := by
  rintro ⟨a, b, c, d⟩ ⟨a', b', c', d'⟩ h
  have hvalues := canonical_values_eq h rfl (by simp)
  obtain ⟨ha, hvalues⟩ := List.cons.inj hvalues
  obtain ⟨hb, hvalues⟩ := List.cons.inj hvalues
  obtain ⟨hc, hvalues⟩ := List.cons.inj hvalues
  obtain ⟨hd, -⟩ := List.cons.inj hvalues
  rw [faithful_str a a' ha, faithful_str b b' hb, faithful_str c c' hc, faithful_ofText? d d' hd]

theorem faithful_dumpKeys : Faithful dumpKeys := faithful_dumpKey.arr

theorem faithful_dumpAffected : Faithful dumpAffected := by
  rintro ⟨a, b, c, d⟩ ⟨a', b', c', d'⟩ h
  have hvalues := canonical_values_eq h rfl (by simp)
  obtain ⟨ha, hvalues⟩ := List.cons.inj hvalues
  obtain ⟨hb, hvalues⟩ := List.cons.inj hvalues
  obtain ⟨hc, hvalues⟩ := List.cons.inj hvalues
  obtain ⟨hd, -⟩ := List.cons.inj hvalues
  rw [faithful_str a a' ha, faithful_ofText? b b' hb, faithful_ofTexts c c' hc,
    faithful_dumpKeys d d' hd]

theorem faithful_dumpExcluded : Faithful dumpExcluded := by
  rintro ⟨a, b, c⟩ ⟨a', b', c'⟩ h
  have hvalues := canonical_values_eq h rfl (by simp)
  obtain ⟨ha, hvalues⟩ := List.cons.inj hvalues
  obtain ⟨hb, hvalues⟩ := List.cons.inj hvalues
  obtain ⟨hc, -⟩ := List.cons.inj hvalues
  rw [faithful_str a a' ha, faithful_ofTexts b b' hb, faithful_dumpKeys c c' hc]

theorem faithful_supportability : Faithful TacticalHouseViewSupportability.dump := by
  rintro ⟨a, b, c, d, e⟩ ⟨a', b', c', d', e'⟩ h
  have hvalues := canonical_values_eq h rfl (by simp)
  obtain ⟨ha, hvalues⟩ := List.cons.inj hvalues
  obtain ⟨hb, hvalues⟩ := List.cons.inj hvalues
  obtain ⟨hc, hvalues⟩ := List.cons.inj hvalues
  obtain ⟨hd, hvalues⟩ := List.cons.inj hvalues
  obtain ⟨he, -⟩ := List.cons.inj hvalues
  rw [faithful_str a a' ha, faithful_ofTexts b b' hb, faithful_natCast c c' hc,
    faithful_natCast d d' hd, faithful_natCast e e' he]

theorem faithful_identity : Faithful fun identity : CohortIdentity => .obj identity.dump := by
  rintro ⟨a, b, c, d, e, f, g, h, i, j⟩ ⟨a', b', c', d', e', f', g', h', i', j'⟩ heq
  have hvalues := canonical_values_eq heq rfl (by simp [CohortIdentity.dump])
  obtain ⟨-, hvalues⟩ := List.cons.inj hvalues
  obtain ⟨-, hvalues⟩ := List.cons.inj hvalues
  obtain ⟨ha, hvalues⟩ := List.cons.inj hvalues
  obtain ⟨hb, hvalues⟩ := List.cons.inj hvalues
  obtain ⟨hc, hvalues⟩ := List.cons.inj hvalues
  obtain ⟨hd, hvalues⟩ := List.cons.inj hvalues
  obtain ⟨he, hvalues⟩ := List.cons.inj hvalues
  obtain ⟨hf, hvalues⟩ := List.cons.inj hvalues
  obtain ⟨hg, hvalues⟩ := List.cons.inj hvalues
  obtain ⟨hh, hvalues⟩ := List.cons.inj hvalues
  obtain ⟨hi, hvalues⟩ := List.cons.inj hvalues
  obtain ⟨hj, -⟩ := List.cons.inj hvalues
  rw [faithful_str a a' ha, faithful_str b b' hb, faithful_str c c' hc, faithful_str d d' hd,
    actionText_injective (faithful_str e.text e'.text he), faithful_dumpAffected.arr f f' hf,
    faithful_dumpExcluded.arr g g' hg, faithful_supportability h h' hh, faithful_dumpKeys i i' hi,
    faithful_str j j' hj]

end Dumps

section Stripping

/-- The keys that are stripped before a cohort is identified. -/
def strippedKeys : List String := ["cohort_id", "content_hash", "generated_at"]

theorem mem_strippedKeys {key : String} : key ∈ strippedKeys ↔
    key = "cohort_id" ∨ key = "content_hash" ∨ key = "generated_at" := by
  simp [strippedKeys]

theorem strip_ofText? (value : Option String) :
    (ofText? value).stripKeys strippedKeys = ofText? value := by
  cases value <;> rfl

theorem strip_ofTexts (values : List String) :
    (ofTexts values).stripKeys strippedKeys = ofTexts values := by
  rw [ofTexts, stripKeys_arr, stripKeysItems_eq_map, List.map_map]
  rfl

theorem strip_ref (ref : TacticalHouseViewSourceRef) :
    ref.dump.stripKeys strippedKeys = dumpKey ref.key := by
  simp [TacticalHouseViewSourceRef.dump, dumpKey, TacticalHouseViewSourceRef.key,
    mem_strippedKeys, strip_ofText?]

theorem strip_items {α : Type} {dump dump' : α → Json}
    (h : ∀ a, (dump a).stripKeys strippedKeys = dump' a) (as : List α) :
    stripKeysItems strippedKeys (as.map dump) = as.map dump' := by
  rw [stripKeysItems_eq_map, List.map_map]
  exact List.map_congr_left fun a _ => h a

theorem strip_refs (refs : List TacticalHouseViewSourceRef) :
    (dumpRefs refs).stripKeys strippedKeys = dumpKeys (refKeys refs) := by
  unfold dumpRefs dumpKeys refKeys
  rw [stripKeys_arr, strip_items strip_ref, List.map_map]
  rfl

theorem strip_affected (portfolio : TacticalHouseViewAffectedPortfolio) :
    portfolio.dump.stripKeys strippedKeys = dumpAffected (portfolio.portfolioId,
      portfolio.mandateId, portfolio.inclusionReasonCodes, refKeys portfolio.sourceRefs) := by
  simp [TacticalHouseViewAffectedPortfolio.dump, dumpAffected, mem_strippedKeys, strip_ofText?,
    strip_ofTexts, strip_refs]

theorem strip_excluded (portfolio : TacticalHouseViewExcludedPortfolio) :
    portfolio.dump.stripKeys strippedKeys = dumpExcluded (portfolio.portfolioId,
      portfolio.exclusionReasonCodes, refKeys portfolio.sourceRefs) := by
  simp [TacticalHouseViewExcludedPortfolio.dump, dumpExcluded, mem_strippedKeys, strip_ofTexts,
    strip_refs]

theorem strip_supportability (supportability : TacticalHouseViewSupportability) :
    supportability.dump.stripKeys strippedKeys = supportability.dump := by
  simp [TacticalHouseViewSupportability.dump, mem_strippedKeys, strip_ofTexts]

/-- Whatever the hash of the contents is, the identifier is a hash of the identity. -/
theorem strip_cohort (cohort : TacticalHouseViewAffectedCohort) (contentHash : Json) :
    stripKeysFields strippedKeys (JsonObject.set cohort.dump "content_hash" contentHash) =
      cohort.identity.dump := by
  simp [TacticalHouseViewAffectedCohort.dump, CohortIdentity.dump,
    TacticalHouseViewAffectedCohort.identity, JsonObject.set, mem_strippedKeys,
    strip_items strip_affected, strip_items strip_excluded, strip_supportability, strip_refs]

end Stripping

section Identity

variable {services : Services} {cohort other : TacticalHouseViewAffectedCohort}

theorem cohortId_eq (cohort : TacticalHouseViewAffectedCohort) :
    (finalizeCohortIdentity services cohort).cohortId =
      hashCanonicalPayload services cohort.identity.dump := by
  unfold finalizeCohortIdentity strippedHash
  dsimp only
  rw [← strip_cohort cohort]
  rfl

/-- Finalized cohorts are identified by their identities. -/
theorem cohortId_eq_iff (hinjective : Function.Injective services.sha256) :
    (finalizeCohortIdentity services cohort).cohortId =
        (finalizeCohortIdentity services other).cohortId ↔
      cohort.identity = other.identity := by
  rw [cohortId_eq, cohortId_eq]
  constructor
  · intro h
    unfold hashCanonicalPayload at h
    exact faithful_identity _ _ (hinjective ((String.append_right_inj "sha256:").mp h))
  · intro h
    rw [h]

end Identity

end LotusAdvise.HouseView

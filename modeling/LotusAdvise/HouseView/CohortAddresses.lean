import LotusAdvise.Foundations.DictKeys
import LotusAdvise.Foundations.JsonCodes
import LotusAdvise.Foundations.StableSorts
import LotusAdvise.HouseView.CohortIdentity

/-! # Cohorts as addresses of their contents

Two requests lead to cohorts with one identifier when they cite the same references in the same way,
whatever the content hashes of these are. The identifier is the address of the contents exactly when
then the hashes are the same, too.
-/

namespace LotusAdvise.HouseView

section Statements

variable (services : Services) (request other : TacticalHouseViewCohortRequest)

def exclusionReasons (candidate : TacticalHouseViewCandidatePortfolio) : List String :=
  candidateExclusionReasons services candidate (eligiblePortfolioTypes services request)
    request.minExposureWeight

def PortfolioLE (a b : TacticalHouseViewCandidatePortfolio) : Prop := a.portfolioId ≤ b.portfolioId

instance (a b : TacticalHouseViewCandidatePortfolio) : Decidable (PortfolioLE a b) :=
  inferInstanceAs (Decidable (a.portfolioId ≤ b.portfolioId))

/-- The candidates that nothing excludes, by their portfolios. -/
def affectedCandidates : List TacticalHouseViewCandidatePortfolio :=
  (request.candidatePortfolios.filter fun candidate =>
    exclusionReasons services request candidate = []).insertionSort PortfolioLE

def excludedCandidates : List TacticalHouseViewCandidatePortfolio :=
  (request.candidatePortfolios.filter fun candidate =>
    exclusionReasons services request candidate ≠ []).insertionSort PortfolioLE

/-- The keys of the references, in the order of their first citation. -/
def citedKeys : List RefKey := Dict.firstOccurrences (refKeys (citations request))

/-- The last reference with a key. -/
def latestRef (refs : List TacticalHouseViewSourceRef) (key : RefKey) :
    Option TacticalHouseViewSourceRef :=
  refs.reverse.find? fun ref => ref.key = key

/-- The same keys are cited, and those that differ only in whether a version is missing or empty are
first cited in the same order. -/
def CitesAlike : Prop :=
  ∀ key, StableSorts.ties KeyLE (citedKeys request) key =
    StableSorts.ties KeyLE (citedKeys other) key

/-- The requests agree in all that their cohorts tell, apart from content hashes. -/
structure Alike : Prop where
  tacticalViewId : request.tacticalView.tacticalViewId = other.tacticalView.tacticalViewId
  tacticalViewVersion :
    request.tacticalView.tacticalViewVersion = other.tacticalView.tacticalViewVersion
  themeId : request.tacticalView.themeId = other.tacticalView.themeId
  asOfDate : request.tacticalView.asOfDate = other.tacticalView.asOfDate
  targetAction : request.tacticalView.targetAction = other.tacticalView.targetAction
  correlationId : request.correlationId = other.correlationId
  affected : (affectedCandidates services request).map (fun candidate =>
      (candidate.portfolioId, candidate.mandateId, candidateInclusionReasonCodes candidate,
        refKeys candidate.sourceRefs)) =
    (affectedCandidates services other).map fun candidate =>
      (candidate.portfolioId, candidate.mandateId, candidateInclusionReasonCodes candidate,
        refKeys candidate.sourceRefs)
  excluded : (excludedCandidates services request).map (fun candidate =>
      (candidate.portfolioId, exclusionReasons services request candidate,
        refKeys candidate.sourceRefs)) =
    (excludedCandidates services other).map fun candidate =>
      (candidate.portfolioId, exclusionReasons services other candidate,
        refKeys candidate.sourceRefs)
  cited : CitesAlike request other

/-- The references are cited with the same content hashes, one by one. -/
structure SameHashes : Prop where
  affected : (affectedCandidates services request).map
      TacticalHouseViewCandidatePortfolio.sourceRefs =
    (affectedCandidates services other).map TacticalHouseViewCandidatePortfolio.sourceRefs
  excluded : (excludedCandidates services request).map
      TacticalHouseViewCandidatePortfolio.sourceRefs =
    (excludedCandidates services other).map TacticalHouseViewCandidatePortfolio.sourceRefs
  latest : ∀ key, latestRef (citations request) key = latestRef (citations other) key

/-- No content hash of a cited reference is all that the requests differ in. -/
def PinsHashes : Prop := Alike services request other → SameHashes services request other

/-- What a cohort tells. -/
def TacticalHouseViewAffectedCohort.evidence (cohort : TacticalHouseViewAffectedCohort) :
    TacticalHouseViewAffectedCohort :=
  { cohort with cohortId := "", contentHash := "", generatedAt := "" }

/-- The cohorts agree in everything but their own identifiers, content hashes and times. -/
def SameEvidence (cohort other : TacticalHouseViewAffectedCohort) : Prop :=
  cohort.evidence = other.evidence

end Statements

section References

instance : IsTrans RefKey KeyLE := ⟨fun _ _ _ hab hbc => le_trans hab hbc⟩

instance : Std.Total KeyLE := ⟨fun a b => le_total (sortKey a) (sortKey b)⟩

variable {refs others : List TacticalHouseViewSourceRef}

theorem dedupeSourceRefs_eq (refs : List TacticalHouseViewSourceRef) :
    dedupeSourceRefs refs =
      ((Dict.firstOccurrences (refKeys refs)).insertionSort KeyLE).filterMap (latestRef refs) := by
  unfold dedupeSourceRefs
  dsimp only
  rw [Dict.keys_ofItems, List.map_map]
  refine List.filterMap_congr fun key _ => ?_
  rw [Dict.find?_ofItems, ← List.map_reverse, List.find?_map, Option.map_map]
  exact Option.map_id_apply

theorem key_of_latestRef {key : RefKey} {ref : TacticalHouseViewSourceRef}
    (h : latestRef refs key = some ref) : ref.key = key := by
  have hfound := List.find?_some h
  exact of_decide_eq_true hfound

theorem exists_latestRef {key : RefKey} (h : key ∈ refKeys refs) :
    ∃ ref, latestRef refs key = some ref := by
  obtain ⟨ref, href, rfl⟩ := List.mem_map.mp h
  refine Option.ne_none_iff_exists'.mp fun hnone => ?_
  exact List.find?_eq_none.mp hnone ref (List.mem_reverse.mpr href) (decide_eq_true rfl)

theorem refKeys_filterMap {keys : List RefKey} (h : ∀ key ∈ keys, key ∈ refKeys refs) :
    refKeys (keys.filterMap (latestRef refs)) = keys := by
  induction keys with
  | nil => rfl
  | cons key keys ih =>
    obtain ⟨ref, href⟩ := exists_latestRef (h key List.mem_cons_self)
    have hrest := ih fun other hother => h other (List.mem_cons_of_mem _ hother)
    rw [List.filterMap_cons_some href]
    unfold refKeys at hrest ⊢
    rw [List.map_cons, hrest, key_of_latestRef href]

theorem refKeys_dedupe (refs : List TacticalHouseViewSourceRef) :
    refKeys (dedupeSourceRefs refs) =
      (Dict.firstOccurrences (refKeys refs)).insertionSort KeyLE := by
  rw [dedupeSourceRefs_eq]
  refine refKeys_filterMap fun key hkey => ?_
  rwa [List.mem_insertionSort, Dict.mem_firstOccurrences] at hkey

/-- The references that are kept are the last ones. -/
theorem mem_dedupe {ref : TacticalHouseViewSourceRef} :
    ref ∈ dedupeSourceRefs refs ↔ latestRef refs ref.key = some ref := by
  rw [dedupeSourceRefs_eq, List.mem_filterMap]
  constructor
  · rintro ⟨key, -, href⟩
    rwa [key_of_latestRef href]
  · intro href
    refine ⟨ref.key, ?_, href⟩
    rw [List.mem_insertionSort, Dict.mem_firstOccurrences]
    exact List.mem_map_of_mem (List.mem_reverse.mp (List.mem_of_find?_eq_some href))

theorem latestRef_eq_of_dedupe_eq (h : dedupeSourceRefs refs = dedupeSourceRefs others)
    (key : RefKey) : latestRef refs key = latestRef others key := by
  refine Option.ext fun ref => ⟨fun href => ?_, fun href => ?_⟩
  · obtain rfl := key_of_latestRef href
    exact mem_dedupe.mp (h ▸ mem_dedupe.mpr href)
  · obtain rfl := key_of_latestRef href
    exact mem_dedupe.mp (h ▸ mem_dedupe.mpr href)

/-- References are the same after deduplication when their keys and the last of each are. -/
theorem dedupe_eq_iff : dedupeSourceRefs refs = dedupeSourceRefs others ↔
    refKeys (dedupeSourceRefs refs) = refKeys (dedupeSourceRefs others) ∧
      ∀ key, latestRef refs key = latestRef others key := by
  constructor
  · intro h
    exact ⟨congrArg refKeys h, latestRef_eq_of_dedupe_eq h⟩
  · rintro ⟨hkeys, hlatest⟩
    rw [refKeys_dedupe, refKeys_dedupe] at hkeys
    rw [dedupeSourceRefs_eq, dedupeSourceRefs_eq, hkeys]
    exact List.filterMap_congr fun key _ => hlatest key

end References

section Lists

variable {α β γ δ ε : Type*}

/-- Entries that are the same in two respects are the same in what these determine. -/
theorem map_eq_map_of_map_eq {f : α → γ} {f' : β → γ} {g : α → δ} {g' : β → δ} {h : α → ε}
    {h' : β → ε} (hh : ∀ a b, f a = f' b → g a = g' b → h a = h' b) {as : List α} {bs : List β}
    (hf : as.map f = bs.map f') (hg : as.map g = bs.map g') : as.map h = bs.map h' := by
  induction as generalizing bs with
  | nil =>
    cases bs with
    | nil => rfl
    | cons b bs => cases hf
  | cons a as ih =>
    cases bs with
    | nil => cases hf
    | cons b bs =>
      obtain ⟨hfa, hf⟩ := List.cons.inj hf
      obtain ⟨hga, hg⟩ := List.cons.inj hg
      rw [List.map_cons, List.map_cons, hh a b hfa hga, ih hf hg]

theorem filterMap_ite {p : α → Prop} [DecidablePred p] {f : α → β} (as : List α) :
    as.filterMap (fun a => if p a then some (f a) else none) = (as.filter p).map f := by
  induction as with
  | nil => rfl
  | cons a as ih =>
    rw [List.filterMap_cons, List.filter_cons]
    by_cases ha : p a
    · simp only [if_pos ha, decide_eq_true ha, if_true, List.map_cons, ih]
    · simp only [if_neg ha, decide_eq_false ha, ih]
      rfl

end Lists

section Drafts

variable {services : Services} {request other : TacticalHouseViewCohortRequest}
  {generatedAt generatedAt' : String}

theorem classified_affected : (classifyCandidates services request).1 =
    (request.candidatePortfolios.filter fun candidate =>
      exclusionReasons services request candidate = []).map affectedPortfolio := by
  unfold classifyCandidates
  dsimp only
  rw [List.filterMap_map, ← filterMap_ite]
  refine List.filterMap_congr fun candidate _ => ?_
  unfold Function.comp classifyCandidate exclusionReasons
  dsimp only
  by_cases hnone : candidateExclusionReasons services candidate
      (eligiblePortfolioTypes services request) request.minExposureWeight = []
  · rw [if_neg (not_not.mpr hnone), if_pos hnone]
  · rw [if_pos hnone, if_neg hnone]

theorem classified_excluded : (classifyCandidates services request).2 =
    (request.candidatePortfolios.filter fun candidate =>
      exclusionReasons services request candidate ≠ []).map fun candidate =>
        excludedPortfolio candidate (exclusionReasons services request candidate) := by
  unfold classifyCandidates
  dsimp only
  rw [List.filterMap_map, ← filterMap_ite]
  refine List.filterMap_congr fun candidate _ => ?_
  unfold Function.comp classifyCandidate exclusionReasons
  dsimp only
  split_ifs <;> rfl

theorem draft_affected : (draftCohort services request generatedAt).affectedPortfolios =
    (affectedCandidates services request).map affectedPortfolio := by
  unfold draftCohort
  dsimp only
  rw [classified_affected]
  exact (List.map_insertionSort PortfolioLE
    (fun a b : TacticalHouseViewAffectedPortfolio => a.portfolioId ≤ b.portfolioId) _ _
    fun _ _ _ _ => Iff.rfl).symm

theorem draft_excluded : (draftCohort services request generatedAt).excludedPortfolios =
    (excludedCandidates services request).map fun candidate =>
      excludedPortfolio candidate (exclusionReasons services request candidate) := by
  unfold draftCohort
  dsimp only
  rw [classified_excluded]
  exact (List.map_insertionSort PortfolioLE
    (fun a b : TacticalHouseViewExcludedPortfolio => a.portfolioId ≤ b.portfolioId) _ _
    fun _ _ _ _ => Iff.rfl).symm

/-- Every candidate is affected or excluded. -/
theorem length_candidates : request.candidatePortfolios.length =
    (affectedCandidates services request).length +
      (excludedCandidates services request).length := by
  unfold affectedCandidates excludedCandidates
  rw [List.length_insertionSort, List.length_insertionSort]
  simpa only [decide_not] using List.length_eq_length_filter_add
    (fun candidate => decide (exclusionReasons services request candidate = []))

theorem draft_supportability : (draftCohort services request generatedAt).supportability =
    supportability
      ((affectedCandidates services request).length + (excludedCandidates services request).length)
      (affectedCandidates services request).length
      (excludedCandidates services request).length := by
  unfold draftCohort
  dsimp only
  rw [classified_affected, classified_excluded, List.length_map, List.length_map,
    ← length_candidates]
  unfold affectedCandidates excludedCandidates
  rw [List.length_insertionSort, List.length_insertionSort]

/-- What the identifier of the cohort of a request is a hash of. -/
def requestIdentity (services : Services) (request : TacticalHouseViewCohortRequest) :
    CohortIdentity where
  tacticalViewId := request.tacticalView.tacticalViewId
  tacticalViewVersion := request.tacticalView.tacticalViewVersion
  themeId := request.tacticalView.themeId
  asOfDate := request.tacticalView.asOfDate
  targetAction := request.tacticalView.targetAction
  affected := (affectedCandidates services request).map fun candidate =>
    (candidate.portfolioId, candidate.mandateId, candidateInclusionReasonCodes candidate,
      refKeys candidate.sourceRefs)
  excluded := (excludedCandidates services request).map fun candidate =>
    (candidate.portfolioId, exclusionReasons services request candidate,
      refKeys candidate.sourceRefs)
  supportability := supportability
    ((affectedCandidates services request).length + (excludedCandidates services request).length)
    (affectedCandidates services request).length (excludedCandidates services request).length
  sourceRefs := (citedKeys request).insertionSort KeyLE
  correlationId := request.correlationId

theorem identity_draft (services : Services) (request : TacticalHouseViewCohortRequest)
    (generatedAt : String) : (draftCohort services request generatedAt).identity =
    requestIdentity services request := by
  unfold TacticalHouseViewAffectedCohort.identity requestIdentity
  rw [draft_affected, draft_excluded, draft_supportability, List.map_map, List.map_map]
  have hrefs : refKeys (draftCohort services request generatedAt).sourceRefs =
      (citedKeys request).insertionSort KeyLE := refKeys_dedupe (citations request)
  rw [hrefs]
  rfl

/-- Requests that agree apart from content hashes give cohorts with the same identity. -/
theorem requestIdentity_eq_iff :
    requestIdentity services request = requestIdentity services other ↔
      Alike services request other := by
  constructor
  · intro h
    exact {
      tacticalViewId := congrArg CohortIdentity.tacticalViewId h
      tacticalViewVersion := congrArg CohortIdentity.tacticalViewVersion h
      themeId := congrArg CohortIdentity.themeId h
      asOfDate := congrArg CohortIdentity.asOfDate h
      targetAction := congrArg CohortIdentity.targetAction h
      correlationId := congrArg CohortIdentity.correlationId h
      affected := congrArg CohortIdentity.affected h
      excluded := congrArg CohortIdentity.excluded h
      cited := StableSorts.insertionSort_eq_iff.mp (congrArg CohortIdentity.sourceRefs h) }
  · intro h
    have haffected := congrArg List.length h.affected
    have hexcluded := congrArg List.length h.excluded
    rw [List.length_map, List.length_map] at haffected hexcluded
    unfold requestIdentity
    rw [h.tacticalViewId, h.tacticalViewVersion, h.themeId, h.asOfDate, h.targetAction,
      h.correlationId, h.affected, h.excluded, haffected, hexcluded,
      StableSorts.insertionSort_eq_iff.mpr h.cited]

/-- A cohort that tells the same has the same identity. -/
theorem SameEvidence.alike (h : SameEvidence (draftCohort services request generatedAt)
    (draftCohort services other generatedAt')) : Alike services request other := by
  have hevidence : (draftCohort services request generatedAt).evidence =
      (draftCohort services other generatedAt').evidence := h
  have hidentity := congrArg TacticalHouseViewAffectedCohort.identity hevidence
  rw [← requestIdentity_eq_iff, ← identity_draft services request generatedAt,
    ← identity_draft services other generatedAt']
  exact hidentity

theorem SameEvidence.sameHashes (h : SameEvidence (draftCohort services request generatedAt)
    (draftCohort services other generatedAt')) : SameHashes services request other := by
  have haffected := congrArg TacticalHouseViewAffectedCohort.affectedPortfolios h
  have hexcluded := congrArg TacticalHouseViewAffectedCohort.excludedPortfolios h
  refine ⟨?_, ?_, latestRef_eq_of_dedupe_eq
    (congrArg TacticalHouseViewAffectedCohort.sourceRefs h)⟩
  · have hrefs := congrArg (List.map TacticalHouseViewAffectedPortfolio.sourceRefs)
      (draft_affected.symm.trans (haffected.trans draft_affected))
    rwa [List.map_map, List.map_map] at hrefs
  · have hrefs := congrArg (List.map TacticalHouseViewExcludedPortfolio.sourceRefs)
      (draft_excluded.symm.trans (hexcluded.trans draft_excluded))
    rwa [List.map_map, List.map_map] at hrefs

theorem sameEvidence_of_sameHashes (halike : Alike services request other)
    (hhashes : SameHashes services request other) :
    SameEvidence (draftCohort services request generatedAt)
      (draftCohort services other generatedAt') := by
  have hidentity := requestIdentity_eq_iff.mpr halike
  have haffected : (draftCohort services request generatedAt).affectedPortfolios =
      (draftCohort services other generatedAt').affectedPortfolios := by
    rw [draft_affected, draft_affected]
    refine map_eq_map_of_map_eq (fun a b hab hrefs => ?_) halike.affected hhashes.affected
    unfold affectedPortfolio
    rw [(Prod.mk.inj hab).1, (Prod.mk.inj (Prod.mk.inj hab).2).1,
      (Prod.mk.inj (Prod.mk.inj (Prod.mk.inj hab).2).2).1, hrefs]
  have hexcluded : (draftCohort services request generatedAt).excludedPortfolios =
      (draftCohort services other generatedAt').excludedPortfolios := by
    rw [draft_excluded, draft_excluded]
    refine map_eq_map_of_map_eq (fun a b hab hrefs => ?_) halike.excluded hhashes.excluded
    unfold excludedPortfolio
    rw [(Prod.mk.inj hab).1, (Prod.mk.inj (Prod.mk.inj hab).2).1, hrefs]
  have hrefs : (draftCohort services request generatedAt).sourceRefs =
      (draftCohort services other generatedAt').sourceRefs := by
    refine dedupe_eq_iff.mpr ⟨?_, hhashes.latest⟩
    rw [refKeys_dedupe, refKeys_dedupe]
    exact congrArg CohortIdentity.sourceRefs hidentity
  have hsupportability : (draftCohort services request generatedAt).supportability =
      (draftCohort services other generatedAt').supportability := by
    rw [draft_supportability, draft_supportability]
    exact congrArg CohortIdentity.supportability hidentity
  unfold SameEvidence TacticalHouseViewAffectedCohort.evidence
  rw [haffected, hexcluded, hrefs, hsupportability]
  unfold draftCohort
  dsimp only
  rw [halike.tacticalViewId, halike.tacticalViewVersion, halike.themeId, halike.asOfDate,
    halike.targetAction, halike.correlationId]

/-- A cohort tells the same whether or not it has its identity. -/
theorem sameEvidence_build_iff :
    SameEvidence (buildTacticalHouseViewAffectedCohort services request generatedAt)
        (buildTacticalHouseViewAffectedCohort services other generatedAt') ↔
      Alike services request other ∧ SameHashes services request other := by
  change SameEvidence (draftCohort services request generatedAt)
    (draftCohort services other generatedAt') ↔ _
  exact ⟨fun h => ⟨h.alike, h.sameHashes⟩, fun h => sameEvidence_of_sameHashes h.1 h.2⟩

theorem build_cohortId_eq_iff (hinjective : Function.Injective services.sha256) :
    (buildTacticalHouseViewAffectedCohort services request generatedAt).cohortId =
        (buildTacticalHouseViewAffectedCohort services other generatedAt').cohortId ↔
      Alike services request other := by
  unfold buildTacticalHouseViewAffectedCohort
  rw [cohortId_eq_iff hinjective, identity_draft, identity_draft, requestIdentity_eq_iff]

end Drafts

section Permutations

variable {services : Services} {request : TacticalHouseViewCohortRequest}
  {candidates : List TacticalHouseViewCandidatePortfolio}

instance : IsTrans TacticalHouseViewCandidatePortfolio PortfolioLE :=
  ⟨fun _ _ _ hab hbc => le_trans hab hbc⟩

instance : Std.Total PortfolioLE := ⟨fun a b => le_total a.portfolioId b.portfolioId⟩

/-- Candidates with distinct portfolios are sorted in one way. -/
theorem sorted_filter_eq_of_perm {others : List TacticalHouseViewCandidatePortfolio}
    (hperm : candidates.Perm others)
    (hdistinct : (others.map TacticalHouseViewCandidatePortfolio.portfolioId).Nodup)
    (p : TacticalHouseViewCandidatePortfolio → Bool) :
    (candidates.filter p).insertionSort PortfolioLE =
      (others.filter p).insertionSort PortfolioLE := by
  refine List.Perm.eq_of_pairwise (fun a b ha hb hab hba => ?_)
    (List.pairwise_insertionSort PortfolioLE _) (List.pairwise_insertionSort PortfolioLE _)
    ((List.perm_insertionSort _ _).trans ((hperm.filter p).trans
      (List.perm_insertionSort _ _).symm))
  have ha' := hperm.mem_iff.mp (List.mem_of_mem_filter ((List.mem_insertionSort _).mp ha))
  have hb' := List.mem_of_mem_filter ((List.mem_insertionSort _).mp hb)
  exact List.inj_on_of_nodup_map hdistinct ha' hb' (le_antisymm hab hba)

/-- Permuted candidates are cited alike when the order of citations allows it. -/
theorem alike_permuted_iff (hperm : candidates.Perm request.candidatePortfolios)
    (hdistinct : (request.candidatePortfolios.map
      TacticalHouseViewCandidatePortfolio.portfolioId).Nodup) :
    Alike services { request with candidatePortfolios := candidates } request ↔
      CitesAlike { request with candidatePortfolios := candidates } request := by
  refine ⟨Alike.cited, fun h => ⟨rfl, rfl, rfl, rfl, rfl, rfl, ?_, ?_, h⟩⟩
  · exact congrArg _ (sorted_filter_eq_of_perm hperm hdistinct _)
  · exact congrArg _ (sorted_filter_eq_of_perm hperm hdistinct _)

end Permutations

/-- The identifier of a cohort is the address of its contents exactly when it pins the content
hashes of the references in it. It does not depend on the order of the candidates exactly when this
is not told by the keys either, and a recorded cohort is only replaced by one that tells the same
exactly when the hashes are pinned. -/
theorem cohort_ids_address_contents_iff (services : Services)
    (hinjective : Function.Injective services.sha256) :
    (∀ request other generatedAt generatedAt',
      (((buildTacticalHouseViewAffectedCohort services request generatedAt).cohortId =
          (buildTacticalHouseViewAffectedCohort services other generatedAt').cohortId ↔
        SameEvidence (buildTacticalHouseViewAffectedCohort services request generatedAt)
          (buildTacticalHouseViewAffectedCohort services other generatedAt')) ↔
        PinsHashes services request other)) ∧
    (∀ (request : TacticalHouseViewCohortRequest)
      (candidates : List TacticalHouseViewCandidatePortfolio) (generatedAt generatedAt' : String),
      candidates.Perm request.candidatePortfolios →
      (request.candidatePortfolios.map TacticalHouseViewCandidatePortfolio.portfolioId).Nodup →
      ((buildTacticalHouseViewAffectedCohort services
          { request with candidatePortfolios := candidates } generatedAt).cohortId =
          (buildTacticalHouseViewAffectedCohort services request generatedAt').cohortId ↔
        CitesAlike { request with candidatePortfolios := candidates } request)) ∧
    ∀ (store : CohortStore) request other generatedAt generatedAt',
      ((∃ recorded, Dict.get? (recordTacticalHouseViewAffectedCohort
          (recordTacticalHouseViewAffectedCohort store
            (buildTacticalHouseViewAffectedCohort services request generatedAt))
          (buildTacticalHouseViewAffectedCohort services other generatedAt'))
          (buildTacticalHouseViewAffectedCohort services request generatedAt).cohortId =
          some recorded ∧
        SameEvidence (buildTacticalHouseViewAffectedCohort services request generatedAt)
          recorded) ↔
        PinsHashes services request other) := by
  refine ⟨fun request other generatedAt generatedAt' => ?_,
    fun request candidates generatedAt generatedAt' hperm hdistinct => ?_,
    fun store request other generatedAt generatedAt' => ?_⟩
  · rw [build_cohortId_eq_iff hinjective, sameEvidence_build_iff]
    exact ⟨fun h halike => (h.mp halike).2, fun h =>
      ⟨fun halike => ⟨halike, h halike⟩, And.left⟩⟩
  · rw [build_cohortId_eq_iff hinjective, alike_permuted_iff hperm hdistinct]
  · unfold recordTacticalHouseViewAffectedCohort
    rw [Dict.get?_set, Dict.get?_set_self]
    split_ifs with hsame
    · have halike := (build_cohortId_eq_iff hinjective).mp hsame.symm
      constructor
      · rintro ⟨recorded, hrecorded, hevidence⟩ -
        cases hrecorded
        exact (sameEvidence_build_iff.mp hevidence).2
      · intro hpins
        exact ⟨_, rfl, sameEvidence_build_iff.mpr ⟨halike, hpins halike⟩⟩
    · constructor
      · intro _ halike
        exact absurd ((build_cohortId_eq_iff hinjective).mpr halike).symm hsame
      · intro _
        exact ⟨_, rfl, rfl⟩

namespace CohortSample

/-- The digest is an unambiguous code. -/
def services : Services where
  sha256 json := String.ofList json.code
  upper := Text.upper

theorem sha256_injective : Function.Injective services.sha256 :=
  fun _ _ h => Json.code_injective (String.ofList_injective h)

def viewRef : TacticalHouseViewSourceRef where
  sourceSystem := "lotus-advise"
  sourceType := "TACTICAL_HOUSE_VIEW"
  sourceId := "thv_2026_05_asia_duration"
  sourceVersion := some "2026.05"

def holdings (sourceVersion contentHash : Option String) : TacticalHouseViewSourceRef where
  sourceSystem := "lotus-core"
  sourceType := "HoldingsAsOf"
  sourceId := "holdings:2026-05-14"
  sourceVersion
  contentHash

def candidate (portfolioId : String) (ref : TacticalHouseViewSourceRef) :
    TacticalHouseViewCandidatePortfolio where
  portfolioId
  portfolioType := "DISCRETIONARY"
  discretionaryMandate := true
  alignmentSignal := .overweight
  sourceRefs := [ref]

def request (candidatePortfolios : List TacticalHouseViewCandidatePortfolio) :
    TacticalHouseViewCohortRequest where
  tacticalView :=
    { tacticalViewId := "thv_2026_05_asia_duration"
      tacticalViewVersion := "2026.05"
      themeId := "asia_duration_reduce"
      asOfDate := "2026-05-14"
      targetAction := .reduce
      sourceRefs := [viewRef] }
  candidatePortfolios
  correlationId := "corr-thv-001"

def original : TacticalHouseViewCohortRequest :=
  request [candidate "PB_001" (holdings (some "v1") (some "sha256:holdings"))]

/-- The holdings are other ones. -/
def revised : TacticalHouseViewCohortRequest :=
  request [candidate "PB_001" (holdings (some "v1") (some "sha256:revised"))]

def generatedAt : String := "2026-05-14T08:00:00+00:00"

/-- Two candidates with references that differ in whether a version is missing or empty. -/
def candidates : List TacticalHouseViewCandidatePortfolio :=
  [candidate "PB_001" (holdings none none), candidate "PB_002" (holdings (some "") none)]

theorem affected_original : affectedCandidates services original =
    [candidate "PB_001" (holdings (some "v1") (some "sha256:holdings"))] := by
  decide

theorem affected_revised : affectedCandidates services revised =
    [candidate "PB_001" (holdings (some "v1") (some "sha256:revised"))] := by
  decide

theorem excluded_original : excludedCandidates services original = [] := by
  decide

theorem excluded_revised : excludedCandidates services revised = [] := by
  decide

theorem alike : Alike services original revised := by
  have hcited : citedKeys original = citedKeys revised := by
    decide +kernel
  refine ⟨rfl, rfl, rfl, rfl, rfl, rfl, ?_, ?_, fun key => ?_⟩
  · rw [affected_original, affected_revised]
    rfl
  · rw [excluded_original, excluded_revised]
    rfl
  · rw [hcited]

theorem not_sameHashes : ¬ SameHashes services original revised := by
  intro h
  have haffected := h.affected
  rw [affected_original, affected_revised] at haffected
  exact absurd haffected (by decide)

theorem not_citesAlike :
    ¬ CitesAlike { request candidates with candidatePortfolios := candidates.reverse }
      (request candidates) :=
  fun h => absurd (h (holdings none none).key) (by decide +kernel)

theorem portfolios_nodup : ((request candidates).candidatePortfolios.map
    TacticalHouseViewCandidatePortfolio.portfolioId).Nodup := by
  decide

end CohortSample

open CohortSample in
theorem cohort_ids_address_contents_iff_holdings :
    (((buildTacticalHouseViewAffectedCohort services original generatedAt).cohortId =
        (buildTacticalHouseViewAffectedCohort services revised generatedAt).cohortId ↔
      SameEvidence (buildTacticalHouseViewAffectedCohort services original generatedAt)
        (buildTacticalHouseViewAffectedCohort services revised generatedAt)) ↔
      PinsHashes services original revised) ∧
    ((buildTacticalHouseViewAffectedCohort services
        { request candidates with candidatePortfolios := candidates.reverse }
        generatedAt).cohortId =
      (buildTacticalHouseViewAffectedCohort services (request candidates) generatedAt).cohortId ↔
      CitesAlike { request candidates with candidatePortfolios := candidates.reverse }
        (request candidates)) :=
  ⟨(cohort_ids_address_contents_iff services sha256_injective).1 original revised _ _,
    (cohort_ids_address_contents_iff services sha256_injective).2.1 (request candidates)
      candidates.reverse _ _ (List.reverse_perm _) portfolios_nodup⟩

open CohortSample in
/-- Cohorts of different holdings have one identifier, and the same candidates in another order have
different ones. -/
theorem cohort_id_omits_content_hashes :
    (buildTacticalHouseViewAffectedCohort services original generatedAt).cohortId =
      (buildTacticalHouseViewAffectedCohort services revised generatedAt).cohortId ∧
    ¬ SameEvidence (buildTacticalHouseViewAffectedCohort services original generatedAt)
      (buildTacticalHouseViewAffectedCohort services revised generatedAt) ∧
    (buildTacticalHouseViewAffectedCohort services
      { request candidates with candidatePortfolios := candidates.reverse }
      generatedAt).cohortId ≠
      (buildTacticalHouseViewAffectedCohort services (request candidates)
        generatedAt).cohortId := by
  refine ⟨(build_cohortId_eq_iff sha256_injective).mpr alike, fun h => ?_, fun h => ?_⟩
  · exact not_sameHashes (sameEvidence_build_iff.mp h).2
  · exact not_citesAlike ((build_cohortId_eq_iff sha256_injective).mp h).cited

end LotusAdvise.HouseView

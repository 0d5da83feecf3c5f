import LotusAdvise.Advisory.Suitability

/-! # Drift from a reference model

The weights of a portfolio are held against the target weights of a reference model, bucket by
bucket. A bucket improves when it comes closer to its target.
-/

namespace LotusAdvise.Advisory

structure ReferenceAssetClassTarget where
  assetClass : String
  weight : ℚ
deriving DecidableEq

structure ReferenceInstrumentTarget where
  instrumentId : String
  weight : ℚ
deriving DecidableEq

structure ReferenceModel where
  modelId : String
  asOf : String
  baseCurrency : String
  assetClassTargets : List ReferenceAssetClassTarget := []
  instrumentTargets : List ReferenceInstrumentTarget := []
deriving DecidableEq

structure DriftBucketDetail where
  bucket : String
  modelWeight : ℚ
  portfolioWeightBefore : ℚ
  portfolioWeightAfter : ℚ
  driftBefore : ℚ
  driftAfter : ℚ
  absDriftBefore : ℚ
  absDriftAfter : ℚ
  improvement : ℚ
deriving DecidableEq

structure DriftDimensionAnalysis where
  driftTotalBefore : ℚ
  driftTotalAfter : ℚ
  driftTotalDelta : ℚ
  topContributorsBefore : List DriftBucketDetail
  buckets : List DriftBucketDetail
deriving DecidableEq

structure DriftHighlightEntry where
  bucket : String
  improvement : ℚ
deriving DecidableEq

structure DriftUnmodeledExposure where
  bucket : String
  portfolioWeightBefore : ℚ
  portfolioWeightAfter : ℚ
  maxPortfolioWeight : ℚ
deriving DecidableEq

structure DriftHighlights where
  largestImprovements : List DriftHighlightEntry
  largestDeteriorations : List DriftHighlightEntry
  unmodeledExposures : List DriftUnmodeledExposure
deriving DecidableEq

structure DriftReferenceModelSummary where
  modelId : String
  asOf : String
  baseCurrency : String
deriving DecidableEq

structure DriftAnalysis where
  referenceModel : DriftReferenceModelSummary
  assetClass : DriftDimensionAnalysis
  instrument : Option DriftDimensionAnalysis
  highlights : DriftHighlights
deriving DecidableEq

section Dimensions

variable (beforeWeights afterWeights modelWeights : Dict String ℚ)

def toWeightMap (allocations : List AllocationMetric) : Dict String ℚ :=
  Dict.ofItems (allocations.map fun allocation => (allocation.key, allocation.weight))

def weightOf (weights : Dict String ℚ) (bucket : String) : ℚ := (Dict.get? weights bucket).getD 0

def driftBucketDetail (bucket : String) : DriftBucketDetail :=
  let driftBefore := weightOf beforeWeights bucket - weightOf modelWeights bucket
  let driftAfter := weightOf afterWeights bucket - weightOf modelWeights bucket
  { bucket
    modelWeight := weightOf modelWeights bucket
    portfolioWeightBefore := weightOf beforeWeights bucket
    portfolioWeightAfter := weightOf afterWeights bucket
    driftBefore
    driftAfter
    absDriftBefore := |driftBefore|
    absDriftAfter := |driftAfter|
    improvement := |driftBefore| - |driftAfter| }

/-- The buckets with the lowest ranks, and by name among those with the same rank. -/
def firstByRank (rank : DriftBucketDetail → ℚ) (topLimit : ℕ) (details : List DriftBucketDetail) :
    List DriftBucketDetail :=
  (details.insertionSort fun a b =>
    toLex (rank a, a.bucket) ≤ toLex (rank b, b.bucket)).take topLimit

/-- `_build_dimension`. -/
def buildDimension (buckets : List String) (topLimit : ℕ) : DriftDimensionAnalysis :=
  let details := (distinctSorted buckets).map
    (driftBucketDetail beforeWeights afterWeights modelWeights)
  let driftTotalBefore := 1 / 2 * (details.map DriftBucketDetail.absDriftBefore).sum
  let driftTotalAfter := 1 / 2 * (details.map DriftBucketDetail.absDriftAfter).sum
  { driftTotalBefore
    driftTotalAfter
    driftTotalDelta := driftTotalAfter - driftTotalBefore
    topContributorsBefore := firstByRank (fun detail => -detail.absDriftBefore) topLimit details
    buckets := details }

end Dimensions

section Highlights

variable (details : List DriftBucketDetail) (topLimit : ℕ)

def largestImprovements : List DriftBucketDetail :=
  firstByRank (fun detail => -detail.improvement) topLimit
    (details.filter fun detail => 0 < detail.improvement)

def largestDeteriorations : List DriftBucketDetail :=
  firstByRank DriftBucketDetail.improvement topLimit
    (details.filter fun detail => detail.improvement < 0)

def maxPortfolioWeight (detail : DriftBucketDetail) : ℚ :=
  max detail.portfolioWeightBefore detail.portfolioWeightAfter

def largestUnmodeledExposures (unmodeledThreshold : ℚ) : List DriftBucketDetail :=
  firstByRank (fun detail => -maxPortfolioWeight detail) topLimit
    (details.filter fun detail =>
      detail.modelWeight = 0 ∧ unmodeledThreshold ≤ maxPortfolioWeight detail)

def highlightEntries : List DriftHighlightEntry :=
  details.map fun detail => { bucket := detail.bucket, improvement := detail.improvement }

def unmodeledExposureEntries : List DriftUnmodeledExposure :=
  details.map fun detail =>
    { bucket := detail.bucket
      portfolioWeightBefore := detail.portfolioWeightBefore
      portfolioWeightAfter := detail.portfolioWeightAfter
      maxPortfolioWeight := maxPortfolioWeight detail }

def buildHighlights (unmodeledThreshold : ℚ) : DriftHighlights where
  largestImprovements := highlightEntries (largestImprovements details topLimit)
  largestDeteriorations := highlightEntries (largestDeteriorations details topLimit)
  unmodeledExposures :=
    unmodeledExposureEntries (largestUnmodeledExposures details topLimit unmodeledThreshold)

end Highlights

/-- The options of the decision support. -/
structure DecisionOptions where
  enableDriftAnalytics : Bool := true
  enableSuitabilityScanner : Bool := true
  enableWorkflowGates : Bool := true
  enableInstrumentDrift : Bool := true
  driftTopContributorsLimit : ℕ := 5
  driftUnmodeledExposureThreshold : ℚ := 1 / 100
deriving DecidableEq

section Analysis

variable (before after : SimulatedState) (referenceModel : ReferenceModel)
  (tradedInstruments : List String) (options : DecisionOptions)

def assetClassDimension : DriftDimensionAnalysis :=
  let beforeWeights := toWeightMap before.allocationByAssetClass
  let afterWeights := toWeightMap after.allocationByAssetClass
  let modelWeights := Dict.ofItems (referenceModel.assetClassTargets.map fun target =>
    (target.assetClass, target.weight))
  buildDimension beforeWeights afterWeights modelWeights
    ((beforeWeights ++ afterWeights ++ modelWeights).map Prod.fst ++ ["CASH"])
    options.driftTopContributorsLimit

def instrumentDimension : DriftDimensionAnalysis :=
  let beforeWeights := toWeightMap before.allocationByInstrument
  let afterWeights := toWeightMap after.allocationByInstrument
  let modelWeights := Dict.ofItems (referenceModel.instrumentTargets.map fun target =>
    (target.instrumentId, target.weight))
  buildDimension beforeWeights afterWeights modelWeights
    ((beforeWeights ++ afterWeights ++ modelWeights).map Prod.fst ++ tradedInstruments)
    options.driftTopContributorsLimit

def computeDriftAnalysis : DriftAnalysis :=
  let assetClass := assetClassDimension before after referenceModel options
  let instrument :=
    if options.enableInstrumentDrift ∧ referenceModel.instrumentTargets ≠ [] then
      some (instrumentDimension before after referenceModel tradedInstruments options)
    else none
  { referenceModel := {
      modelId := referenceModel.modelId
      asOf := referenceModel.asOf
      baseCurrency := referenceModel.baseCurrency }
    assetClass
    instrument
    highlights := buildHighlights (instrument.getD assetClass).buckets
      options.driftTopContributorsLimit options.driftUnmodeledExposureThreshold }

end Analysis

section Totals

variable {beforeWeights afterWeights modelWeights : Dict String ℚ} {buckets : List String}
  {topLimit : ℕ} {before after : SimulatedState} {referenceModel : ReferenceModel}
  {tradedInstruments : List String} {options : DecisionOptions} {detail : DriftBucketDetail}

theorem mem_of_firstByRank {rank : DriftBucketDetail → ℚ} {details : List DriftBucketDetail}
    (h : detail ∈ firstByRank rank topLimit details) : detail ∈ details :=
  (List.mem_insertionSort _).mp (List.mem_of_mem_take h)

/-- What the buckets improve together is twice what the drift of their dimension falls. -/
theorem sum_improvement : (((buildDimension beforeWeights afterWeights modelWeights buckets
      topLimit).buckets).map DriftBucketDetail.improvement).sum =
    -2 * (buildDimension beforeWeights afterWeights modelWeights buckets
      topLimit).driftTotalDelta := by
  have hsum : ∀ details : List DriftBucketDetail,
      (∀ detail ∈ details, detail.improvement = detail.absDriftBefore - detail.absDriftAfter) →
      (details.map DriftBucketDetail.improvement).sum =
        (details.map DriftBucketDetail.absDriftBefore).sum -
          (details.map DriftBucketDetail.absDriftAfter).sum := by
    intro details
    induction details with
    | nil => simp
    | cons detail details ih =>
      intro h
      rw [List.forall_mem_cons] at h
      rw [List.map_cons, List.map_cons, List.map_cons, List.sum_cons, List.sum_cons, List.sum_cons,
        ih h.2, h.1]
      ring
  dsimp only [buildDimension]
  rw [hsum]
  · ring
  · intro detail hdetail
    obtain ⟨bucket, -, rfl⟩ := List.mem_map.mp hdetail
    rfl

/-- A highlighted bucket is a bucket of the analysis: no bucket is both an improvement and a
deterioration. -/
theorem largestImprovements_disjoint {details : List DriftBucketDetail} :
    ∀ detail ∈ largestImprovements details topLimit,
      detail ∈ details ∧ detail ∉ largestDeteriorations details topLimit := by
  intro detail hdetail
  have himproved := List.mem_filter.mp (mem_of_firstByRank hdetail)
  refine ⟨himproved.1, fun hworse => ?_⟩
  have hworsened := List.mem_filter.mp (mem_of_firstByRank hworse)
  exact lt_asymm (of_decide_eq_true himproved.2) (of_decide_eq_true hworsened.2)

end Totals

end LotusAdvise.Advisory

import LotusAdvise.Advisory.Allocations
import LotusAdvise.Advisory.Drift
import LotusAdvise.Foundations.HalfDistance

/-! # Drift as a distance

The total drift of a dimension is half of the distance between the weights of a portfolio and those
of a reference model. Several rows of one bucket count as their last one, so that a drift is zero
for the portfolios at their targets alone exactly when no weight is lost in the rows before.
-/

namespace LotusAdvise.Advisory

open Weights (lastWeight earlierWeight)

section Dimensions

variable (dimension : DriftDimensionAnalysis) (before after model : List (String × ℚ))

/-- The drifts of a dimension are distances of weights, summed over all rows of a bucket. -/
structure IsDistance : Prop where
  beforeRange : 0 ≤ dimension.driftTotalBefore ∧ dimension.driftTotalBefore ≤ 1
  afterRange : 0 ≤ dimension.driftTotalAfter ∧ dimension.driftTotalAfter ≤ 1
  beforeZero : dimension.driftTotalBefore = 0 ↔
    ∀ bucket, Weights.weightOf before bucket = Weights.weightOf model bucket
  afterZero : dimension.driftTotalAfter = 0 ↔
    ∀ bucket, Weights.weightOf after bucket = Weights.weightOf model bucket
  delta : dimension.driftTotalDelta =
    -(1 / 2) * (dimension.buckets.map DriftBucketDetail.improvement).sum

/-- The rows before the last ones of their buckets weigh the same in the portfolio and in the model,
or the two agree neither in their last rows nor in all. -/
def OverwrittenAlike (portfolio model : List (String × ℚ)) : Prop :=
  (∀ bucket, earlierWeight portfolio bucket = earlierWeight model bucket) ∨
    (¬ ∀ bucket, lastWeight portfolio bucket = lastWeight model bucket) ∧
      ¬ ∀ bucket, Weights.weightOf portfolio bucket = Weights.weightOf model bucket

variable {dimension before after model}

theorem weightOf_ofItems (rows : List (String × ℚ)) (bucket : String) :
    weightOf (Dict.ofItems rows) bucket = lastWeight rows bucket := by
  rw [weightOf, Dict.get?_ofItems]
  rfl

theorem nodup_distinctSorted (texts : List String) : (distinctSorted texts).Nodup :=
  (List.perm_insertionSort _ _).nodup_iff.mpr (List.nodup_dedup texts)

theorem mem_distinctSorted {texts : List String} {text : String} :
    text ∈ distinctSorted texts ↔ text ∈ texts := by
  rw [distinctSorted, List.mem_insertionSort, List.mem_dedup]

section Totals

variable {beforeWeights afterWeights modelWeights : Dict String ℚ} {buckets : List String}
  {topLimit : ℕ}

theorem sum_distinctSorted (f : String → ℚ) :
    ((distinctSorted buckets).map f).sum = ∑ bucket ∈ buckets.toFinset, f bucket := by
  have hset : buckets.toFinset = (distinctSorted buckets).toFinset := by
    ext bucket
    rw [List.mem_toFinset, List.mem_toFinset, mem_distinctSorted]
  rw [hset, List.sum_toFinset f (nodup_distinctSorted buckets)]

theorem driftTotalBefore_eq : (buildDimension beforeWeights afterWeights modelWeights buckets
      topLimit).driftTotalBefore =
    halfDistance buckets.toFinset (weightOf beforeWeights) (weightOf modelWeights) := by
  dsimp only [buildDimension]
  rw [List.map_map, sum_distinctSorted]
  rfl

theorem driftTotalAfter_eq : (buildDimension beforeWeights afterWeights modelWeights buckets
      topLimit).driftTotalAfter =
    halfDistance buckets.toFinset (weightOf afterWeights) (weightOf modelWeights) := by
  dsimp only [buildDimension]
  rw [List.map_map, sum_distinctSorted]
  rfl

end Totals

/-- Rows that weigh at most one together. -/
structure WeighAtMostOne (rows : List (String × ℚ)) : Prop where
  nonneg : ∀ row ∈ rows, 0 ≤ row.2
  sum : (rows.map Prod.snd).sum ≤ 1

section Rows

variable {rows : List (String × ℚ)} {buckets : List String}

theorem lastWeight_of_notMem {bucket : String} (h : bucket ∉ rows.map Prod.fst) :
    lastWeight rows bucket = 0 := by
  have hnone : rows.filter (fun row => row.1 = bucket) = [] := by
    rw [List.filter_eq_nil_iff]
    intro row hrow heq
    exact h (List.mem_map.mpr ⟨row, hrow, of_decide_eq_true heq⟩)
  rw [lastWeight, hnone]
  rfl

/-- The half distance of the last rows over the buckets, which are those of the rows at least. -/
theorem halfDistance_rows (hbefore : WeighAtMostOne before) (hmodel : WeighAtMostOne model)
    (hbeforeBuckets : before.map Prod.fst ⊆ buckets) (hmodelBuckets : model.map Prod.fst ⊆ buckets) :
    (0 ≤ halfDistance buckets.toFinset (lastWeight before) (lastWeight model) ∧
      halfDistance buckets.toFinset (lastWeight before) (lastWeight model) ≤ 1) ∧
    (halfDistance buckets.toFinset (lastWeight before) (lastWeight model) = 0 ↔
      ∀ bucket, lastWeight before bucket = lastWeight model bucket) := by
  refine ⟨⟨halfDistance_nonneg, ?_⟩, ?_⟩
  · apply halfDistance_le_one
    · exact Weights.lastWeight_nonneg hbefore.nonneg
    · exact Weights.lastWeight_nonneg hmodel.nonneg
    · exact (Weights.sum_lastWeight_le hbefore.nonneg _).trans hbefore.sum
    · exact (Weights.sum_lastWeight_le hmodel.nonneg _).trans hmodel.sum
  · rw [halfDistance_eq_zero]
    constructor
    · intro h bucket
      by_cases hbucket : bucket ∈ buckets
      · exact h bucket (List.mem_toFinset.mpr hbucket)
      · rw [lastWeight_of_notMem fun hmem => hbucket (hbeforeBuckets hmem),
          lastWeight_of_notMem fun hmem => hbucket (hmodelBuckets hmem)]
    · exact fun h bucket _ => h bucket

/-- A dimension is a distance exactly when its rows are overwritten alike. -/
theorem isDistance_buildDimension (topLimit : ℕ) (hbefore : WeighAtMostOne before)
    (hafter : WeighAtMostOne after) (hmodel : WeighAtMostOne model)
    (hbeforeBuckets : before.map Prod.fst ⊆ buckets) (hafterBuckets : after.map Prod.fst ⊆ buckets)
    (hmodelBuckets : model.map Prod.fst ⊆ buckets) :
    IsDistance (buildDimension (Dict.ofItems before) (Dict.ofItems after) (Dict.ofItems model) buckets
        topLimit) before after model ↔
      OverwrittenAlike before model ∧ OverwrittenAlike after model := by
  obtain ⟨hbeforeRange, hbeforeZero⟩ :=
    halfDistance_rows hbefore hmodel hbeforeBuckets hmodelBuckets
  obtain ⟨hafterRange, hafterZero⟩ := halfDistance_rows hafter hmodel hafterBuckets hmodelBuckets
  have hweights : ∀ rows : List (String × ℚ), weightOf (Dict.ofItems rows) = lastWeight rows :=
    fun rows => funext (weightOf_ofItems rows)
  constructor
  · intro h
    have hbeforeDrift := h.beforeZero
    have hafterDrift := h.afterZero
    rw [driftTotalBefore_eq, hweights, hweights] at hbeforeDrift
    rw [driftTotalAfter_eq, hweights, hweights] at hafterDrift
    exact ⟨Weights.lastWeight_agree_iff.mp (hbeforeZero.symm.trans hbeforeDrift),
      Weights.lastWeight_agree_iff.mp (hafterZero.symm.trans hafterDrift)⟩
  · rintro ⟨hbeforeAlike, hafterAlike⟩
    constructor
    · rw [driftTotalBefore_eq, hweights, hweights]
      exact hbeforeRange
    · rw [driftTotalAfter_eq, hweights, hweights]
      exact hafterRange
    · rw [driftTotalBefore_eq, hweights, hweights]
      exact hbeforeZero.trans (Weights.lastWeight_agree_iff.mpr hbeforeAlike)
    · rw [driftTotalAfter_eq, hweights, hweights]
      exact hafterZero.trans (Weights.lastWeight_agree_iff.mpr hafterAlike)
    · rw [sum_improvement]
      ring

end Rows

end Dimensions

/-- A portfolio of positive value, without negative positions and cash. -/
structure ValuedPortfolio where
  portfolio : PortfolioSnapshot
  marketData : MarketDataSnapshot
  shelf : List ShelfEntry
  mode : ValuationMode
  positions : ∀ summary ∈ positionSummaries portfolio marketData mode,
    0 ≤ summary.valueInBaseCcy.amount
  cash : ∀ balance ∈ portfolio.cashBalances, 0 ≤ balance.amount
  positive : 0 < totalValue portfolio marketData mode

/-- A reference model whose asset classes share the whole portfolio. -/
structure DistributedModel extends ReferenceModel where
  nonneg : ∀ target ∈ assetClassTargets, 0 ≤ target.weight
  sum : (assetClassTargets.map ReferenceAssetClassTarget.weight).sum = 1

namespace ValuedPortfolio

variable (valued : ValuedPortfolio)

def state : SimulatedState :=
  buildSimulatedState valued.portfolio valued.marketData valued.shelf valued.mode

/-- The weights of the asset classes. -/
def assetClassRows : List (String × ℚ) :=
  valued.state.allocationByAssetClass.map fun metric => (metric.key, metric.weight)

/-- The weights of the positions, by instrument. -/
def instrumentRows : List (String × ℚ) :=
  valued.state.allocationByInstrument.map fun metric => (metric.key, metric.weight)

theorem safeTotalValue_pos :
    0 < safeTotalValue (totalValue valued.portfolio valued.marketData valued.mode) := by
  rw [safeTotalValue_of_ne valued.positive.ne']
  exact valued.positive

theorem rateOrZero_nonneg (marketData : MarketDataSnapshot) (baseCcy currency : String) :
    0 ≤ rateOrZero marketData baseCcy currency := by
  unfold rateOrZero
  cases hrate : getFxRate marketData currency baseCcy with
  | none => exact le_rfl
  | some rate => exact (getFxRate_pos marketData hrate).le

theorem cashTotalValue_nonneg : 0 ≤ cashTotalValue valued.portfolio valued.marketData := by
  apply List.sum_nonneg
  intro value hvalue
  obtain ⟨balance, hbalance, rfl⟩ := List.mem_map.mp hvalue
  exact mul_nonneg (valued.cash balance hbalance) (rateOrZero_nonneg ..)

theorem weighAtMostOne_assetClassRows : WeighAtMostOne valued.assetClassRows where
  nonneg := by
    intro row hrow
    obtain ⟨metric, hmetric, rfl⟩ := List.mem_map.mp hrow
    obtain ⟨item, hitem, rfl⟩ := List.mem_map.mp hmetric
    refine div_nonneg ?_ valued.safeTotalValue_pos.le
    have hvalue : (Dict.get? (assetClassValues valued.portfolio valued.marketData valued.shelf
        valued.mode) item.1).getD 0 = _ := getD_assetClassValues item.1
    rw [Dict.get?_of_mem nodup_assetClassValues hitem, Option.getD_some] at hvalue
    rw [hvalue]
    apply Weights.weightOf_nonneg
    intro row hrow
    rcases List.mem_append.mp hrow with hrow | hrow
    · obtain ⟨summary, hsummary, rfl⟩ := List.mem_map.mp hrow
      obtain ⟨position, hposition, rfl⟩ := List.mem_map.mp hsummary
      exact valued.positions position hposition
    · obtain rfl := List.mem_singleton.mp hrow
      exact valued.cashTotalValue_nonneg
  sum := by
    have hsum : (valued.state.allocationByAssetClass.map AllocationMetric.weight).sum = 1 :=
      sum_assetClassWeights valued.positive.ne'
    rw [assetClassRows, List.map_map]
    exact hsum.le

theorem weighAtMostOne_instrumentRows : WeighAtMostOne valued.instrumentRows where
  nonneg := by
    intro row hrow
    obtain ⟨metric, hmetric, rfl⟩ := List.mem_map.mp hrow
    obtain ⟨summary, hsummary, rfl⟩ := mem_allocationByInstrument hmetric
    exact div_nonneg (valued.positions summary hsummary) valued.safeTotalValue_pos.le
  sum := by
    have hsum : (valued.instrumentRows.map Prod.snd).sum =
        positionTotal valued.portfolio valued.marketData valued.mode /
          totalValue valued.portfolio valued.marketData valued.mode := by
      rw [positionTotal, div_eq_mul_inv, ← List.sum_map_mul_right, instrumentRows, List.map_map,
        state]
      dsimp only [buildSimulatedState, allocatedPositions]
      rw [List.map_map, List.map_map, safeTotalValue_of_ne valued.positive.ne']
      simp only [Function.comp_def, div_eq_mul_inv]
    rw [hsum, div_le_one valued.positive, totalValue]
    exact le_add_of_nonneg_right valued.cashTotalValue_nonneg

end ValuedPortfolio

section Analysis

variable (before after : ValuedPortfolio) (model : DistributedModel) (tradedInstruments : List String)
  (options : DecisionOptions)

def DistributedModel.assetClassRows : List (String × ℚ) :=
  model.assetClassTargets.map fun target => (target.assetClass, target.weight)

def DistributedModel.instrumentRows : List (String × ℚ) :=
  model.instrumentTargets.map fun target => (target.instrumentId, target.weight)

def driftAnalysis : DriftAnalysis :=
  computeDriftAnalysis before.state after.state model.toReferenceModel tradedInstruments options

theorem weighAtMostOne_assetClassTargets : WeighAtMostOne model.assetClassRows where
  nonneg := by
    intro row hrow
    obtain ⟨target, htarget, rfl⟩ := List.mem_map.mp hrow
    exact model.nonneg target htarget
  sum := by
    rw [DistributedModel.assetClassRows, List.map_map]
    exact model.sum.le

/-- The buckets of a dimension are those of its rows at least. -/
theorem subset_buckets (beforeRows afterRows modelRows : List (String × ℚ)) (more : List String) :
    beforeRows.map Prod.fst ⊆ (Dict.ofItems beforeRows ++ Dict.ofItems afterRows ++
        Dict.ofItems modelRows).map Prod.fst ++ more ∧
      afterRows.map Prod.fst ⊆ (Dict.ofItems beforeRows ++ Dict.ofItems afterRows ++
        Dict.ofItems modelRows).map Prod.fst ++ more ∧
      modelRows.map Prod.fst ⊆ (Dict.ofItems beforeRows ++ Dict.ofItems afterRows ++
        Dict.ofItems modelRows).map Prod.fst ++ more := by
  simp only [List.map_append]
  refine ⟨?_, ?_, ?_⟩ <;> intro bucket hbucket <;>
    simp only [List.mem_append, Dict.mem_keys_ofItems] <;> tauto

end Analysis

namespace RepeatedSample

/-- Two rows of one share are the whole portfolio. -/
def valued : ValuedPortfolio where
  portfolio := {
    baseCurrency := "USD"
    positions := [⟨"SHARE", 1, none⟩, ⟨"SHARE", 1, none⟩]
    cashBalances := [] }
  marketData := { prices := [⟨"SHARE", 10, "USD"⟩], fxRates := [] }
  shelf := [{ instrumentId := "SHARE", status := .approved, assetClass := "EQUITY" }]
  mode := .calculated
  positions := by decide +kernel
  cash := by decide
  positive := by decide +kernel

def model : DistributedModel where
  modelId := "mdl_1"
  asOf := "2026-03-26"
  baseCurrency := "USD"
  assetClassTargets := [⟨"EQUITY", 1⟩]
  instrumentTargets := [⟨"SHARE", 1⟩]
  nonneg := by decide +kernel
  sum := by decide +kernel

theorem rows_at_target (bucket : String) : Weights.weightOf valued.instrumentRows bucket =
    Weights.weightOf model.instrumentRows bucket := by
  have hrows : valued.instrumentRows = [("SHARE", 1 / 2), ("SHARE", 1 / 2)] := by decide +kernel
  have htargets : model.instrumentRows = [("SHARE", 1)] := rfl
  rw [hrows, htargets]
  unfold Weights.weightOf
  by_cases h : "SHARE" = bucket
  · subst h
    norm_num
  · simp [h]

end RepeatedSample

end LotusAdvise.Advisory

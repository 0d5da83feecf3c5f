import LotusAdvise.Advisory.Valuation
import LotusAdvise.Foundations.Weights
import Mathlib.Algebra.BigOperators.Ring.List

/-! # Allocations

The allocations of a valued portfolio account for its whole value. They are folded up from its
positions into dictionaries, by asset class and by the attributes of the shelf.
-/

namespace LotusAdvise.Advisory

section Attributes

/-- The values of the attributes, by key. -/
abbrev AttributeValues := Dict String (Dict String ℚ)

namespace AttributeValues

variable (allocations : AttributeValues)

/-- The values under one key. -/
def under (key : String) : Dict String ℚ := (Dict.get? allocations key).getD []

/-- A value is added under an tag. -/
def add (value : ℚ) (tag : String × String) : AttributeValues :=
  Dict.set allocations tag.1 (Dict.set (allocations.under tag.1) tag.2
    ((Dict.get? (allocations.under tag.1) tag.2).getD 0 + value))

/-- What the values under a key sum up to. -/
def total (key : String) : ℚ := ((allocations.under key).map Prod.snd).sum

end AttributeValues

variable (portfolio : PortfolioSnapshot) (marketData : MarketDataSnapshot) (shelf : List ShelfEntry)
  (mode : ValuationMode)

/-- `_apply_shelf_allocation_attributes`. -/
def applyShelfAllocationAttributes (allocations : AttributeValues) (summary : PositionSummary) :
    AttributeValues :=
  match firstShelfEntry shelf summary.instrumentId with
  | none => allocations
  | some entry => entry.attributes.foldl
      (AttributeValues.add · summary.valueInBaseCcy.amount ·) allocations

def attributeValues : AttributeValues :=
  (allocatedPositions portfolio marketData shelf mode).foldl (applyShelfAllocationAttributes shelf) []

/-- `build_simulated_state(...).allocation_by_attribute`. -/
def allocationByAttribute : Dict String (List AllocationMetric) :=
  (attributeValues portfolio marketData shelf mode).map fun allocation =>
    (allocation.1, allocation.2.map fun item =>
      { key := item.1
        weight := item.2 / safeTotalValue (totalValue portfolio marketData mode)
        value := ⟨item.2, portfolio.baseCurrency⟩ })

/-- The shelf entry of a position carries an attribute under the key. -/
def CarriesAttribute (key instrumentId : String) : Prop :=
  ∃ entry ∈ firstShelfEntry shelf instrumentId, key ∈ entry.attributes.map Prod.fst

instance (key instrumentId : String) : Decidable (CarriesAttribute shelf key instrumentId) := by
  unfold CarriesAttribute
  infer_instance

end Attributes

section AttributeTotals

variable {allocations : AttributeValues} {value : ℚ} {key : String} {tag : String × String}
  {shelf : List ShelfEntry} {summary : PositionSummary}

/-- The values under each key are those of a dictionary. -/
def AttributeValues.Distinct (allocations : AttributeValues) : Prop :=
  ∀ key, ((allocations.under key).map Prod.fst).Nodup

theorem under_add : (allocations.add value tag).under key =
    if tag.1 = key then Dict.set (allocations.under key) tag.2
      ((Dict.get? (allocations.under key) tag.2).getD 0 + value)
    else allocations.under key := by
  rw [AttributeValues.under, AttributeValues.add, Dict.get?_set]
  split
  · next h => rw [h, Option.getD_some]
  · rfl

theorem distinct_add (h : allocations.Distinct) : (allocations.add value tag).Distinct := by
  intro key
  rw [under_add]
  split
  · exact Dict.nodup_keys_set (h key)
  · exact h key

theorem total_add (h : allocations.Distinct) : (allocations.add value tag).total key =
    allocations.total key + if tag.1 = key then value else 0 := by
  rw [AttributeValues.total, under_add]
  split
  · exact Dict.sum_set_add (h key)
  · rw [add_zero]
    rfl

/-- Attributes under distinct keys add the value to each of these keys. -/
theorem foldl_add (h : allocations.Distinct) (attributes : Dict String String)
    (hn : (attributes.map Prod.fst).Nodup) :
    (attributes.foldl (AttributeValues.add · value ·) allocations).Distinct ∧
      (attributes.foldl (AttributeValues.add · value ·) allocations).total key =
        allocations.total key + if key ∈ attributes.map Prod.fst then value else 0 := by
  induction attributes generalizing allocations with
  | nil => simp [h]
  | cons tag attributes ih =>
    rw [List.map_cons, List.nodup_cons] at hn
    obtain ⟨hnew, hn⟩ := hn
    obtain ⟨hdistinct, htotal⟩ := ih (distinct_add h) hn
    refine ⟨hdistinct, ?_⟩
    rw [List.foldl_cons, htotal, total_add h, add_assoc, List.map_cons]
    by_cases hkey : tag.1 = key
    · subst hkey
      simp [hnew]
    · have hother : key ≠ tag.1 := Ne.symm hkey
      simp only [if_neg hkey, zero_add, List.mem_cons, hother, false_or]

theorem total_applyShelf (key : String) (summary : PositionSummary) (h : allocations.Distinct)
    (hshelf : ∀ entry ∈ shelf, (entry.attributes.map Prod.fst).Nodup) :
    (applyShelfAllocationAttributes shelf allocations summary).Distinct ∧
      (applyShelfAllocationAttributes shelf allocations summary).total key =
        allocations.total key +
          if CarriesAttribute shelf key summary.instrumentId then summary.valueInBaseCcy.amount
          else 0 := by
  unfold applyShelfAllocationAttributes
  cases hentry : firstShelfEntry shelf summary.instrumentId with
  | none =>
    have hcarries : ¬ CarriesAttribute shelf key summary.instrumentId := by
      simp [CarriesAttribute, hentry]
    exact ⟨h, by rw [if_neg hcarries, add_zero]⟩
  | some entry =>
    have hcarries : CarriesAttribute shelf key summary.instrumentId ↔
        key ∈ entry.attributes.map Prod.fst := by
      simp [CarriesAttribute, hentry]
    simp only [hcarries]
    exact foldl_add h entry.attributes (hshelf entry (List.mem_of_find?_eq_some hentry))

/-- The positions that carry a key add their values under it. -/
theorem total_foldl_applyShelf (key : String) (h : allocations.Distinct)
    (hshelf : ∀ entry ∈ shelf, (entry.attributes.map Prod.fst).Nodup)
    (summaries : List PositionSummary) :
    (summaries.foldl (applyShelfAllocationAttributes shelf) allocations).total key =
      allocations.total key + ((summaries.filter fun summary =>
        CarriesAttribute shelf key summary.instrumentId).map fun summary =>
          summary.valueInBaseCcy.amount).sum := by
  induction summaries generalizing allocations with
  | nil => simp
  | cons summary summaries ih =>
    obtain ⟨hdistinct, htotal⟩ := total_applyShelf key summary h hshelf
    rw [List.foldl_cons, ih hdistinct, htotal]
    by_cases hcarries : CarriesAttribute shelf key summary.instrumentId
    · rw [if_pos hcarries, List.filter_cons_of_pos (by simpa using hcarries), List.map_cons,
        List.sum_cons, add_assoc]
    · rw [if_neg hcarries, List.filter_cons_of_neg (by simpa using hcarries), add_zero]

end AttributeTotals

section Account

variable (portfolio : PortfolioSnapshot) (marketData : MarketDataSnapshot) (shelf : List ShelfEntry)
  (mode : ValuationMode)

def sumOfValues (metrics : List AllocationMetric) : ℚ :=
  (metrics.map fun metric => metric.value.amount).sum

/-- The allocations account for the whole portfolio. -/
structure AllocationsAccount : Prop where
  assetClasses : (buildSimulatedState portfolio marketData shelf mode).totalValue.amount =
    sumOfValues (buildSimulatedState portfolio marketData shelf mode).allocationByAssetClass
  instruments : (buildSimulatedState portfolio marketData shelf mode).totalValue.amount =
    sumOfValues (buildSimulatedState portfolio marketData shelf mode).allocationByInstrument +
      (portfolio.cashBalances.map fun cash =>
        convertedBaseValue marketData portfolio.baseCurrency cash.amount cash.currency).sum
  weights : (buildSimulatedState portfolio marketData shelf mode).totalValue.amount ≠ 0 →
    ((buildSimulatedState portfolio marketData shelf mode).allocationByAssetClass.map
      AllocationMetric.weight).sum = 1
  instrumentWeights : (buildSimulatedState portfolio marketData shelf mode).totalValue.amount ≠ 0 →
    ∀ metric ∈ (buildSimulatedState portfolio marketData shelf mode).allocationByInstrument,
      metric.weight = metric.value.amount /
        (buildSimulatedState portfolio marketData shelf mode).totalValue.amount
  attributes : ∀ key,
    sumOfValues ((Dict.get? (allocationByAttribute portfolio marketData shelf mode) key).getD []) =
      (((buildSimulatedState portfolio marketData shelf mode).positions.filter fun position =>
        CarriesAttribute shelf key position.instrumentId).map fun position =>
          position.valueInBaseCcy.amount).sum

/-- What each asset class has in its positions and, under its label, in cash. -/
def assetClassRows : List (String × ℚ) :=
  (allocatedPositions portfolio marketData shelf mode).map (fun summary =>
    (summary.assetClass, summary.valueInBaseCcy.amount)) ++
  [("CASH", cashTotalValue portfolio marketData)]

variable {portfolio marketData shelf mode}

theorem nodup_assetClassValues :
    ((assetClassValues portfolio marketData shelf mode).map Prod.fst).Nodup := by
  dsimp only [assetClassValues]
  have hempty : (([] : Dict String ℚ).map Prod.fst).Nodup := List.nodup_nil
  apply Dict.nodup_keys_set
  exact Dict.nodup_keys_foldl_add (fun summary : PositionSummary => some summary.assetClass)
    (fun summary => summary.valueInBaseCcy.amount) hempty _

theorem getD_assetClassValues (assetClass : String) :
    (Dict.get? (assetClassValues portfolio marketData shelf mode) assetClass).getD 0 =
      Weights.weightOf (assetClassRows portfolio marketData shelf mode) assetClass := by
  have hfold := Dict.getD_get?_foldl_add
    (fun summary : PositionSummary => some summary.assetClass)
    (fun summary => summary.valueInBaseCcy.amount) []
    (allocatedPositions portfolio marketData shelf mode)
  unfold Weights.weightOf assetClassRows
  dsimp only [assetClassValues] at hfold ⊢
  rw [Dict.get?_set, List.filter_append, List.map_append, List.sum_append, List.filter_map,
    List.map_map, List.filter_singleton]
  by_cases h : "CASH" = assetClass
  · subst h
    rw [if_pos rfl, Option.getD_some, hfold]
    simp [Function.comp_def]
  · rw [if_neg h, hfold]
    simp [h, Function.comp_def]

/-- The values of the asset classes sum up to the value of the portfolio. -/
theorem sum_assetClassValues : ((assetClassValues portfolio marketData shelf mode).map
    Prod.snd).sum = totalValue portfolio marketData mode := by
  rw [Weights.sum_values_eq nodup_assetClassValues getD_assetClassValues, assetClassRows,
    List.map_append, List.sum_append, List.map_map, totalValue, positionTotal, allocatedPositions,
    List.map_map, List.map_cons, List.map_nil, List.sum_cons, List.sum_nil, add_zero]
  rfl

theorem sumOfValues_allocationByAttribute (key : String) :
    sumOfValues ((Dict.get? (allocationByAttribute portfolio marketData shelf mode) key).getD []) =
      (attributeValues portfolio marketData shelf mode).total key := by
  rw [allocationByAttribute, Dict.get?_map_values, AttributeValues.total, AttributeValues.under]
  cases Dict.get? (attributeValues portfolio marketData shelf mode) key with
  | none => rfl
  | some values =>
    rw [Option.map_some, Option.getD_some, sumOfValues, List.map_map]
    rfl

theorem safeTotalValue_of_ne {value : ℚ} (h : value ≠ 0) : safeTotalValue value = value := if_neg h

/-- The weights of the asset classes sum up to one. -/
theorem sum_assetClassWeights
    (hne : (buildSimulatedState portfolio marketData shelf mode).totalValue.amount ≠ 0) :
    ((buildSimulatedState portfolio marketData shelf mode).allocationByAssetClass.map
      AllocationMetric.weight).sum = 1 := by
  change totalValue portfolio marketData mode ≠ 0 at hne
  have hdiv : ∀ values : Dict String ℚ,
      (values.map fun item => item.2 / totalValue portfolio marketData mode).sum =
        (values.map Prod.snd).sum / totalValue portfolio marketData mode := by
    intro values
    simp only [div_eq_mul_inv]
    exact List.sum_map_mul_right values Prod.snd _
  dsimp only [buildSimulatedState]
  rw [List.map_map, safeTotalValue_of_ne hne]
  exact (hdiv _).trans (by rw [sum_assetClassValues, div_self hne])

/-- A row of the allocation by instrument is the one of a valued position. -/
theorem mem_allocationByInstrument {metric : AllocationMetric} (h : metric ∈
    (buildSimulatedState portfolio marketData shelf mode).allocationByInstrument) :
    ∃ summary ∈ positionSummaries portfolio marketData mode, metric =
      { key := summary.instrumentId
        weight := summary.valueInBaseCcy.amount /
          safeTotalValue (totalValue portfolio marketData mode)
        value := summary.valueInBaseCcy } := by
  obtain ⟨summary, hsummary, rfl⟩ := List.mem_map.mp h
  obtain ⟨valued, hvalued, rfl⟩ := List.mem_map.mp hsummary
  exact ⟨valued, hvalued, rfl⟩

end Account

section Claim

variable (portfolio : PortfolioSnapshot) (marketData : MarketDataSnapshot) (shelf : List ShelfEntry)
  (mode : ValuationMode)

/-- The allocations account for the whole portfolio, where the attributes of a shelf entry have
distinct keys. -/
theorem allocations_account
    (hshelf : ∀ entry ∈ shelf, (entry.attributes.map Prod.fst).Nodup) :
    AllocationsAccount portfolio marketData shelf mode where
  assetClasses := by
    rw [sumOfValues]
    change totalValue portfolio marketData mode = _
    dsimp only [buildSimulatedState]
    rw [List.map_map]
    exact sum_assetClassValues.symm
  instruments := by
    rw [sumOfValues]
    change totalValue portfolio marketData mode = _
    dsimp only [buildSimulatedState]
    rw [List.map_map, totalValue, positionTotal, allocatedPositions, List.map_map]
    rfl
  weights := sum_assetClassWeights
  instrumentWeights := by
    intro hne metric hmetric
    obtain ⟨valued, -, rfl⟩ := mem_allocationByInstrument hmetric
    change totalValue portfolio marketData mode ≠ 0 at hne
    dsimp only
    rw [safeTotalValue_of_ne hne]
    rfl
  attributes := by
    intro key
    have hempty : AttributeValues.Distinct [] := fun _ => List.nodup_nil
    have htotal := total_foldl_applyShelf key hempty hshelf
      (allocatedPositions portfolio marketData shelf mode)
    have hnone : AttributeValues.total [] key = 0 := rfl
    rw [hnone, zero_add] at htotal
    rw [sumOfValues_allocationByAttribute]
    exact htotal

end Claim

namespace AllocationSample

def portfolio : PortfolioSnapshot where
  baseCurrency := "USD"
  positions := [⟨"SHARE", 3, none⟩, ⟨"FUND", 2, some ⟨40, "USD"⟩⟩, ⟨"SHARE", 1, none⟩]
  cashBalances := [⟨"EUR", 10⟩, ⟨"USD", -5⟩, ⟨"JPY", 100⟩]

theorem rate_pos : (0 : ℚ) < 11 / 10 := by norm_num

def marketData : MarketDataSnapshot where
  prices := [⟨"SHARE", 10, "EUR"⟩]
  fxRates := [⟨"EUR/USD", 11 / 10, rate_pos⟩]

def shelf : List ShelfEntry := [
  { instrumentId := "SHARE", status := .approved, assetClass := "EQUITY",
    attributes := [("sector", "TECH"), ("region", "EU")] },
  { instrumentId := "FUND", status := .approved, assetClass := "CASH",
    attributes := [("region", "US")] },
  { instrumentId := "SHARE", status := .restricted, assetClass := "OTHER" }]

end AllocationSample

open AllocationSample in
/-- The theorem at a fund that counts as cash, and a share with two positions. -/
theorem allocations_account_mixed : AllocationsAccount portfolio marketData shelf .trustSnapshot :=
  allocations_account portfolio marketData shelf .trustSnapshot (by decide)

open AllocationSample in
example : (allocationByAttribute portfolio marketData shelf .trustSnapshot).map (fun allocation =>
    (allocation.1, sumOfValues allocation.2)) = [("sector", 44), ("region", 84)] := by
  decide +kernel

end LotusAdvise.Advisory

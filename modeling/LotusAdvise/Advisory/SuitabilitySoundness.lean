import LotusAdvise.Advisory.WorkflowGate
import LotusAdvise.Foundations.Weights
import LotusAdvise.Foundations.Words

/-! # What the gate lets through

An issue of the state after a proposal that the state before does not have is new, and a new
issue that is not about missing data keeps the gate closed. So a breach that passes was there
before, as far as the checks read the weights right.
-/

namespace LotusAdvise.Advisory

section Keys

/-- The first characters of the key of an issue. -/
def IssueKey.family : IssueKey → String
  | singlePosition _ => "SINGLE_PO"
  | issuer _ => "ISSUER_MA"
  | liquidity _ => "LIQUIDITY"
  | governance _ _ => "GOVERNANC"
  | cashBand => "CASH_BAND"
  | missingShelf _ | missingIssuer _ | missingLiquidityTier _ => "DQ|MISSIN"
  | productComplexity _ => "PRODUCT_C"
  | mandateContext _ => "MANDATE_C"

/-- Data that is missing. -/
def IssueKey.DataQuality (key : IssueKey) : Prop := key.family = "DQ|MISSIN"

/-- The text before what a key names. -/
def IssueKey.mark : IssueKey → String
  | singlePosition _ => "SINGLE_POSITION_MAX|"
  | issuer _ => "ISSUER_MAX|"
  | liquidity _ => "LIQUIDITY_MAX|"
  | governance _ _ => "GOVERNANCE|"
  | cashBand => "CASH_BAND"
  | missingShelf _ => "DQ|MISSING_SHELF|"
  | missingIssuer _ => "DQ|MISSING_ISSUER|"
  | missingLiquidityTier _ => "DQ|MISSING_LIQUIDITY_TIER|"
  | productComplexity _ => "PRODUCT_COMPLEXITY|"
  | mandateContext _ => "MANDATE_CONTEXT|"

variable {key other : IssueKey}

theorem IssueKey.take_mark (key : IssueKey) :
    9 ≤ key.mark.toList.length ∧ key.mark.toList.take 9 = key.family.toList := by
  cases key <;> simp only [mark, family] <;> decide

/-- What a key names. -/
def IssueKey.rest : IssueKey → String
  | governance instrumentId status => instrumentId ++ ("|" ++ status.text)
  | liquidity tier => tier.text
  | cashBand => ""
  | singlePosition named | issuer named | missingShelf named | missingIssuer named
  | missingLiquidityTier named | productComplexity named | mandateContext named => named

theorem IssueKey.text_eq (key : IssueKey) : key.text = key.mark ++ key.rest := by
  cases key with
  | governance instrumentId status =>
    change "GOVERNANCE|" ++ instrumentId ++ "|" ++ status.text =
      "GOVERNANCE|" ++ (instrumentId ++ ("|" ++ status.text))
    rw [String.append_assoc, String.append_assoc]
  | cashBand => exact String.append_empty.symm
  | singlePosition | issuer | liquidity | missingShelf | missingIssuer | missingLiquidityTier
  | productComplexity | mandateContext => rfl

theorem IssueKey.family_eq (h : key.text = other.text) : key.family = other.family := by
  have htake : ∀ key : IssueKey, key.text.toList.take 9 = key.family.toList := by
    intro key
    obtain ⟨hlength, htake⟩ := key.take_mark
    rw [key.text_eq, String.toList_append, List.take_append_of_le_length hlength, htake]
  apply String.toList_injective
  rw [← htake, ← htake, h]

theorem ShelfStatus.text_injective : Function.Injective ShelfStatus.text := by
  intro status other h
  cases status <;> cases other <;> first | rfl | simp [text] at h

theorem LiquidityTier.text_injective : Function.Injective LiquidityTier.text := by
  intro tier other h
  cases tier <;> cases other <;> first | rfl | simp [text] at h

theorem IssueKey.governance_text_inj {instrumentId instrumentId' : String}
    {status status' : ShelfStatus}
    (h : (governance instrumentId status).text = (governance instrumentId' status').text) :
    instrumentId = instrumentId' ∧ status = status' := by
  have hbar : ∀ status : ShelfStatus, '|' ∉ status.text.toList := by
    intro status
    cases status <;> simp only [ShelfStatus.text] <;> decide
  rw [text_eq, text_eq] at h
  have h := congrArg String.toList ((String.append_right_inj _).mp h)
  simp only [rest, String.toList_append] at h
  obtain ⟨hid, hstatus⟩ := Words.append_separator_inj (hbar status) (hbar status') h
  exact ⟨String.toList_injective hid, ShelfStatus.text_injective (String.toList_injective hstatus)⟩

/-- The text of a key tells what the issue is about, unless that is missing data. -/
theorem IssueKey.eq_of_text (h : key.text = other.text) (hkey : ¬ key.DataQuality) : key = other := by
  have hfamily := IssueKey.family_eq h
  cases key with
  | singlePosition instrumentId =>
    cases other <;> simp [family] at hfamily
    rw [(String.append_right_inj _).mp h]
  | issuer issuerId =>
    cases other <;> simp [family] at hfamily
    rw [(String.append_right_inj _).mp h]
  | liquidity tier =>
    cases other <;> simp [family] at hfamily
    rw [LiquidityTier.text_injective ((String.append_right_inj _).mp h)]
  | governance instrumentId status =>
    cases other <;> simp [family] at hfamily
    obtain ⟨rfl, rfl⟩ := IssueKey.governance_text_inj h
    rfl
  | cashBand =>
    cases other <;> simp [family] at hfamily
    rfl
  | productComplexity instrumentId =>
    cases other <;> simp [family] at hfamily
    rw [(String.append_right_inj _).mp h]
  | mandateContext instrumentId =>
    cases other <;> simp [family] at hfamily
    rw [(String.append_right_inj _).mp h]
  | missingShelf | missingIssuer | missingLiquidityTier => exact absurd rfl hkey

end Keys

section Weights

open Weights

/-- The weights of the position rows of a state. -/
def weightRows (state : SimulatedState) : List (String × ℚ) :=
  state.allocationByInstrument.map fun metric => (metric.key, metric.weight)

/-- The last positive weight of each instrument is what its rows sum up to. -/
def RowsCounted (state : SimulatedState) : Prop :=
  ∀ instrumentId, (((weightRows state).filter fun row =>
    row.1 = instrumentId ∧ 0 < row.2).getLast?.map Prod.snd).getD 0 =
      Weights.weightOf (weightRows state) instrumentId

variable {state : SimulatedState}

theorem toInstrumentWeightMap_eq (state : SimulatedState) :
    toInstrumentWeightMap state = Dict.ofItems ((weightRows state).filter fun row => 0 < row.2) := by
  rw [toInstrumentWeightMap, weightRows, List.filter_map]
  rfl

theorem nodup_weightMap (state : SimulatedState) :
    ((toInstrumentWeightMap state).map Prod.fst).Nodup := Dict.nodup_keys_ofItems _

theorem pos_of_mem_weightMap {item : String × ℚ} (h : item ∈ toInstrumentWeightMap state) :
    0 < item.2 := by
  rw [toInstrumentWeightMap_eq] at h
  exact of_decide_eq_true (List.mem_filter.mp (Dict.mem_ofItems h)).2

theorem instrumentWeight_of_mem {item : String × ℚ} (h : item ∈ toInstrumentWeightMap state) :
    instrumentWeight state item.1 = item.2 := by
  rw [instrumentWeight, Dict.get?_of_mem (nodup_weightMap state) h, Option.getD_some]

theorem mem_weightMap {instrumentId : String} (h : 0 < instrumentWeight state instrumentId) :
    (instrumentId, instrumentWeight state instrumentId) ∈ toInstrumentWeightMap state := by
  unfold instrumentWeight at h ⊢
  cases hget : Dict.get? (toInstrumentWeightMap state) instrumentId with
  | none =>
    rw [hget] at h
    exact absurd h (lt_irrefl _)
  | some weight => exact Dict.mem_of_get? hget

theorem instrumentWeight_nonneg (state : SimulatedState) (instrumentId : String) :
    0 ≤ instrumentWeight state instrumentId := by
  unfold instrumentWeight
  cases hget : Dict.get? (toInstrumentWeightMap state) instrumentId with
  | none => exact le_rfl
  | some weight => exact (pos_of_mem_weightMap (Dict.mem_of_get? hget)).le

theorem weightOf_weightMap (hcounted : RowsCounted state) (instrumentId : String) :
    Weights.weightOf (toInstrumentWeightMap state) instrumentId =
      Weights.weightOf (weightRows state) instrumentId := by
  rw [weightOf_dict (nodup_weightMap state), toInstrumentWeightMap_eq, Dict.get?_ofItems,
    List.filter_filter, ← hcounted instrumentId]
  simp only [Bool.decide_and]

theorem instrumentWeight_eq (hcounted : RowsCounted state) (instrumentId : String) :
    instrumentWeight state instrumentId = Weights.weightOf (weightRows state) instrumentId := by
  rw [← weightOf_weightMap hcounted, weightOf_dict (nodup_weightMap state), instrumentWeight]

/-- With one row for each instrument, and no short position, every row counts. -/
theorem rowsCounted_of_nodup (hkeys : ((weightRows state).map Prod.fst).Nodup)
    (hnonneg : ∀ row ∈ weightRows state, 0 ≤ row.2) : RowsCounted state := by
  intro instrumentId
  have hpositive : (((weightRows state).filter fun row => 0 < row.2).map Prod.fst).Nodup :=
    hkeys.sublist (List.filter_sublist.map _)
  have hlast := Dict.get?_ofItems ((weightRows state).filter fun row => 0 < row.2) instrumentId
  rw [Dict.ofItems_of_nodup hpositive, List.filter_filter] at hlast
  rw [weightOf_dict hkeys]
  simp only [Bool.decide_and]
  rw [← hlast]
  cases hget : Dict.get? (weightRows state) instrumentId with
  | none =>
    rw [Dict.get?_eq_none.mpr fun h => Dict.get?_eq_none.mp hget (List.filter_sublist.map _ |>.subset h)]
  | some weight =>
    have hmem := Dict.mem_of_get? hget
    rcases (hnonneg _ hmem).lt_or_eq with hpos | hzero
    · rw [Dict.get?_of_mem hpositive (List.mem_filter.mpr ⟨hmem, decide_eq_true hpos⟩)]
    · cases hother : Dict.get? ((weightRows state).filter fun row => 0 < row.2) instrumentId with
      | none => exact hzero
      | some other =>
        obtain ⟨hother, hpos⟩ := List.mem_filter.mp (Dict.mem_of_get? hother)
        rw [Dict.get?_of_mem hkeys hother] at hget
        obtain rfl := Option.some.inj hget
        exact absurd hzero (of_decide_eq_true hpos).ne

variable {shelf : List ShelfEntry}

theorem get?_shelfIndex_iff (hshelf : (shelf.map ShelfEntry.instrumentId).Nodup)
    {instrumentId : String} {entry : ShelfEntry} :
    Dict.get? (shelfIndex shelf) instrumentId = some entry ↔
      entry ∈ shelf ∧ entry.instrumentId = instrumentId := by
  have hkeys : ((shelf.map fun entry => (entry.instrumentId, entry)).map Prod.fst).Nodup := by
    rw [List.map_map]
    exact hshelf
  rw [shelfIndex, Dict.ofItems_of_nodup hkeys]
  constructor
  · intro h
    obtain ⟨other, hmem, heq⟩ := List.mem_map.mp (Dict.mem_of_get? h)
    obtain ⟨rfl, rfl⟩ := Prod.mk.inj heq
    exact ⟨hmem, rfl⟩
  · rintro ⟨hmem, rfl⟩
    exact Dict.get?_of_mem hkeys (List.mem_map.mpr ⟨entry, hmem, rfl⟩)

/-- The weights of a bucket are those of the instruments that the shelf has it for. -/
theorem aggregate_eq {Bucket : Type} [DecidableEq Bucket] (bucket : ShelfEntry → Option Bucket)
    (hcounted : RowsCounted state) (hshelf : (shelf.map ShelfEntry.instrumentId).Nodup)
    (value : Bucket) :
    (Dict.get? (aggregateEnrichedWeights (shelfIndex shelf) state bucket) value).getD 0 =
      weightWhere (weightRows state) fun instrumentId =>
        ∃ entry ∈ shelf, entry.instrumentId = instrumentId ∧ bucket entry = some value := by
  have hsum := Dict.getD_get?_foldl_add (fun item : String × ℚ =>
    (Dict.get? (shelfIndex shelf) item.1).bind bucket) Prod.snd [] (toInstrumentWeightMap state) value
  rw [Dict.get?_nil, Option.getD_none, zero_add] at hsum
  rw [← weightWhere_congr (weightOf_weightMap hcounted)]
  refine hsum.trans ?_
  refine weightWhere_iff (p := fun instrumentId =>
    (Dict.get? (shelfIndex shelf) instrumentId).bind bucket = some value) _ fun instrumentId => ?_
  rw [Option.bind_eq_some_iff]
  exact exists_congr fun entry => by rw [get?_shelfIndex_iff hshelf, and_assoc]

end Weights

section Scans

variable {options : EngineOptions} {shelfByInstrument : Dict String ShelfEntry}
  {before target : SimulatedState} {candidate : IssueCandidate} {key : IssueKey}

/-- What a status rules out: any weight, or more weight than before. -/
def ShelfStatus.Breached (status : ShelfStatus) (beforeWeight afterWeight : ℚ) : Prop :=
  match status with
  | .banned | .suspended => epsilon < afterWeight
  | .sellOnly | .restricted => beforeWeight + epsilon < afterWeight
  | .approved => False

/-- The keys of the caps and of the shelf statuses. -/
def IssueKey.Limit : IssueKey → Prop
  | singlePosition _ | issuer _ | liquidity _ | governance _ _ => True
  | _ => False

/-- What a scan has found when it has an issue with the key. -/
def IssueKey.Raised (options : EngineOptions) (shelfByInstrument : Dict String ShelfEntry)
    (before target : SimulatedState) : IssueKey → Prop
  | singlePosition instrumentId => options.suitabilityThresholds.singlePositionMaxWeight + epsilon <
      instrumentWeight target instrumentId
  | issuer issuerId => options.suitabilityThresholds.issuerMaxWeight + epsilon <
      (Dict.get? (issuerWeights shelfByInstrument target) issuerId).getD 0
  | liquidity tier =>
    ∃ cap, Dict.get? options.suitabilityThresholds.maxWeightByLiquidityTier tier = some cap ∧
      cap + epsilon < liquidityWeight shelfByInstrument target tier
  | governance instrumentId status =>
    ∃ entry, Dict.get? shelfByInstrument instrumentId = some entry ∧ entry.status = status ∧
      status.Breached (instrumentWeight before instrumentId) (instrumentWeight target instrumentId)
  | _ => True

/-- An issue has the key of what was found, and only missing data can be of low severity. -/
structure IssueCandidate.Explained (candidate : IssueCandidate) (Found : IssueKey → Prop)
    (key : IssueKey) : Prop where
  issueKey : candidate.issueKey = key.text
  found : Found key
  severity : candidate.severity = .low → key.DataQuality

theorem severityForConcentration_ne_low (measured limit : ℚ) :
    severityForConcentration measured limit ≠ .low := by
  unfold severityForConcentration
  split <;> decide

theorem restrictedSeverity_ne_low (allowRestricted : Bool) :
    restrictedSeverity allowRestricted ≠ .low := by
  cases allowRestricted <;> decide

theorem high_ne_low : IssueSeverity.high ≠ .low := by decide

theorem explained_governanceHolding {instrumentId : String} {status : ShelfStatus}
    {beforeWeight afterWeight : ℚ}
    (h : governanceHoldingIssue options.allowRestricted instrumentId beforeWeight afterWeight status =
      some candidate) :
    candidate.issueKey = (IssueKey.governance instrumentId status).text ∧
      candidate.severity ≠ .low := by
  unfold governanceHoldingIssue at h
  cases status with
  | approved => cases h
  | banned | suspended =>
    dsimp only at h
    split at h
    · obtain rfl := Option.some.inj h
      exact ⟨rfl, high_ne_low⟩
    · cases h
  | sellOnly =>
    dsimp only at h
    split at h
    · obtain rfl := Option.some.inj h
      exact ⟨rfl, high_ne_low⟩
    · cases h
  | restricted =>
    dsimp only at h
    split at h
    · obtain rfl := Option.some.inj h
      exact ⟨rfl, restrictedSeverity_ne_low _⟩
    · cases h

theorem governanceHolding_isSome_iff (allowRestricted : Bool) (instrumentId : String)
    {status : ShelfStatus} {beforeWeight afterWeight : ℚ} :
    (governanceHoldingIssue allowRestricted instrumentId beforeWeight afterWeight status).isSome ↔
      status.Breached beforeWeight afterWeight := by
  unfold governanceHoldingIssue ShelfStatus.Breached holdingIncreased
  cases status with
  | approved => simp
  | banned | suspended => by_cases h : epsilon < afterWeight <;> simp [h]
  | sellOnly | restricted => by_cases h : beforeWeight + epsilon < afterWeight <;> simp [h]

/-- Every issue of a scan stands for something that the scan has found. -/
theorem exists_explained_of_scan (h : candidate ∈ scanStateIssues options shelfByInstrument before
    target) : ∃ key, candidate.Explained (IssueKey.Raised options shelfByInstrument before target)
      key := by
  have hmissing : ∀ {Bucket : Type} {bucket : ShelfEntry → Option Bucket}
      {missingShelf : String → List IssueCandidate} {missing : String → IssueCandidate},
      candidate ∈ missingEnrichmentIssues shelfByInstrument target bucket missingShelf missing →
        ∃ instrumentId, candidate ∈ missingShelf instrumentId ∨ candidate = missing instrumentId := by
    intro Bucket bucket missingShelf missing h
    obtain ⟨item, -, h⟩ := List.mem_flatMap.mp h
    split at h
    · exact ⟨item.1, .inl h⟩
    · split at h
      · exact ⟨item.1, .inr (List.mem_singleton.mp h)⟩
      · cases h
  rw [scanStateIssues, List.mem_append, List.mem_append, List.mem_append, List.mem_append] at h
  rcases h with h | h | h | h | h
  · obtain ⟨item, hitem, rfl⟩ := List.mem_map.mp h
    obtain ⟨hitem, hexceeds⟩ := List.mem_filter.mp hitem
    refine ⟨.singlePosition item.1, rfl, ?_, fun hlow =>
      absurd hlow (severityForConcentration_ne_low _ _)⟩
    change _ < instrumentWeight target item.1
    rw [instrumentWeight_of_mem hitem]
    exact of_decide_eq_true hexceeds
  · rcases List.mem_append.mp h with h | h
    · obtain ⟨instrumentId, h | rfl⟩ := hmissing h
      · obtain rfl := List.mem_singleton.mp h
        exact ⟨.missingShelf instrumentId, rfl, trivial, fun _ => rfl⟩
      · exact ⟨.missingIssuer instrumentId, rfl, trivial, fun _ => rfl⟩
    · obtain ⟨item, hitem, rfl⟩ := List.mem_map.mp h
      obtain ⟨hitem, hexceeds⟩ := List.mem_filter.mp hitem
      have hnodup : ((issuerWeights shelfByInstrument target).map Prod.fst).Nodup :=
        Dict.nodup_keys_foldl_add (fun item : String × ℚ =>
          (Dict.get? shelfByInstrument item.1).bind issuerBucket) Prod.snd
          (d := []) List.nodup_nil _
      refine ⟨.issuer item.1, rfl, ?_, fun hlow =>
        absurd hlow (severityForConcentration_ne_low _ _)⟩
      change _ < (Dict.get? (issuerWeights shelfByInstrument target) item.1).getD 0
      rw [Dict.get?_of_mem hnodup hitem]
      exact of_decide_eq_true hexceeds
  · rcases List.mem_append.mp h with h | h
    · obtain ⟨instrumentId, h | rfl⟩ := hmissing h
      · cases h
      · exact ⟨.missingLiquidityTier instrumentId, rfl, trivial, fun _ => rfl⟩
    · obtain ⟨item, hitem, rfl⟩ := List.mem_map.mp h
      obtain ⟨hitem, hexceeds⟩ := List.mem_filter.mp hitem
      refine ⟨.liquidity item.1, rfl, ⟨item.2, ?_, of_decide_eq_true hexceeds⟩, fun hlow =>
        absurd hlow (severityForConcentration_ne_low _ _)⟩
      exact Dict.get?_of_mem options.suitabilityThresholds.liquidityTiers hitem
  · obtain ⟨instrumentId, -, h⟩ := List.mem_filterMap.mp h
    obtain ⟨entry, hentry, h⟩ := Option.bind_eq_some_iff.mp h
    obtain ⟨hkey, hseverity⟩ := explained_governanceHolding h
    have hbreached := (governanceHolding_isSome_iff _ _).mp (Option.isSome_of_eq_some h)
    exact ⟨.governance instrumentId entry.status, hkey, ⟨entry, hentry, rfl, hbreached⟩,
      fun hlow => absurd hlow hseverity⟩
  · unfold evaluateCashBandIssue at h
    dsimp only at h
    split at h
    · obtain rfl := List.mem_singleton.mp h
      exact ⟨.cashBand, rfl, trivial, fun hlow => by cases hlow⟩
    · cases h

/-- A breach needs a weight after it. -/
theorem ShelfStatus.Breached.pos {status : ShelfStatus} {beforeWeight afterWeight : ℚ}
    (h : status.Breached beforeWeight afterWeight) (hbefore : 0 ≤ beforeWeight) : 0 < afterWeight := by
  have hepsilon : 0 < epsilon := by decide +kernel
  unfold ShelfStatus.Breached at h
  cases status with
  | approved => exact h.elim
  | banned | suspended => exact hepsilon.trans h
  | sellOnly | restricted => exact (add_pos_of_nonneg_of_pos hbefore hepsilon).trans h

theorem pos_of_exceeds {cap weight : ℚ} (hcap : IsRatio cap) (h : cap + epsilon < weight) :
    0 < weight := by
  have hepsilon : 0 < epsilon := by decide +kernel
  exact (add_pos_of_nonneg_of_pos hcap.1 hepsilon).trans h

/-- A scan has an issue for every limit that it finds exceeded. -/
theorem exists_issue_of_raised (hkey : key.Limit)
    (h : key.Raised options shelfByInstrument before target) :
    ∃ candidate ∈ scanStateIssues options shelfByInstrument before target,
      candidate.issueKey = key.text := by
  cases key with
  | singlePosition instrumentId =>
    have hmem := mem_weightMap (pos_of_exceeds options.suitabilityThresholds.singlePosition h)
    exact ⟨_, List.mem_append_left _ (List.mem_map_of_mem
      (List.mem_filter.mpr ⟨hmem, decide_eq_true h⟩)), rfl⟩
  | issuer issuerId =>
    have hpos := pos_of_exceeds options.suitabilityThresholds.issuer h
    unfold IssueKey.Raised at h
    dsimp only at h
    cases hget : Dict.get? (issuerWeights shelfByInstrument target) issuerId with
    | none =>
      rw [hget] at hpos
      exact absurd hpos (lt_irrefl _)
    | some weight =>
      rw [hget] at h
      exact ⟨_, List.mem_append_right _ (List.mem_append_left _ (List.mem_append_right _
        (List.mem_map_of_mem (List.mem_filter.mpr ⟨Dict.mem_of_get? hget, decide_eq_true h⟩)))), rfl⟩
  | liquidity tier =>
    obtain ⟨cap, hcap, hexceeds⟩ := h
    exact ⟨_, List.mem_append_right _ (List.mem_append_right _ (List.mem_append_left _
      (List.mem_append_right _ (List.mem_map_of_mem (List.mem_filter.mpr
        ⟨Dict.mem_of_get? hcap, decide_eq_true hexceeds⟩))))), rfl⟩
  | governance instrumentId status =>
    obtain ⟨entry, hentry, rfl, hbreached⟩ := h
    have hmem := mem_weightMap (hbreached.pos (instrumentWeight_nonneg _ _))
    obtain ⟨candidate, hcandidate⟩ := Option.isSome_iff_exists.mp
      ((governanceHolding_isSome_iff options.allowRestricted instrumentId).mpr hbreached)
    refine ⟨candidate, List.mem_append_right _ (List.mem_append_right _ (List.mem_append_right _
      (List.mem_append_left _ ?_))), (explained_governanceHolding hcandidate).1⟩
    refine List.mem_filterMap.mpr ⟨instrumentId, ?_, ?_⟩
    · rw [distinctSorted, List.mem_insertionSort, List.mem_dedup, List.map_append]
      exact List.mem_append_right _ (List.mem_map.mpr ⟨_, hmem, rfl⟩)
    · rw [hentry]
      exact hcandidate
  | cashBand | missingShelf | missingIssuer | missingLiquidityTier | productComplexity
  | mandateContext => exact hkey.elim

end Scans

section Gate

variable {upper : String → String} {before after : SimulatedState} {shelf : List ShelfEntry}
  {options : EngineOptions} {portfolioSnapshotId marketDataSnapshotId : String}
  {evidenceAsOf : Option String} {proposedTrades : List ProposedTrade}
  {policyContext : Option JsonObject} {candidate : IssueCandidate} {key : IssueKey}

theorem explained_tradeAttempt {allowRestricted : Bool} {instrumentId : String}
    {status : ShelfStatus}
    (h : governanceTradeAttemptIssue allowRestricted before after instrumentId status =
      some candidate) :
    candidate.issueKey = (IssueKey.governance instrumentId status).text ∧
      candidate.severity ≠ .low := by
  unfold governanceTradeAttemptIssue at h
  cases status with
  | approved | banned | suspended => cases h
  | sellOnly =>
    obtain rfl := Option.some.inj h
    exact ⟨rfl, high_ne_low⟩
  | restricted =>
    obtain rfl := Option.some.inj h
    exact ⟨rfl, restrictedSeverity_ne_low _⟩

theorem exists_explained_of_after
    (h : candidate ∈ scanAfter upper before after shelf options proposedTrades policyContext) :
    ∃ key, candidate.Explained (fun _ => True) key := by
  rw [scanAfter, List.mem_append, List.mem_append, List.mem_append] at h
  rcases h with h | h | h | h
  · obtain ⟨key, hexplained⟩ := exists_explained_of_scan h
    exact ⟨key, hexplained.issueKey, trivial, hexplained.severity⟩
  · obtain ⟨instrumentId, -, h⟩ := List.mem_filterMap.mp h
    obtain ⟨entry, -, h⟩ := Option.bind_eq_some_iff.mp h
    obtain ⟨hkey, hseverity⟩ := explained_tradeAttempt h
    exact ⟨_, hkey, trivial, fun hlow => absurd hlow hseverity⟩
  · obtain ⟨instrumentId, -, h⟩ := List.mem_filterMap.mp h
    obtain ⟨entry, -, h⟩ := Option.bind_eq_some_iff.mp h
    split at h
    · obtain rfl := Option.some.inj h
      exact ⟨.productComplexity instrumentId, rfl, trivial, fun hlow => absurd hlow high_ne_low⟩
    · cases h
  · unfold restrictedProductMandateContextIssues at h
    split at h
    · obtain ⟨instrumentId, -, rfl⟩ := List.mem_map.mp h
      exact ⟨.mandateContext instrumentId, rfl, trivial, fun hlow => absurd hlow high_ne_low⟩
    · cases h

theorem get?_issueMap_eq_some {candidates : List IssueCandidate} {issueKey : String}
    (h : Dict.get? (issueMap candidates) issueKey = some candidate) :
    candidate ∈ candidates ∧ candidate.issueKey = issueKey := by
  obtain ⟨other, hother, heq⟩ := List.mem_map.mp (Dict.mem_ofItems (Dict.mem_of_get? h))
  obtain ⟨rfl, rfl⟩ := Prod.mk.inj heq
  exact ⟨hother, rfl⟩

theorem mem_keys_issueMap {candidates : List IssueCandidate} {issueKey : String} :
    issueKey ∈ (issueMap candidates).map Prod.fst ↔
      ∃ candidate ∈ candidates, candidate.issueKey = issueKey := by
  rw [issueMap, Dict.mem_keys_ofItems, List.map_map, List.mem_map]
  rfl

/-- New issues that are not about missing data keep the gate closed. -/
def Quiet (issues : List SuitabilityIssue) : Prop :=
  ∀ issue ∈ issues, issue.statusChange = .new → issue.severity = .low

/-- If no new issue keeps the gate closed, then what is exceeded after was so before. -/
theorem before_of_quiet (hquiet : Quiet (computeSuitabilityResult upper before after shelf options
      portfolioSnapshotId marketDataSnapshotId evidenceAsOf proposedTrades policyContext).issues)
    (hkey : ¬ key.DataQuality)
    (h : ∃ candidate ∈ scanAfter upper before after shelf options proposedTrades policyContext,
      candidate.issueKey = key.text) :
    key.Raised options (shelfIndex shelf) before before := by
  have hafter := mem_keys_issueMap.mpr h
  have hbefore : key.text ∈ (issueMap (scanBefore before shelf options)).map Prod.fst := by
    by_contra hnew
    have hnone := Dict.get?_eq_none.mpr hnew
    cases hget : Dict.get? (issueMap (scanAfter upper before after shelf options proposedTrades
        policyContext)) key.text with
    | none => exact Dict.get?_eq_none.mp hget hafter
    | some candidate =>
      obtain ⟨hmem, hcandidate⟩ := get?_issueMap_eq_some hget
      obtain ⟨other, hexplained⟩ := exists_explained_of_after hmem
      have heq : key = other :=
        IssueKey.eq_of_text (hcandidate.symm.trans hexplained.issueKey) hkey
      have hlow := hquiet (buildSuitabilityIssue
        (suitabilityEvidence portfolioSnapshotId marketDataSnapshotId evidenceAsOf) .new candidate) (by
          refine (List.mem_insertionSort _).mpr (List.mem_filterMap.mpr ⟨key.text, ?_, ?_⟩)
          · rw [List.mem_dedup, List.map_append]
            exact List.mem_append_right _ hafter
          · rw [classifiedIssue, hget, hnone]) rfl
      exact hkey (heq ▸ hexplained.severity hlow)
  obtain ⟨candidate, hmem, hcandidate⟩ := mem_keys_issueMap.mp hbefore
  obtain ⟨other, hexplained⟩ := exists_explained_of_scan hmem
  obtain rfl : key = other := IssueKey.eq_of_text (hcandidate.symm.trans hexplained.issueKey) hkey
  exact hexplained.found

theorem countReasons_pos {issues : List SuitabilityIssue} {issue : SuitabilityIssue}
    {reason : GateReason} (h : issue ∈ issues) (hreason : newSuitabilityGateReason issue = some reason) :
    0 < countReasons (issues.filterMap newSuitabilityGateReason) reason.reasonCode :=
  List.countP_pos_iff.mpr ⟨reason, List.mem_filterMap.mpr ⟨issue, h, hreason⟩, decide_eq_true rfl⟩

/-- A gate that asks for no review has seen no new issue of medium or high severity. -/
theorem quiet_of_gate {status : ProposalStatus} {ruleResults : List RuleResult}
    {suitability : SuitabilityResult} {diagnostics : Option DiagnosticsData}
    {defaultRequiresClientConsent : Bool}
    (h : (evaluateGateDecision status ruleResults (some suitability) diagnostics options
        defaultRequiresClientConsent).gate ∈ [Gate.executionReady, .clientConsentRequired]) :
    Quiet suitability.issues := by
  have hsummary : (gateDecisionSummary ruleResults (some suitability)).newHighSuitabilityCount = 0 ∧
      (gateDecisionSummary ruleResults (some suitability)).newMediumSuitabilityCount = 0 := by
    unfold evaluateGateDecision resolveGateOutcome at h
    dsimp only at h
    split at h
    · exact absurd h (by decide)
    split at h
    · exact absurd h (by decide)
    split at h
    · exact absurd h (by decide)
    · omega
  intro issue hissue hnew
  cases hseverity : issue.severity with
  | low => rfl
  | high =>
    have hpos := countReasons_pos hissue (by rw [newSuitabilityGateReason, hnew, hseverity])
    exact absurd hsummary.1 hpos.ne'
  | medium =>
    have hpos := countReasons_pos hissue (by rw [newSuitabilityGateReason, hnew, hseverity])
    exact absurd hsummary.2 hpos.ne'

end Gate

section Breaches

open Weights

variable (options : EngineOptions) (shelf : List ShelfEntry) (before after : SimulatedState)
  (proposedTrades : List ProposedTrade)

/-- What the instruments of an issuer weigh together. -/
def issuerExposure (state : SimulatedState) (issuerId : String) : ℚ :=
  weightWhere (weightRows state) fun instrumentId =>
    ∃ entry ∈ shelf, entry.instrumentId = instrumentId ∧ entry.issuerId = some issuerId

/-- What the instruments of a liquidity tier weigh together. -/
def tierExposure (state : SimulatedState) (tier : LiquidityTier) : ℚ :=
  weightWhere (weightRows state) fun instrumentId =>
    ∃ entry ∈ shelf, entry.instrumentId = instrumentId ∧ entry.liquidityTier = some tier

/-- No limit is exceeded that was kept before, and nothing is bought that cannot be. -/
structure NoNewBreach : Prop where
  instruments : ∀ instrumentId,
    options.suitabilityThresholds.singlePositionMaxWeight + epsilon <
        Weights.weightOf (weightRows after) instrumentId →
      options.suitabilityThresholds.singlePositionMaxWeight + epsilon <
        Weights.weightOf (weightRows before) instrumentId
  issuers : ∀ issuerId, issuerId ≠ "" →
    options.suitabilityThresholds.issuerMaxWeight + epsilon < issuerExposure shelf after issuerId →
      options.suitabilityThresholds.issuerMaxWeight + epsilon < issuerExposure shelf before issuerId
  tiers : ∀ tier cap,
    Dict.get? options.suitabilityThresholds.maxWeightByLiquidityTier tier = some cap →
      cap + epsilon < tierExposure shelf after tier → cap + epsilon < tierExposure shelf before tier
  present : ∀ entry ∈ shelf, entry.status = .banned ∨ entry.status = .suspended →
    epsilon < Weights.weightOf (weightRows after) entry.instrumentId →
      epsilon < Weights.weightOf (weightRows before) entry.instrumentId
  increased : ∀ entry ∈ shelf, entry.status = .sellOnly ∨ entry.status = .restricted →
    Weights.weightOf (weightRows after) entry.instrumentId ≤
      Weights.weightOf (weightRows before) entry.instrumentId + epsilon
  bought : ∀ trade ∈ proposedTrades, trade.side = .buy →
    ∀ entry ∈ shelf, entry.instrumentId = trade.instrumentId →
      entry.status ≠ .sellOnly ∧ entry.status ≠ .restricted

/-- An instrument without a name is not bought where that is restricted. -/
def NamelessFree : Prop :=
  ∀ trade ∈ proposedTrades, trade.side = .buy → trade.instrumentId = "" →
    ∀ entry ∈ shelf, entry.instrumentId = "" →
      entry.status ≠ .sellOnly ∧ entry.status ≠ .restricted

instance : Decidable (NamelessFree shelf proposedTrades) := by
  unfold NamelessFree
  infer_instance

variable {options shelf before after proposedTrades} {upper : String → String}
  {portfolioSnapshotId marketDataSnapshotId : String} {evidenceAsOf : Option String}
  {policyContext : Option JsonObject}

/-- A buy of what can only be sold, or is restricted, is an issue. -/
theorem exists_issue_of_bought (hshelf : (shelf.map ShelfEntry.instrumentId).Nodup)
    {trade : ProposedTrade} (htrade : trade ∈ proposedTrades) (hside : trade.side = .buy)
    (hname : trade.instrumentId ≠ "") {entry : ShelfEntry} (hentry : entry ∈ shelf)
    (heq : entry.instrumentId = trade.instrumentId)
    (hstatus : entry.status = .sellOnly ∨ entry.status = .restricted) :
    ∃ candidate ∈ scanAfter upper before after shelf options proposedTrades policyContext,
      candidate.issueKey = (IssueKey.governance trade.instrumentId entry.status).text := by
  have hget := (get?_shelfIndex_iff hshelf).mpr ⟨hentry, heq⟩
  have hbuy : trade.instrumentId ∈ buyInstrumentIds proposedTrades :=
    List.mem_map.mpr ⟨trade, List.mem_filter.mpr ⟨htrade, decide_eq_true ⟨hside, hname⟩⟩, rfl⟩
  obtain ⟨candidate, hcandidate⟩ : ∃ candidate, governanceTradeAttemptIssue options.allowRestricted
      before after trade.instrumentId entry.status = some candidate := by
    rcases hstatus with h | h
    · rw [h]
      exact ⟨_, rfl⟩
    · rw [h]
      exact ⟨_, rfl⟩
  refine ⟨candidate, List.mem_append_right _ (List.mem_append_left _ (List.mem_filterMap.mpr
    ⟨trade.instrumentId, hbuy, ?_⟩)), (explained_tradeAttempt hcandidate).1⟩
  rw [hget]
  exact hcandidate

/-- Without new issues there is no new breach, where the weights of both states are read right. -/
theorem noNewBreach_of_quiet (hshelf : (shelf.map ShelfEntry.instrumentId).Nodup)
    (hbefore : RowsCounted before) (hafter : RowsCounted after)
    (hnamed : NamelessFree shelf proposedTrades)
    (hquiet : Quiet (computeSuitabilityResult upper before after shelf options portfolioSnapshotId
      marketDataSnapshotId evidenceAsOf proposedTrades policyContext).issues) :
    NoNewBreach options shelf before after proposedTrades := by
  have hpersists : ∀ key : IssueKey, key.Limit → ¬ key.DataQuality →
      key.Raised options (shelfIndex shelf) before after →
        key.Raised options (shelfIndex shelf) before before := by
    intro key hlimit hkey hraised
    obtain ⟨candidate, hmem, hcandidate⟩ := exists_issue_of_raised hlimit hraised
    exact before_of_quiet hquiet hkey ⟨candidate, List.mem_append_left _ hmem, hcandidate⟩
  have hissuer : ∀ {state}, RowsCounted state → ∀ issuerId, issuerId ≠ "" →
      (Dict.get? (issuerWeights (shelfIndex shelf) state) issuerId).getD 0 =
        issuerExposure shelf state issuerId := by
    intro state hcounted issuerId hne
    rw [issuerWeights, aggregate_eq issuerBucket hcounted hshelf, issuerExposure]
    refine weightWhere_iff _ fun instrumentId => exists_congr fun entry => ?_
    have hbucket : issuerBucket entry = some issuerId ↔ entry.issuerId = some issuerId := by
      rw [issuerBucket, Option.filter_eq_some_iff]
      simp [hne]
    rw [hbucket]
  have hincreased : ∀ entry ∈ shelf, entry.status = .sellOnly ∨ entry.status = .restricted →
      ¬ (IssueKey.governance entry.instrumentId entry.status).Raised options (shelfIndex shelf)
        before before := by
    rintro entry - hstatus ⟨-, -, -, hbreached⟩
    have hepsilon : 0 < epsilon := by decide +kernel
    rcases hstatus with h | h <;>
      · rw [h] at hbreached
        exact absurd hbreached (not_lt.mpr (le_add_of_nonneg_right hepsilon.le))
  have hkey : ∀ id status, ¬ (IssueKey.governance id status).DataQuality := by
    intro id status
    simp [IssueKey.DataQuality, IssueKey.family]
  refine ⟨?_, ?_, ?_, ?_, ?_, ?_⟩
  · intro instrumentId h
    rw [← instrumentWeight_eq hafter] at h
    rw [← instrumentWeight_eq hbefore]
    exact hpersists (.singlePosition instrumentId) trivial
      (by simp [IssueKey.DataQuality, IssueKey.family]) h
  · intro issuerId hne h
    rw [← hissuer hafter issuerId hne] at h
    rw [← hissuer hbefore issuerId hne]
    exact hpersists (.issuer issuerId) trivial (by simp [IssueKey.DataQuality, IssueKey.family]) h
  · intro tier cap hcap h
    have hliquidity : ∀ {state}, RowsCounted state →
        liquidityWeight (shelfIndex shelf) state tier = tierExposure shelf state tier :=
      fun hcounted => aggregate_eq ShelfEntry.liquidityTier hcounted hshelf tier
    obtain ⟨cap', hcap', hexceeds⟩ := hpersists (.liquidity tier) trivial
      (by simp [IssueKey.DataQuality, IssueKey.family])
      ⟨cap, hcap, by rw [hliquidity hafter]; exact h⟩
    obtain rfl := Option.some.inj (hcap.symm.trans hcap')
    rw [← hliquidity hbefore]
    exact hexceeds
  · intro entry hentry hstatus h
    have hget := (get?_shelfIndex_iff hshelf).mpr ⟨hentry, rfl⟩
    rw [← instrumentWeight_eq hafter] at h
    rw [← instrumentWeight_eq hbefore]
    obtain ⟨-, -, -, hbreached⟩ := hpersists (.governance entry.instrumentId entry.status) trivial
      (hkey _ _) ⟨entry, hget, rfl, by rcases hstatus with hs | hs <;> rw [hs] <;> exact h⟩
    rcases hstatus with hs | hs <;>
      · rw [hs] at hbreached
        exact hbreached
  · intro entry hentry hstatus
    have hget := (get?_shelfIndex_iff hshelf).mpr ⟨hentry, rfl⟩
    by_contra hmore
    rw [not_le, ← instrumentWeight_eq hafter, ← instrumentWeight_eq hbefore] at hmore
    refine hincreased entry hentry hstatus (hpersists _ trivial (hkey _ _) ⟨entry, hget, rfl, ?_⟩)
    rcases hstatus with hs | hs <;> rw [hs] <;> exact hmore
  · intro trade htrade hside entry hentry heq
    by_cases hname : trade.instrumentId = ""
    · exact hnamed trade htrade hside hname entry hentry (heq.trans hname)
    · by_contra hstatus
      rw [not_and_or, not_not, not_not] at hstatus
      refine hincreased entry hentry hstatus (before_of_quiet hquiet (hkey _ _) ?_)
      rw [heq]
      exact exists_issue_of_bought hshelf htrade hside hname hentry heq hstatus

/-- What the gate lets through without a review is no new breach. -/
theorem gate_admits_no_new_breach (status : ProposalStatus) (ruleResults : List RuleResult)
    (diagnostics : Option DiagnosticsData) (defaultRequiresClientConsent : Bool)
    (hshelf : (shelf.map ShelfEntry.instrumentId).Nodup)
    (hbefore : RowsCounted before) (hafter : RowsCounted after)
    (hnamed : NamelessFree shelf proposedTrades)
    (hgate : (evaluateGateDecision status ruleResults (some (computeSuitabilityResult upper before
      after shelf options portfolioSnapshotId marketDataSnapshotId evidenceAsOf proposedTrades
      policyContext)) diagnostics options defaultRequiresClientConsent).gate ∈
        [Gate.executionReady, .clientConsentRequired]) :
    NoNewBreach options shelf before after proposedTrades :=
  noNewBreach_of_quiet hshelf hbefore hafter hnamed (quiet_of_gate hgate)

end Breaches

namespace SplitHoldingSample

def shelf : List ShelfEntry := [
  { instrumentId := "BOND", status := .approved, issuerId := some "I1", liquidityTier := some .l1 },
  { instrumentId := "FUND", status := .approved, issuerId := some "I2", liquidityTier := some .l1 }]

/-- Eight units of a fund are bought, of which some are held already. -/
def request (funds : List Position) : ProposalSimulateRequest where
  portfolioSnapshot := {
    baseCurrency := "USD"
    positions := { instrumentId := "BOND", quantity := 80 } :: funds
    cashBalances := [⟨"USD", 12⟩] }
  marketDataSnapshot := {
    prices := [⟨"BOND", 1, "USD"⟩, ⟨"FUND", 1, "USD"⟩]
    fxRates := [] }
  shelfEntries := shelf
  options := {}
  proposedCashFlows := []
  proposedTrades := [⟨.buy, "FUND", .quantity 8 (by norm_num)⟩]

/-- The gate of the simulation. -/
def gate (funds : List Position) : Gate :=
  (evaluateGateDecision (runProposalSimulation (request funds)).status
    (runProposalSimulation (request funds)).ruleResults
    (some (computeSuitabilityResult id (runProposalSimulation (request funds)).before
      (runProposalSimulation (request funds)).afterSimulated shelf {} "pf" "md" none
      (request funds).proposedTrades none))
    (some (runProposalSimulation (request funds)).diagnostics) {} true).gate

/-- Four units each in two rows. -/
def splitFunds : List Position :=
  [{ instrumentId := "FUND", quantity := 4 }, { instrumentId := "FUND", quantity := 4 }]

/-- The fund goes from eight to sixteen per cent, and the checks read four. -/
theorem split_holding_hides_breach :
    (shelf.map ShelfEntry.instrumentId).Nodup ∧
      gate splitFunds = .clientConsentRequired ∧
      ¬ NoNewBreach {} shelf (runProposalSimulation (request splitFunds)).before
        (runProposalSimulation (request splitFunds)).afterSimulated
        (request splitFunds).proposedTrades := by
  refine ⟨by decide +kernel, by decide +kernel, fun h => ?_⟩
  exact absurd (h.instruments "FUND" (by decide +kernel)) (by decide +kernel)

theorem gate_admits_no_new_breach_single :
    gate [] = .clientConsentRequired ∧
      NoNewBreach {} shelf (runProposalSimulation (request [])).before
        (runProposalSimulation (request [])).afterSimulated (request []).proposedTrades := by
  have hgate : gate [] = .clientConsentRequired := by decide +kernel
  have hopen : gate [] ∈ [Gate.executionReady, .clientConsentRequired] :=
    List.mem_cons_of_mem _ (List.mem_singleton.mpr hgate)
  unfold gate at hopen
  exact ⟨hgate, gate_admits_no_new_breach _ _ _ _ (by decide +kernel)
    (rowsCounted_of_nodup (by decide +kernel) (by decide +kernel))
    (rowsCounted_of_nodup (by decide +kernel) (by decide +kernel)) (by decide +kernel) hopen⟩

end SplitHoldingSample

end LotusAdvise.Advisory

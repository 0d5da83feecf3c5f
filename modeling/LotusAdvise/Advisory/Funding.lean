import LotusAdvise.Advisory.Valuation
import LotusAdvise.Foundations.Text
import Mathlib.Data.List.Sort
import Mathlib.Algebra.Order.BigOperators.Group.List

/-! # Automatic funding

The currencies of the buys are funded one after another in the order of their names: what a
currency lacks is bought from the first candidate that has enough cash. The funding currency
trades change the portfolio at once, the buys only later.
-/

namespace LotusAdvise.Advisory

/-- The distinct texts of a list, sorted. -/
def sortedTexts (texts : List String) : List String :=
  texts.eraseDups.insertionSort fun a b => a ≤ b

structure FundingSelection where
  pair : String
  rate : ℚ
  fundingCurrency : String
  sellRequired : ℚ

structure FundingDeficit where
  currency : String
  deficit : ℚ

section Sources

variable (marketData : MarketDataSnapshot) (options : EngineOptions) (portfolio : PortfolioSnapshot)
  (diagnostics : DiagnosticsData) (targetCurrency : String) (fxNeeded : ℚ)

def recordMissingFxPair (pair : String) : DiagnosticsData :=
  let diagnostics :=
    if pair ∈ diagnostics.missingFxPairs then diagnostics
    else { diagnostics with missingFxPairs := diagnostics.missingFxPairs ++ [pair] }
  if pair ∈ diagnostics.dataQuality.fxMissing then diagnostics
  else diagnostics.recordFxMissing [pair]

def baseOnlyFundingCandidates (baseCurrency : String) : List String :=
  if baseCurrency = targetCurrency then [] else [baseCurrency]

def anyCashFundingCandidates (baseCurrency : String) (currencies : List String) : List String :=
  baseOnlyFundingCandidates targetCurrency baseCurrency ++ sortedTexts
    (currencies.filter fun currency => currency ≠ baseCurrency ∧ currency ≠ targetCurrency)

def fundingPriorityCurrencies : List String :=
  match options.fxFundingSourceCurrency with
  | .baseOnly => baseOnlyFundingCandidates targetCurrency portfolio.baseCurrency
  | .anyCash => anyCashFundingCandidates targetCurrency portfolio.baseCurrency
      (portfolio.cashBalances.map CashBalance.currency)

def smallerFundingDeficit (current : Option FundingDeficit) (candidate : FundingDeficit) :
    FundingDeficit :=
  match current with
  | none => candidate
  | some current => if candidate.deficit < current.deficit then candidate else current

/-- What a search for a source of funds ends with. -/
structure FundingSearch where
  selection : Option FundingSelection
  smallestDeficit : Option FundingDeficit
  portfolio : PortfolioSnapshot
  diagnostics : DiagnosticsData

/-- `select_funding_source`, from the given candidates on. -/
def selectFundingSource (smallestDeficit : Option FundingDeficit) (portfolio : PortfolioSnapshot)
    (diagnostics : DiagnosticsData) : List String → FundingSearch
  | [] => ⟨none, smallestDeficit, portfolio, diagnostics⟩
  | fundingCurrency :: candidates =>
    match getFxRate marketData targetCurrency fundingCurrency with
    | none => selectFundingSource smallestDeficit portfolio
        (recordMissingFxPair diagnostics (fxPair targetCurrency fundingCurrency)) candidates
    | some rate =>
      let sellRequired := quantizeAmountForCurrency (fxNeeded * rate) fundingCurrency
      let ensured := portfolio.ensureCashBalance fundingCurrency
      if sellRequired ≤ ensured.cash fundingCurrency then
        ⟨some ⟨fxPair targetCurrency fundingCurrency, rate, fundingCurrency, sellRequired⟩,
          smallestDeficit, ensured, diagnostics⟩
      else
        selectFundingSource (some (smallerFundingDeficit smallestDeficit
          ⟨fundingCurrency, sellRequired - ensured.cash fundingCurrency⟩)) ensured diagnostics
          candidates

end Sources

/-- The portfolio and the plan, while currencies are funded. -/
structure FundingState where
  portfolio : PortfolioSnapshot
  diagnostics : DiagnosticsData
  fxIntents : List FxSpotIntent := []
  fxByCurrency : Dict String String := []
  unfundedCurrencies : List String := []
  hardFailures : List String := []
  forcePendingReview : Bool := false

namespace FundingState

variable (options : EngineOptions) (s : FundingState)

def recordMissingFxFundingFailure : FundingState :=
  if options.blockOnMissingFx then
    { s with hardFailures := s.hardFailures ++ ["PROPOSAL_MISSING_FX_FOR_FUNDING"] }
  else
    { s with
      diagnostics := s.diagnostics.warnOnce "PROPOSAL_MISSING_FX_NON_BLOCKING"
      forcePendingReview := true }

/-- A currency that no source can fund; a pair that was missing before counts for it too. -/
def recordUnfundedTargetCurrency (targetCurrency : String) (smallestDeficit : Option FundingDeficit)
    (plan : FundingPlanEntry) : FundingState :=
  let s := { s with
    unfundedCurrencies := s.unfundedCurrencies ++ [targetCurrency]
    diagnostics := { s.diagnostics with fundingPlan := s.diagnostics.fundingPlan ++ [plan] } }
  if s.diagnostics.missingFxPairs ≠ [] then s.recordMissingFxFundingFailure options
  else
    { s with
      diagnostics := { s.diagnostics with
        insufficientCash := s.diagnostics.insufficientCash ++ smallestDeficit.toList.map fun deficit =>
          ⟨deficit.currency, quantizeAmountForCurrency deficit.deficit deficit.currency⟩ }
      hardFailures := s.hardFailures ++ ["PROPOSAL_INSUFFICIENT_FUNDING_CASH"] }

def fundingFxIntent (targetCurrency : String) (fxNeeded : ℚ) (selected : FundingSelection) :
    FxSpotIntent where
  intentId := "oi_fx_" ++ (s.fxIntents.length + 1).repr
  pair := selected.pair
  buyCurrency := targetCurrency
  buyAmount := quantizeAmountForCurrency fxNeeded targetCurrency
  sellCurrency := selected.fundingCurrency
  sellAmountEstimated := selected.sellRequired
  dependencies := []

def recordFundingFxIntent (targetCurrency : String) (fxNeeded : ℚ) (selected : FundingSelection)
    (plan : FundingPlanEntry) : FundingState :=
  let intent := s.fundingFxIntent targetCurrency fxNeeded selected
  { s with
    portfolio := applyFxSpotToPortfolio s.portfolio intent
    fxIntents := s.fxIntents ++ [intent]
    fxByCurrency := Dict.set s.fxByCurrency targetCurrency intent.intentId
    diagnostics := { s.diagnostics with
      fundingPlan := s.diagnostics.fundingPlan ++ [{ plan with
        fxPair := some selected.pair
        fundingCurrency := some selected.fundingCurrency }] } }

end FundingState

section Plan

variable (marketData : MarketDataSnapshot) (options : EngineOptions)

/-- What the buys of a currency require. -/
def requiredBy (buys : List SecurityTradeIntent) : ℚ :=
  (buys.map fun intent => intent.notional.amount).sum

def fundingPlanEntry (portfolio : PortfolioSnapshot) (targetCurrency : String) (required : ℚ) :
    FundingPlanEntry where
  targetCurrency := targetCurrency
  required := quantizeAmountForCurrency required targetCurrency
  availableBeforeFx := quantizeAmountForCurrency (portfolio.cash targetCurrency) targetCurrency
  fxNeeded := quantizeAmountForCurrency (max 0 (required - portfolio.cash targetCurrency))
    targetCurrency

def fundTargetCurrency (s : FundingState) (targetCurrency : String) (required : ℚ) : FundingState :=
  let portfolio := s.portfolio.ensureCashBalance targetCurrency
  let fxNeeded := max 0 (required - portfolio.cash targetCurrency)
  let plan := fundingPlanEntry portfolio targetCurrency required
  if fxNeeded ≤ 0 then
    { s with
      portfolio
      diagnostics := { s.diagnostics with fundingPlan := s.diagnostics.fundingPlan ++ [plan] } }
  else
    let search := selectFundingSource marketData targetCurrency fxNeeded none portfolio
      s.diagnostics (fundingPriorityCurrencies options portfolio targetCurrency)
    let s := { s with portfolio := search.portfolio, diagnostics := search.diagnostics }
    match search.selection with
    | none => s.recordUnfundedTargetCurrency options targetCurrency search.smallestDeficit plan
    | some selected => s.recordFundingFxIntent targetCurrency fxNeeded selected plan

def groupBuyIntentsByCurrency (buyIntents : List SecurityTradeIntent) :
    Dict String (List SecurityTradeIntent) :=
  Dict.groupBy (fun intent => intent.notional.currency) buyIntents

/-- The currencies of the buys with what each requires, in the order in which they are funded. -/
def fundingTargets (buyIntents : List SecurityTradeIntent) : List (String × ℚ) :=
  (sortedTexts ((groupBuyIntentsByCurrency buyIntents).map Prod.fst)).map fun currency =>
    (currency, requiredBy ((Dict.get? (groupBuyIntentsByCurrency buyIntents) currency).getD []))

def buildAutoFundingPlan (portfolio : PortfolioSnapshot) (buyIntents : List SecurityTradeIntent)
    (diagnostics : DiagnosticsData) : FundingState :=
  if options.autoFunding then
    (fundingTargets buyIntents).foldl
      (fun s target => fundTargetCurrency marketData options s target.1 target.2)
      { portfolio, diagnostics }
  else { portfolio, diagnostics }

end Plan

section Steps

variable {marketData : MarketDataSnapshot} {options : EngineOptions} {s s' : FundingState}
  {targetCurrency : String} {fxNeeded required : ℚ} {portfolio : PortfolioSnapshot}
  {diagnostics : DiagnosticsData} {candidates : List String}

/-- A source that has been selected is a candidate with enough cash at its rate. -/
structure FundingSelection.Funds (selected : FundingSelection) (marketData : MarketDataSnapshot)
    (portfolio : PortfolioSnapshot) (targetCurrency : String) (fxNeeded : ℚ) : Prop where
  pair : selected.pair = fxPair targetCurrency selected.fundingCurrency
  rate : getFxRate marketData targetCurrency selected.fundingCurrency = some selected.rate
  sellRequired : selected.sellRequired =
    quantizeAmountForCurrency (fxNeeded * selected.rate) selected.fundingCurrency
  available : selected.sellRequired ≤ portfolio.cash selected.fundingCurrency

theorem FundingSelection.Funds.of_same {selected : FundingSelection} {portfolio' : PortfolioSnapshot}
    (h : selected.Funds marketData portfolio' targetCurrency fxNeeded)
    (hsame : portfolio.SameRows portfolio') :
    selected.Funds marketData portfolio targetCurrency fxNeeded :=
  { h with available := by rw [← hsame.cash_eq]; exact h.available }

theorem selectFundingSource_spec (marketData : MarketDataSnapshot) (targetCurrency : String)
    (fxNeeded : ℚ) (smallestDeficit : Option FundingDeficit) (portfolio : PortfolioSnapshot)
    (diagnostics : DiagnosticsData) (candidates : List String) :
    portfolio.SameRows (selectFundingSource marketData targetCurrency fxNeeded smallestDeficit
        portfolio diagnostics candidates).portfolio ∧
      ∀ selected ∈ (selectFundingSource marketData targetCurrency fxNeeded smallestDeficit portfolio
          diagnostics candidates).selection,
        selected.fundingCurrency ∈ candidates ∧
          selected.Funds marketData portfolio targetCurrency fxNeeded := by
  induction candidates generalizing smallestDeficit portfolio diagnostics with
  | nil => exact ⟨.refl, fun _ h => by cases h⟩
  | cons fundingCurrency candidates ih =>
    unfold selectFundingSource
    split
    · obtain ⟨hsame, hfunds⟩ := ih smallestDeficit portfolio
        (recordMissingFxPair diagnostics (fxPair targetCurrency fundingCurrency))
      exact ⟨hsame, fun selected h => ⟨.tail _ (hfunds selected h).1, (hfunds selected h).2⟩⟩
    · next rate hrate =>
      dsimp only
      have hensured : portfolio.SameRows (portfolio.ensureCashBalance fundingCurrency) :=
        PortfolioSnapshot.sameRows_ensure fundingCurrency
      split
      · next havailable =>
        refine ⟨hensured, ?_⟩
        rintro selected ⟨⟩
        exact ⟨.head _, rfl, hrate, rfl, by rwa [hensured.cash_eq] at havailable⟩
      · obtain ⟨hsame, hfunds⟩ := ih (some (smallerFundingDeficit smallestDeficit
          ⟨fundingCurrency, _⟩)) (portfolio.ensureCashBalance fundingCurrency) diagnostics
        exact ⟨hensured.trans hsame, fun selected h =>
          ⟨.tail _ (hfunds selected h).1, (hfunds selected h).2.of_same hensured⟩⟩

theorem target_notMem_candidates :
    targetCurrency ∉ fundingPriorityCurrencies options portfolio targetCurrency := by
  have hbase : ∀ base, targetCurrency ∉ baseOnlyFundingCandidates targetCurrency base := by
    intro base hmem
    unfold baseOnlyFundingCandidates at hmem
    split at hmem
    · cases hmem
    · next hne => exact hne (List.mem_singleton.mp hmem).symm
  intro hmem
  unfold fundingPriorityCurrencies at hmem
  split at hmem
  · exact hbase _ hmem
  · rcases List.mem_append.mp hmem with h | h
    · exact hbase _ h
    · rw [sortedTexts, List.mem_insertionSort, List.mem_eraseDups, List.mem_filter] at h
      simp at h

/-- The source that a currency is funded from. -/
def FundingState.source (marketData : MarketDataSnapshot) (options : EngineOptions)
    (s : FundingState) (targetCurrency : String) (required : ℚ) : Option FundingSelection :=
  let portfolio := s.portfolio.ensureCashBalance targetCurrency
  (selectFundingSource marketData targetCurrency (required - s.portfolio.cash targetCurrency) none
    portfolio s.diagnostics (fundingPriorityCurrencies options portfolio targetCurrency)).selection

/-- Everything the funding of a currency can do. -/
inductive FundingState.Step (marketData : MarketDataSnapshot) (options : EngineOptions)
    (s : FundingState) (targetCurrency : String) (required : ℚ) (s' : FundingState) : Prop
  /-- There is enough cash already. -/
  | enough (enough : required ≤ s.portfolio.cash targetCurrency)
    (rows : s.portfolio.SameRows s'.portfolio) (fxIntents : s'.fxIntents = s.fxIntents)
    (fxByCurrency : s'.fxByCurrency = s.fxByCurrency)
    (unfunded : s'.unfundedCurrencies = s.unfundedCurrencies)
  /-- No candidate has enough. -/
  | unfunded (rows : s.portfolio.SameRows s'.portfolio) (fxIntents : s'.fxIntents = s.fxIntents)
    (fxByCurrency : s'.fxByCurrency = s.fxByCurrency)
    (unfunded : s'.unfundedCurrencies = s.unfundedCurrencies ++ [targetCurrency])
    (source : s.source marketData options targetCurrency required = none)
  /-- The currency is bought from a candidate. -/
  | bought (selected : FundingSelection) (intent : FxSpotIntent)
    (needed : s.portfolio.cash targetCurrency < required)
    (other : selected.fundingCurrency ≠ targetCurrency)
    (funds : selected.Funds marketData s.portfolio targetCurrency
      (required - s.portfolio.cash targetCurrency))
    (intent_eq : intent = s.fundingFxIntent targetCurrency
      (required - s.portfolio.cash targetCurrency) selected)
    (rows : (applyFxSpotToPortfolio s.portfolio intent).SameRows s'.portfolio)
    (fxIntents : s'.fxIntents = s.fxIntents ++ [intent])
    (fxByCurrency : s'.fxByCurrency = Dict.set s.fxByCurrency targetCurrency intent.intentId)
    (unfunded : s'.unfundedCurrencies = s.unfundedCurrencies)
    (source : s.source marketData options targetCurrency required = some selected)

theorem recordUnfunded_spec (options : EngineOptions) (s : FundingState) (targetCurrency : String)
    (deficit : Option FundingDeficit) (plan : FundingPlanEntry) :
    let s' := s.recordUnfundedTargetCurrency options targetCurrency deficit plan
    s'.portfolio = s.portfolio ∧ s'.fxIntents = s.fxIntents ∧ s'.fxByCurrency = s.fxByCurrency ∧
      s'.unfundedCurrencies = s.unfundedCurrencies ++ [targetCurrency] := by
  unfold FundingState.recordUnfundedTargetCurrency FundingState.recordMissingFxFundingFailure
  dsimp only
  split
  · split <;> exact ⟨rfl, rfl, rfl, rfl⟩
  · exact ⟨rfl, rfl, rfl, rfl⟩

theorem fundTargetCurrency_spec (marketData : MarketDataSnapshot) (options : EngineOptions)
    (s : FundingState) (targetCurrency : String) (required : ℚ) :
    s.Step marketData options targetCurrency required
      (fundTargetCurrency marketData options s targetCurrency required) := by
  have hensured : s.portfolio.SameRows (s.portfolio.ensureCashBalance targetCurrency) :=
    PortfolioSnapshot.sameRows_ensure targetCurrency
  unfold fundTargetCurrency
  dsimp only
  rw [hensured.cash_eq]
  split
  · next hle =>
    refine .enough ?_ hensured rfl rfl rfl
    have := (le_max_right _ _).trans hle
    linarith
  · next hlt =>
    have hneeded : max 0 (required - s.portfolio.cash targetCurrency) =
        required - s.portfolio.cash targetCurrency := by
      rw [max_eq_right]
      by_contra hneg
      exact hlt (max_le le_rfl (le_of_not_ge hneg))
    rw [hneeded] at hlt ⊢
    obtain ⟨hsame, hfunds⟩ := selectFundingSource_spec marketData targetCurrency
      (required - s.portfolio.cash targetCurrency) none
      (s.portfolio.ensureCashBalance targetCurrency) s.diagnostics (fundingPriorityCurrencies options
        (s.portfolio.ensureCashBalance targetCurrency) targetCurrency)
    split
    · next hnone =>
      obtain ⟨hportfolio, hintents, hids, hunfunded⟩ :=
        recordUnfunded_spec options _ targetCurrency _ _
      refine .unfunded ?_ hintents hids hunfunded hnone
      rw [hportfolio]
      exact hensured.trans hsame
    · next selected hselected =>
      obtain ⟨hcandidate, hfunds⟩ := hfunds selected hselected
      refine .bought selected _ (by linarith) ?_ (hfunds.of_same hensured) rfl ?_ rfl rfl rfl
        hselected
      · rintro rfl
        exact target_notMem_candidates hcandidate
      · exact (((hensured.trans hsame).addCash _ _).addCash _ _)

end Steps

end LotusAdvise.Advisory

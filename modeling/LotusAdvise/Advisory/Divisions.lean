import LotusAdvise.Advisory.Allocations
import LotusAdvise.Advisory.IntentPlan

/-! # Divisions

The valuation and the plan, as computations that a division by zero ends. The rates and the totals
that they divide by are never zero. A notional is divided by the price of its instrument, and a
price can be zero.
-/

namespace LotusAdvise.Advisory

inductive ArithmeticError where
  | divisionByZero
deriving DecidableEq

def divide (x y : ℚ) : Except ArithmeticError ℚ :=
  if y = 0 then .error .divisionByZero else .ok (x / y)

theorem divide_of_ne {x y : ℚ} (h : y ≠ 0) : divide x y = .ok (x / y) := if_neg h

theorem bind_of_ok {α β : Type} {x : Except ArithmeticError α} {f : α → Except ArithmeticError β}
    {a : α} {y : Except ArithmeticError β} (h : x = .ok a) (hf : f a = y) : (x >>= f) = y := by
  rw [h]
  exact hf

theorem bind_of_error {α β : Type} {x : Except ArithmeticError α} {f : α → Except ArithmeticError β}
    {error : ArithmeticError} (h : x = .error error) : (x >>= f) = .error error := by
  rw [h]
  rfl

theorem mapM_ok {α β : Type} {f : α → Except ArithmeticError β} {g : α → β} (as : List α)
    (h : ∀ a ∈ as, f a = .ok (g a)) : as.mapM f = .ok (as.map g) := by
  induction as with
  | nil => rfl
  | cons a as ih =>
    rw [List.forall_mem_cons] at h
    rw [List.mapM_cons, h.1, ih h.2]
    rfl

namespace Checked

section Valuation

variable (marketData : MarketDataSnapshot) (baseCcy : String)

def getFxRate (fromCcy toCcy : String) : Except ArithmeticError (Option ℚ) :=
  if fromCcy = toCcy then .ok (some 1)
  else
    match fxRateForPair marketData (fxPair fromCcy toCcy) with
    | some direct => .ok (some direct.rate)
    | none =>
      match fxRateForPair marketData (fxPair toCcy fromCcy) with
      | some inverse => (divide 1 inverse.rate).map some
      | none => .ok none

def convertedBaseValue (amount : ℚ) (currency : String) : Except ArithmeticError ℚ :=
  (getFxRate marketData currency baseCcy).map fun rate => amount * rate.getD 0

def markToMarketPositionValue (position : Position) : Except ArithmeticError PositionSummary :=
  let currency := ((priceFor marketData position.instrumentId).map Price.currency).getD baseCcy
  let instrumentValue := position.quantity * priceValue marketData position
  (convertedBaseValue marketData baseCcy instrumentValue currency).map fun baseValue =>
    { instrumentId := position.instrumentId
      quantity := position.quantity
      instrumentCurrency := currency
      price := (priceFor marketData position.instrumentId).map fun price =>
        ⟨price.price, currency⟩
      valueInInstrumentCcy := ⟨instrumentValue, currency⟩
      valueInBaseCcy := ⟨baseValue, baseCcy⟩ }

def trustSnapshotPositionValue (position : Position) (trusted : Money) :
    Except ArithmeticError PositionSummary :=
  let price? := priceFor marketData position.instrumentId
  let priceCurrency := (price?.map Price.currency).getD trusted.currency
  if trusted.currency = baseCcy ∧ priceCurrency ≠ baseCcy then
    .ok {
      instrumentId := position.instrumentId
      quantity := position.quantity
      instrumentCurrency := priceCurrency
      price := price?.map fun price => ⟨price.price, priceCurrency⟩
      valueInInstrumentCcy := ⟨position.quantity * priceValue marketData position, priceCurrency⟩
      valueInBaseCcy := ⟨trusted.amount, baseCcy⟩ }
  else
    (convertedBaseValue marketData baseCcy trusted.amount trusted.currency).map fun baseValue =>
      { instrumentId := position.instrumentId
        quantity := position.quantity
        instrumentCurrency := trusted.currency
        price := price?.map fun price => ⟨price.price, trusted.currency⟩
        valueInInstrumentCcy := trusted
        valueInBaseCcy := ⟨baseValue, baseCcy⟩ }

def valuePosition (mode : ValuationMode) (position : Position) :
    Except ArithmeticError PositionSummary :=
  match mode, position.marketValue with
  | .trustSnapshot, some trusted => trustSnapshotPositionValue marketData baseCcy position trusted
  | _, _ => markToMarketPositionValue marketData baseCcy position

/-- The position with its weight and with the asset class of the shelf. -/
def allocatePosition (shelf : List ShelfEntry) (totalValSafe : ℚ) (summary : PositionSummary) :
    Except ArithmeticError PositionSummary :=
  (divide summary.valueInBaseCcy.amount totalValSafe).map fun weight =>
    { summary with
      weight
      assetClass := ((firstShelfEntry shelf summary.instrumentId).map
        ShelfEntry.assetClass).getD summary.assetClass }

def allocationMetrics (totalValSafe : ℚ) (values : Dict String ℚ) :
    Except ArithmeticError (List AllocationMetric) :=
  values.mapM fun item => (divide item.2 totalValSafe).map fun weight =>
    { key := item.1, weight, value := ⟨item.2, baseCcy⟩ }

end Valuation

section States

variable (portfolio : PortfolioSnapshot) (marketData : MarketDataSnapshot) (shelf : List ShelfEntry)
  (mode : ValuationMode)

/-- The values of the asset classes of some positions and of cash. -/
def classValues (positions : List PositionSummary) (totalCashVal : ℚ) : Dict String ℚ :=
  let classes := positions.foldl (fun classes summary => Dict.set classes summary.assetClass
    ((Dict.get? classes summary.assetClass).getD 0 + summary.valueInBaseCcy.amount)) []
  Dict.set classes "CASH" ((Dict.get? classes "CASH").getD 0 + totalCashVal)

/-- `build_simulated_state`, with the allocations by attribute. -/
def buildSimulatedState :
    Except ArithmeticError (SimulatedState × Dict String (List AllocationMetric)) := do
  let summaries ← portfolio.positions.mapM
    (valuePosition marketData portfolio.baseCurrency mode)
  let cashValues ← portfolio.cashBalances.mapM fun cash =>
    convertedBaseValue marketData portfolio.baseCurrency cash.amount cash.currency
  let totalVal := (summaries.map fun summary => summary.valueInBaseCcy.amount).sum + cashValues.sum
  let positions ← summaries.mapM (allocatePosition shelf (safeTotalValue totalVal))
  let byAssetClass ← allocationMetrics portfolio.baseCurrency (safeTotalValue totalVal)
    (classValues positions cashValues.sum)
  let byAttribute ← (positions.foldl (applyShelfAllocationAttributes shelf) []).mapM fun values =>
    (allocationMetrics portfolio.baseCurrency (safeTotalValue totalVal) values.2).map fun metrics =>
      (values.1, metrics)
  return ({
    totalValue := ⟨totalVal, portfolio.baseCurrency⟩
    cashBalances := portfolio.cashBalances
    positions
    allocationByAssetClass := byAssetClass
    allocationByInstrument := positions.map fun summary =>
      { key := summary.instrumentId
        weight := summary.weight
        value := summary.valueInBaseCcy } }, byAttribute)

end States

section Trades

variable (marketData : MarketDataSnapshot) (shelf : List ShelfEntry) (options : EngineOptions)
  (baseCurrency : String)

def resolveTradeNotional (trade : ProposedTrade) (price : Price) :
    Except ArithmeticError (Option (ℚ × ℚ)) :=
  match trade.size with
  | .quantity quantity _ => .ok (some (quantity, quantity * price.price))
  | .notional notional _ =>
    if notional.currency ≠ price.currency then .ok none
    else (divide notional.amount price.price).map fun quantity => some (quantity, notional.amount)

def buildSupportedSecurityTradeIntent (trade : ProposedTrade) (intentId : String) (s : PlanState) :
    Except ArithmeticError (Option SecurityTradeIntent × PlanState) :=
  match priceFor marketData trade.instrumentId with
  | none =>
    .ok (none, { s with diagnostics := s.diagnostics.recordPriceMissing [trade.instrumentId] })
  | some price => (resolveTradeNotional trade price).bind fun resolved =>
    match resolved with
    | none => .ok (none, s.fail "PROPOSAL_INVALID_TRADE_INPUT")
    | some (quantity, amount) =>
      (getFxRate marketData price.currency baseCurrency).map fun fxRate =>
        (some {
          intentId
          instrumentId := trade.instrumentId
          side := trade.side
          quantity
          notional := ⟨amount, price.currency⟩
          notionalBase := fxRate.map fun rate => ⟨amount * rate, baseCurrency⟩
          dependencies := [] },
        { s with
          diagnostics := s.diagnostics.recordFxMissing
            (if fxRate.isNone then [fxPair price.currency baseCurrency] else []) })

def securityTradeIntentForTrade (trade : ProposedTrade) (intentId : String) (s : PlanState) :
    Except ArithmeticError (Option SecurityTradeIntent × PlanState) :=
  match shelfByInstrument shelf trade.instrumentId with
  | none =>
    .ok (none, { s with diagnostics := s.diagnostics.recordShelfMissing trade.instrumentId })
  | some entry =>
    if isSupportedByShelf options trade entry then
      buildSupportedSecurityTradeIntent marketData baseCurrency trade intentId s
    else .ok (none, s.fail "PROPOSAL_TRADE_NOT_SUPPORTED_BY_SHELF")

def buildSecurityTradeIntents : ℕ → List ProposedTrade → PlanState →
    Except ArithmeticError (List SecurityTradeIntent × PlanState)
  | _, [], s => .ok ([], s)
  | index, trade :: trades, s => do
    let built ← securityTradeIntentForTrade marketData shelf options baseCurrency trade
      ("oi_" ++ (index + 1).repr) s
    let rest ← buildSecurityTradeIntents (index + 1) trades built.2
    return (built.1.toList ++ rest.1, rest.2)

end Trades

section Funding

variable (marketData : MarketDataSnapshot) (options : EngineOptions)

def selectFundingSource (targetCurrency : String) (fxNeeded : ℚ)
    (smallestDeficit : Option FundingDeficit) (portfolio : PortfolioSnapshot)
    (diagnostics : DiagnosticsData) : List String → Except ArithmeticError FundingSearch
  | [] => .ok ⟨none, smallestDeficit, portfolio, diagnostics⟩
  | fundingCurrency :: candidates =>
    (getFxRate marketData targetCurrency fundingCurrency).bind fun rate? =>
      match rate? with
      | none => selectFundingSource targetCurrency fxNeeded smallestDeficit portfolio
          (recordMissingFxPair diagnostics (fxPair targetCurrency fundingCurrency)) candidates
      | some rate =>
        let sellRequired := quantizeAmountForCurrency (fxNeeded * rate) fundingCurrency
        let ensured := portfolio.ensureCashBalance fundingCurrency
        if sellRequired ≤ ensured.cash fundingCurrency then
          .ok ⟨some ⟨fxPair targetCurrency fundingCurrency, rate, fundingCurrency, sellRequired⟩,
            smallestDeficit, ensured, diagnostics⟩
        else
          selectFundingSource targetCurrency fxNeeded (some (smallerFundingDeficit smallestDeficit
            ⟨fundingCurrency, sellRequired - ensured.cash fundingCurrency⟩)) ensured diagnostics
            candidates

def fundTargetCurrency (s : FundingState) (targetCurrency : String) (required : ℚ) :
    Except ArithmeticError FundingState :=
  let portfolio := s.portfolio.ensureCashBalance targetCurrency
  let fxNeeded := max 0 (required - portfolio.cash targetCurrency)
  let plan := fundingPlanEntry portfolio targetCurrency required
  if fxNeeded ≤ 0 then
    .ok { s with
      portfolio
      diagnostics := { s.diagnostics with fundingPlan := s.diagnostics.fundingPlan ++ [plan] } }
  else
    (selectFundingSource marketData targetCurrency fxNeeded none portfolio s.diagnostics
      (fundingPriorityCurrencies options portfolio targetCurrency)).map fun search =>
        let s := { s with portfolio := search.portfolio, diagnostics := search.diagnostics }
        match search.selection with
        | none => s.recordUnfundedTargetCurrency options targetCurrency search.smallestDeficit plan
        | some selected => s.recordFundingFxIntent targetCurrency fxNeeded selected plan

def buildAutoFundingPlan (portfolio : PortfolioSnapshot) (buyIntents : List SecurityTradeIntent)
    (diagnostics : DiagnosticsData) : Except ArithmeticError FundingState :=
  if options.autoFunding then
    (fundingTargets buyIntents).foldlM
      (fun s target => fundTargetCurrency marketData options s target.1 target.2)
      { portfolio, diagnostics }
  else .ok { portfolio, diagnostics }

end Funding

section Plan

variable (request : ProposalSimulateRequest) (diagnostics : DiagnosticsData)

def buildSimulationIntentPlan : Except ArithmeticError SimulationIntentPlan := do
  let trades ← buildSecurityTradeIntents request.marketDataSnapshot request.shelfEntries
    request.options request.portfolioSnapshot.baseCurrency 0 request.proposedTrades
    (planAfterCashFlows request diagnostics)
  let sells := sortedSecurityIntentsByInstrument trades.1 .sell
  let buys := sortedSecurityIntentsByInstrument trades.1 .buy
  let funding ← buildAutoFundingPlan request.marketDataSnapshot request.options
    (applySellIntents trades.2.portfolio sells) buys trades.2.diagnostics
  let after := applyExecutableBuyIntents funding.unfundedCurrencies
    { portfolio := funding.portfolio
      diagnostics := funding.diagnostics
      hardFailures := trades.2.hardFailures ++ funding.hardFailures } buys
  let linked := (executableBuyIntents funding.unfundedCurrencies buys).map
    (linkBuyIntent funding.fxByCurrency sells
      (request.options.linkBuyToSameCurrencySellDependency.getD false))
  return {
    afterPortfolio := after.portfolio
    intents := orderedExecutionIntents (buildCashFlowIntents request.proposedCashFlows) sells
      funding.fxIntents linked
    hardFailures := after.hardFailures
    forcePendingReview := funding.forcePendingReview
    diagnostics := after.diagnostics }

end Plan

end Checked

section Guards

variable (marketData : MarketDataSnapshot) (baseCcy : String) (shelf : List ShelfEntry)
  (mode : ValuationMode)

/-- An inverse rate divides by a rate, which is positive. -/
theorem checked_getFxRate (fromCcy toCcy : String) :
    Checked.getFxRate marketData fromCcy toCcy = .ok (getFxRate marketData fromCcy toCcy) := by
  unfold Checked.getFxRate getFxRate
  split
  · rfl
  · cases fxRateForPair marketData (fxPair fromCcy toCcy) with
    | some direct => rfl
    | none =>
      cases fxRateForPair marketData (fxPair toCcy fromCcy) with
      | none => rfl
      | some inverse =>
        dsimp only
        rw [divide_of_ne inverse.positive.ne']
        rfl

theorem checked_convertedBaseValue (amount : ℚ) (currency : String) :
    Checked.convertedBaseValue marketData baseCcy amount currency =
      .ok (convertedBaseValue marketData baseCcy amount currency) := by
  rw [Checked.convertedBaseValue, checked_getFxRate]
  rfl

theorem checked_valuePosition (position : Position) :
    Checked.valuePosition marketData baseCcy mode position =
      .ok (valuePosition marketData baseCcy mode position) := by
  have hmark : Checked.markToMarketPositionValue marketData baseCcy position =
      .ok (markToMarketPositionValue marketData baseCcy position) := by
    unfold Checked.markToMarketPositionValue
    dsimp only
    rw [checked_convertedBaseValue]
    rfl
  have htrust : ∀ trusted, Checked.trustSnapshotPositionValue marketData baseCcy position trusted =
      .ok (trustSnapshotPositionValue marketData baseCcy position trusted) := by
    intro trusted
    unfold Checked.trustSnapshotPositionValue trustSnapshotPositionValue
    dsimp only
    rw [checked_convertedBaseValue]
    split <;> rfl
  unfold Checked.valuePosition valuePosition
  cases mode with
  | calculated => exact hmark
  | trustSnapshot =>
    cases position.marketValue with
    | none => exact hmark
    | some trusted => exact htrust trusted

/-- A total that is zero is not divided by. -/
theorem safeTotalValue_ne (value : ℚ) : safeTotalValue value ≠ 0 := by
  unfold safeTotalValue
  split
  · exact one_ne_zero
  · assumption

theorem checked_allocationMetrics (total : ℚ) (values : Dict String ℚ) :
    Checked.allocationMetrics baseCcy (safeTotalValue total) values = .ok (values.map fun item =>
      { key := item.1, weight := item.2 / safeTotalValue total, value := ⟨item.2, baseCcy⟩ }) := by
  apply mapM_ok
  intro item _
  rw [divide_of_ne (safeTotalValue_ne total)]
  rfl

theorem checked_allocatePosition (total : ℚ) (summary : PositionSummary) :
    Checked.allocatePosition shelf (safeTotalValue total) summary = .ok { summary with
      weight := summary.valueInBaseCcy.amount / safeTotalValue total
      assetClass := ((firstShelfEntry shelf summary.instrumentId).map
        ShelfEntry.assetClass).getD summary.assetClass } := by
  rw [Checked.allocatePosition, divide_of_ne (safeTotalValue_ne total)]
  rfl

/-- The valuation of a portfolio never divides by zero. -/
theorem checked_buildSimulatedState (portfolio : PortfolioSnapshot) :
    Checked.buildSimulatedState portfolio marketData shelf mode =
      .ok (buildSimulatedState portfolio marketData shelf mode,
        allocationByAttribute portfolio marketData shelf mode) := by
  have hsummaries := mapM_ok portfolio.positions fun position _ =>
    checked_valuePosition marketData portfolio.baseCurrency mode position
  have hcash := mapM_ok portfolio.cashBalances fun cash _ =>
    checked_convertedBaseValue marketData portfolio.baseCurrency cash.amount cash.currency
  have hpositions := fun total => mapM_ok (positionSummaries portfolio marketData mode)
    fun summary _ => checked_allocatePosition shelf total summary
  have hattributes := fun total => mapM_ok (attributeValues portfolio marketData shelf mode)
    (f := fun values => (Checked.allocationMetrics portfolio.baseCurrency (safeTotalValue total)
      values.2).map fun metrics => (values.1, metrics))
    fun values _ => congrArg (Except.map _)
      (checked_allocationMetrics portfolio.baseCurrency total values.2)
  refine bind_of_ok hsummaries ?_
  refine bind_of_ok hcash ?_
  refine bind_of_ok (hpositions _) ?_
  refine bind_of_ok (checked_allocationMetrics _ _ _) ?_
  refine bind_of_ok (hattributes _) ?_
  rfl

theorem checked_selectFundingSource (targetCurrency : String) (fxNeeded : ℚ)
    (smallestDeficit : Option FundingDeficit) (portfolio : PortfolioSnapshot)
    (diagnostics : DiagnosticsData) (candidates : List String) :
    Checked.selectFundingSource marketData targetCurrency fxNeeded smallestDeficit portfolio
        diagnostics candidates =
      .ok (selectFundingSource marketData targetCurrency fxNeeded smallestDeficit portfolio
        diagnostics candidates) := by
  induction candidates generalizing smallestDeficit portfolio diagnostics with
  | nil => rfl
  | cons fundingCurrency candidates ih =>
    rw [Checked.selectFundingSource, checked_getFxRate, selectFundingSource]
    cases getFxRate marketData targetCurrency fundingCurrency with
    | none => exact ih _ _ _
    | some rate =>
      dsimp only [Except.bind]
      split
      · rfl
      · exact ih _ _ _

theorem checked_fundTargetCurrency (options : EngineOptions) (s : FundingState)
    (targetCurrency : String) (required : ℚ) :
    Checked.fundTargetCurrency marketData options s targetCurrency required =
      .ok (fundTargetCurrency marketData options s targetCurrency required) := by
  unfold Checked.fundTargetCurrency fundTargetCurrency
  dsimp only
  rw [checked_selectFundingSource]
  split <;> rfl

/-- The funding of the buys never divides by zero. -/
theorem checked_buildAutoFundingPlan (options : EngineOptions) (portfolio : PortfolioSnapshot)
    (buyIntents : List SecurityTradeIntent) (diagnostics : DiagnosticsData) :
    Checked.buildAutoFundingPlan marketData options portfolio buyIntents diagnostics =
      .ok (buildAutoFundingPlan marketData options portfolio buyIntents diagnostics) := by
  have hfold : ∀ (targets : List (String × ℚ)) (s : FundingState),
      targets.foldlM (fun s target =>
          Checked.fundTargetCurrency marketData options s target.1 target.2) s =
        .ok (targets.foldl (fun s target =>
          fundTargetCurrency marketData options s target.1 target.2) s) := by
    intro targets
    induction targets with
    | nil => exact fun _ => rfl
    | cons target targets ih =>
      intro s
      rw [List.foldlM_cons, checked_fundTargetCurrency]
      exact ih _
  unfold Checked.buildAutoFundingPlan buildAutoFundingPlan
  split
  · exact hfold _ _
  · rfl

end Guards

section Sizes

variable (request : ProposalSimulateRequest)

/-- The price that the notional of a trade is divided by: the shelf supports the trade, and its
notional is in the currency of the price. -/
def notionalDivisor (trade : ProposedTrade) : Option ℚ :=
  match shelfByInstrument request.shelfEntries trade.instrumentId,
      priceFor request.marketDataSnapshot trade.instrumentId, trade.size with
  | some entry, some price, .notional notional _ =>
    if isSupportedByShelf request.options trade entry ∧ notional.currency = price.currency then
      some price.price
    else none
  | _, _, _ => none

/-- No notional is divided by a price of zero. -/
def NotionalsHavePrices : Prop :=
  ∀ trade ∈ request.proposedTrades, notionalDivisor request trade ≠ some 0

variable {request}

/-- A trade divides by zero exactly when its notional is divided by a price of zero. -/
theorem checked_securityTradeIntentForTrade (trade : ProposedTrade) (intentId : String)
    (s : PlanState) :
    Checked.securityTradeIntentForTrade request.marketDataSnapshot request.shelfEntries
        request.options request.portfolioSnapshot.baseCurrency trade intentId s =
      if notionalDivisor request trade = some 0 then .error .divisionByZero
      else .ok (securityTradeIntentForTrade request.marketDataSnapshot request.shelfEntries
        request.options request.portfolioSnapshot.baseCurrency trade intentId s) := by
  unfold Checked.securityTradeIntentForTrade securityTradeIntentForTrade notionalDivisor
  cases shelfByInstrument request.shelfEntries trade.instrumentId with
  | none => rfl
  | some entry =>
    dsimp only
    by_cases hsupported : isSupportedByShelf request.options trade entry = true
    · rw [if_pos hsupported, if_pos hsupported]
      unfold Checked.buildSupportedSecurityTradeIntent buildSupportedSecurityTradeIntent
      cases priceFor request.marketDataSnapshot trade.instrumentId with
      | none => rfl
      | some price =>
        dsimp only
        unfold Checked.resolveTradeNotional resolveTradeNotional
        cases trade.size with
        | quantity quantity _ =>
          dsimp only [Except.bind]
          rw [checked_getFxRate, if_neg (by simp)]
          rfl
        | notional notional _ =>
          dsimp only
          by_cases hcurrency : notional.currency = price.currency
          · have hdivides : isSupportedByShelf request.options trade entry = true ∧
                notional.currency = price.currency := ⟨hsupported, hcurrency⟩
            rw [if_neg (not_not.mpr hcurrency), if_neg (not_not.mpr hcurrency)]
            simp only [if_pos hdivides]
            by_cases hprice : price.price = 0
            · have hzero : some price.price = some 0 := congrArg some hprice
              rw [divide, if_pos hprice, if_pos hzero]
              rfl
            · have hnonzero : some price.price ≠ some 0 := fun h => hprice (Option.some.inj h)
              rw [divide_of_ne hprice, if_neg hnonzero]
              dsimp only [Except.map, Except.bind]
              rw [checked_getFxRate]
          · have hother : ¬ (isSupportedByShelf request.options trade entry = true ∧
                notional.currency = price.currency) := fun h => hcurrency h.2
            rw [if_pos hcurrency, if_pos hcurrency]
            simp only [if_neg hother]
            rfl
    · rw [if_neg hsupported, if_neg hsupported, if_neg]
      cases priceFor request.marketDataSnapshot trade.instrumentId <;> cases trade.size <;>
        simp [hsupported]

theorem checked_buildSecurityTradeIntents (trades : List ProposedTrade) (index : ℕ)
    (s : PlanState) :
    Checked.buildSecurityTradeIntents request.marketDataSnapshot request.shelfEntries request.options
        request.portfolioSnapshot.baseCurrency index trades s =
      if ∃ trade ∈ trades, notionalDivisor request trade = some 0 then .error .divisionByZero
      else .ok (buildSecurityTradeIntents request.marketDataSnapshot request.shelfEntries
        request.options request.portfolioSnapshot.baseCurrency index trades s) := by
  induction trades generalizing index s with
  | nil => rw [if_neg (by simp)]; rfl
  | cons trade trades ih =>
    rw [Checked.buildSecurityTradeIntents, checked_securityTradeIntentForTrade]
    by_cases htrade : notionalDivisor request trade = some 0
    · have hzero : ∃ other ∈ trade :: trades, notionalDivisor request other = some 0 :=
        ⟨trade, List.mem_cons_self, htrade⟩
      rw [if_pos htrade, if_pos hzero]
      rfl
    · rw [if_neg htrade]
      refine bind_of_ok rfl ?_
      by_cases htrades : ∃ other ∈ trades, notionalDivisor request other = some 0
      · have hzero : ∃ other ∈ trade :: trades, notionalDivisor request other = some 0 := by
          obtain ⟨other, hother, hzero⟩ := htrades
          exact ⟨other, List.mem_cons_of_mem _ hother, hzero⟩
        rw [if_pos hzero]
        exact bind_of_error ((ih _ _).trans (if_pos htrades))
      · have hnone : ¬ ∃ other ∈ trade :: trades, notionalDivisor request other = some 0 := by
          rintro ⟨other, hother, hzero⟩
          rcases List.mem_cons.mp hother with rfl | hother
          · exact htrade hzero
          · exact htrades ⟨other, hother, hzero⟩
        rw [if_neg hnone]
        exact bind_of_ok ((ih _ _).trans (if_neg htrades)) rfl

theorem checked_buildSimulationIntentPlan (diagnostics : DiagnosticsData) :
    Checked.buildSimulationIntentPlan request diagnostics =
      if ∃ trade ∈ request.proposedTrades, notionalDivisor request trade = some 0 then
        .error .divisionByZero
      else .ok (buildSimulationIntentPlan request diagnostics) := by
  have htrades := @checked_buildSecurityTradeIntents request request.proposedTrades 0
    (planAfterCashFlows request diagnostics)
  split
  · next hzero =>
    rw [if_pos hzero] at htrades
    rw [Checked.buildSimulationIntentPlan, htrades]
    rfl
  · next hpositive =>
    rw [if_neg hpositive] at htrades
    refine bind_of_ok htrades ?_
    refine bind_of_ok (checked_buildAutoFundingPlan ..) ?_
    rfl

variable (request)

/-- For an accepted request no valuation divides by zero, and its plan does not exactly when no
notional is divided by a price of zero. -/
theorem no_division_by_zero_iff (diagnostics : DiagnosticsData) :
    ((∀ portfolio mode, Checked.buildSimulatedState portfolio request.marketDataSnapshot
        request.shelfEntries mode ≠ .error .divisionByZero) ∧
      Checked.buildSimulationIntentPlan request diagnostics ≠ .error .divisionByZero) ↔
    NotionalsHavePrices request := by
  have hstates : ∀ portfolio mode, Checked.buildSimulatedState portfolio request.marketDataSnapshot
      request.shelfEntries mode ≠ .error .divisionByZero := by
    intro portfolio mode
    rw [checked_buildSimulatedState]
    rintro ⟨⟩
  rw [and_iff_right hstates, checked_buildSimulationIntentPlan]
  constructor
  · intro h trade htrade hzero
    exact h (if_pos ⟨trade, htrade, hzero⟩)
  · intro h
    have hnone : ¬ ∃ trade ∈ request.proposedTrades, notionalDivisor request trade = some 0 := by
      rintro ⟨trade, htrade, hzero⟩
      exact h trade htrade hzero
    rw [if_neg hnone]
    rintro ⟨⟩

end Sizes

namespace UnpricedSample

/-- A thousand dollars buy a fund whose price is zero. -/
def request : ProposalSimulateRequest where
  portfolioSnapshot := { baseCurrency := "USD", positions := [], cashBalances := [⟨"USD", 2000⟩] }
  marketDataSnapshot := { prices := [⟨"FUND", 0, "USD"⟩], fxRates := [] }
  shelfEntries := [{ instrumentId := "FUND", status := .approved }]
  options := {}
  proposedCashFlows := []
  proposedTrades := [⟨.buy, "FUND", .notional ⟨1000, "USD"⟩ (by norm_num)⟩]

end UnpricedSample

open UnpricedSample in
theorem notional_divided_by_zero :
    ¬ ((∀ portfolio mode, Checked.buildSimulatedState portfolio request.marketDataSnapshot
        request.shelfEntries mode ≠ .error .divisionByZero) ∧
      Checked.buildSimulationIntentPlan request {} ≠ .error .divisionByZero) := by
  rintro ⟨-, h⟩
  exact h rfl

end LotusAdvise.Advisory

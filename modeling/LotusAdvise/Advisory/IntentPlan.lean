import LotusAdvise.Advisory.Funding

/-! # The plan of a proposal

The cash flows are applied first, then the sells and the currency trades that fund the buys,
and last the buys that are funded. The orders of the plan come out in that order.
-/

namespace LotusAdvise.Advisory

/-- The portfolio of a plan, its diagnostics and its failures, while the plan is built. -/
structure PlanState where
  portfolio : PortfolioSnapshot
  diagnostics : DiagnosticsData
  hardFailures : List String := []

def PlanState.fail (s : PlanState) (failure : String) : PlanState :=
  { s with
    diagnostics := s.diagnostics.warn failure
    hardFailures := s.hardFailures ++ [failure] }

section CashFlows

variable (options : EngineOptions)

def cashFlowIntent (cashFlow : ProposedCashFlow) (index : ℕ) : CashFlowIntent where
  intentId := "oi_cf_" ++ (index + 1).repr
  currency := cashFlow.currency
  amount := cashFlow.amount
  description := cashFlow.description

def cashFlowCreatesNegativeBalance (portfolio : PortfolioSnapshot) (cashFlow : ProposedCashFlow) :
    Bool :=
  (portfolio.cashBalances.find? fun entry => entry.currency = cashFlow.currency).any
    fun entry => entry.amount < 0

def recordNegativeCashFailureIfNeeded (s : PlanState) (cashFlow : ProposedCashFlow) : PlanState :=
  if options.proposalBlockNegativeCash ∧ cashFlowCreatesNegativeBalance s.portfolio cashFlow then
    s.fail "PROPOSAL_WITHDRAWAL_NEGATIVE_CASH"
  else s

def applyCashFlow (s : PlanState) (cashFlow : ProposedCashFlow) : PlanState :=
  recordNegativeCashFailureIfNeeded options
    { s with portfolio := applyProposalCashFlow s.portfolio cashFlow } cashFlow

def buildCashFlowIntents (cashFlows : List ProposedCashFlow) : List CashFlowIntent :=
  cashFlows.mapIdx fun index cashFlow => cashFlowIntent cashFlow index

end CashFlows

section SecurityTrades

variable (marketData : MarketDataSnapshot) (shelf : List ShelfEntry) (options : EngineOptions)
  (baseCurrency : String)

/-- `{entry.instrument_id: entry for entry in shelf}`: the last entry of an instrument counts. -/
def shelfByInstrument (instrumentId : String) : Option ShelfEntry :=
  Dict.get? (Dict.ofItems (shelf.map fun entry => (entry.instrumentId, entry))) instrumentId

def isSupportedByShelf (trade : ProposedTrade) (entry : ShelfEntry) : Bool :=
  trade.side = .sell ∨ entry.status = .approved ∨
    (entry.status = .restricted ∧ options.allowRestricted = true)

/-- The quantity of a trade and the amount of its notional, in the currency of the price. -/
def resolveTradeNotional (trade : ProposedTrade) (price : Price) : Option (ℚ × ℚ) :=
  match trade.size with
  | .quantity quantity _ => some (quantity, quantity * price.price)
  | .notional notional _ =>
    if notional.currency ≠ price.currency then none
    else some (notional.amount / price.price, notional.amount)

def buildSupportedSecurityTradeIntent (trade : ProposedTrade) (intentId : String) (s : PlanState) :
    Option SecurityTradeIntent × PlanState :=
  match priceFor marketData trade.instrumentId with
  | none => (none, { s with diagnostics := s.diagnostics.recordPriceMissing [trade.instrumentId] })
  | some price =>
    match resolveTradeNotional trade price with
    | none => (none, s.fail "PROPOSAL_INVALID_TRADE_INPUT")
    | some (quantity, amount) =>
      let fxRate := getFxRate marketData price.currency baseCurrency
      (some {
        intentId
        instrumentId := trade.instrumentId
        side := trade.side
        quantity
        notional := ⟨amount, price.currency⟩
        notionalBase := fxRate.map fun rate => ⟨amount * rate, baseCurrency⟩
        dependencies := [] },
      { s with
        diagnostics := s.diagnostics.recordFxMissing
          (if fxRate.isNone then [fxPair price.currency baseCurrency] else []) })

def securityTradeIntentForTrade (trade : ProposedTrade) (intentId : String) (s : PlanState) :
    Option SecurityTradeIntent × PlanState :=
  match shelfByInstrument shelf trade.instrumentId with
  | none => (none, { s with diagnostics := s.diagnostics.recordShelfMissing trade.instrumentId })
  | some entry =>
    if isSupportedByShelf options trade entry then
      buildSupportedSecurityTradeIntent marketData baseCurrency trade intentId s
    else (none, s.fail "PROPOSAL_TRADE_NOT_SUPPORTED_BY_SHELF")

/-- The intents of the trades from an index on. -/
def buildSecurityTradeIntents : ℕ → List ProposedTrade → PlanState →
    List SecurityTradeIntent × PlanState
  | _, [], s => ([], s)
  | index, trade :: trades, s =>
    let built := securityTradeIntentForTrade marketData shelf options baseCurrency trade
      ("oi_" ++ (index + 1).repr) s
    let rest := buildSecurityTradeIntents (index + 1) trades built.2
    (built.1.toList ++ rest.1, rest.2)

def sortedSecurityIntentsByInstrument (intents : List SecurityTradeIntent) (side : Side) :
    List SecurityTradeIntent :=
  (intents.filter fun intent => intent.side = side).insertionSort
    fun a b => a.instrumentId ≤ b.instrumentId

def applySellIntents (portfolio : PortfolioSnapshot) (sellIntents : List SecurityTradeIntent) :
    PortfolioSnapshot :=
  sellIntents.foldl applySecurityTradeToPortfolio portfolio

end SecurityTrades

section Buys

variable (unfundedCurrencies : List String)

/-- The buys that are funded. -/
def executableBuyIntents (buyIntents : List SecurityTradeIntent) : List SecurityTradeIntent :=
  buyIntents.filter fun intent => intent.notional.currency ∉ unfundedCurrencies

def applyExecutableBuyIntents (s : PlanState) (buyIntents : List SecurityTradeIntent) : PlanState :=
  { s with
    portfolio := (executableBuyIntents unfundedCurrencies buyIntents).foldl
      applySecurityTradeToPortfolio s.portfolio
    diagnostics :=
      if buyIntents.any fun intent => intent.notional.currency ∈ unfundedCurrencies then
        s.diagnostics.warnOnce "PROPOSAL_BUY_SKIPPED_UNFUNDED"
      else s.diagnostics }

/-- The last sell of a currency. -/
def sellIntentIdByCurrency (sellIntents : List SecurityTradeIntent) (currency : String) :
    Option String :=
  Dict.get? (Dict.ofItems (sellIntents.map fun intent =>
    (intent.notional.currency, intent.intentId))) currency

def SecurityTradeIntent.appendDependency (intent : SecurityTradeIntent) :
    Option String → SecurityTradeIntent
  | none => intent
  | some dependency =>
    if dependency ∈ intent.dependencies then intent
    else { intent with dependencies := intent.dependencies ++ [dependency] }

/-- A buy depends on the currency trade that funds it, and on a sell when that is asked for. -/
def linkBuyIntent (fxIntentIdByCurrency : Dict String String) (sellIntents : List SecurityTradeIntent)
    (includeSellDependency : Bool) (intent : SecurityTradeIntent) : SecurityTradeIntent :=
  let linked := intent.appendDependency (Dict.get? fxIntentIdByCurrency intent.notional.currency)
  if includeSellDependency then
    linked.appendDependency (sellIntentIdByCurrency sellIntents intent.notional.currency)
  else linked

end Buys

section Plan

structure SimulationIntentPlan where
  afterPortfolio : PortfolioSnapshot
  intents : List ProposalOrderIntent
  hardFailures : List String
  forcePendingReview : Bool
  diagnostics : DiagnosticsData

def executionRank : ProposalOrderIntent → ℕ
  | .cashFlow _ => 0
  | .securityTrade intent => if intent.side = .sell then 1 else 3
  | .fxSpot _ => 2

def sortExecutionIntents (intents : List ProposalOrderIntent) : List ProposalOrderIntent :=
  intents.insertionSort fun a b => executionRank a ≤ executionRank b

def orderedExecutionIntents (cashFlowIntents : List CashFlowIntent)
    (sellIntents : List SecurityTradeIntent) (fxIntents : List FxSpotIntent)
    (executableBuyIntents : List SecurityTradeIntent) : List ProposalOrderIntent :=
  sortExecutionIntents <|
    cashFlowIntents.map .cashFlow ++ sellIntents.map .securityTrade ++
      (fxIntents.insertionSort fun a b => a.pair ≤ b.pair).map .fxSpot ++
      executableBuyIntents.map .securityTrade

variable (request : ProposalSimulateRequest) (diagnostics : DiagnosticsData)

/-- The plan after the cash flows. -/
def planAfterCashFlows : PlanState :=
  request.proposedCashFlows.foldl (applyCashFlow request.options)
    { portfolio := request.portfolioSnapshot, diagnostics }

def plannedSecurityTrades : List SecurityTradeIntent × PlanState :=
  buildSecurityTradeIntents request.marketDataSnapshot request.shelfEntries request.options
    request.portfolioSnapshot.baseCurrency 0 request.proposedTrades
    (planAfterCashFlows request diagnostics)

def sellIntents : List SecurityTradeIntent :=
  sortedSecurityIntentsByInstrument (plannedSecurityTrades request diagnostics).1 .sell

def buyIntents : List SecurityTradeIntent :=
  sortedSecurityIntentsByInstrument (plannedSecurityTrades request diagnostics).1 .buy

/-- The plan after the sells. -/
def planAfterSells : PlanState :=
  let s := (plannedSecurityTrades request diagnostics).2
  { s with portfolio := applySellIntents s.portfolio (sellIntents request diagnostics) }

def plannedFunding : FundingState :=
  let s := planAfterSells request diagnostics
  buildAutoFundingPlan request.marketDataSnapshot request.options s.portfolio
    (buyIntents request diagnostics) s.diagnostics

/-- The buys of the plan, which depend on what funds them. -/
def linkedBuyIntents : List SecurityTradeIntent :=
  let funding := plannedFunding request diagnostics
  (executableBuyIntents funding.unfundedCurrencies (buyIntents request diagnostics)).map
    (linkBuyIntent funding.fxByCurrency (sellIntents request diagnostics)
      (request.options.linkBuyToSameCurrencySellDependency.getD false))

/-- The plan after the buys. -/
def planAfterBuys : PlanState :=
  let funding := plannedFunding request diagnostics
  applyExecutableBuyIntents funding.unfundedCurrencies
    { portfolio := funding.portfolio
      diagnostics := funding.diagnostics
      hardFailures := (planAfterSells request diagnostics).hardFailures ++ funding.hardFailures }
    (buyIntents request diagnostics)

def buildSimulationIntentPlan : SimulationIntentPlan where
  afterPortfolio := (planAfterBuys request diagnostics).portfolio
  intents := orderedExecutionIntents (buildCashFlowIntents request.proposedCashFlows)
    (sellIntents request diagnostics) (plannedFunding request diagnostics).fxIntents
    (linkedBuyIntents request diagnostics)
  hardFailures := (planAfterBuys request diagnostics).hardFailures
  forcePendingReview := (plannedFunding request diagnostics).forcePendingReview
  diagnostics := (planAfterBuys request diagnostics).diagnostics

end Plan

end LotusAdvise.Advisory

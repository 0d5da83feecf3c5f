import LotusAdvise.Advisory.Orders
import Mathlib.Tactic.NormNum

/-! # Valuation

A portfolio is valued in its base currency: each position at the first price of its
instrument, or at its trusted market value, and each cash row at its rate. What is missing
counts as zero and is recorded.
-/

namespace LotusAdvise.Advisory

inductive ValuationMode where
  | calculated
  | trustSnapshot
deriving DecidableEq

inductive FundingSourceCurrency where
  | baseOnly
  | anyCash
deriving DecidableEq

inductive IssueSeverity where
  | high
  | medium
  | low
deriving DecidableEq

def IsRatio (x : ℚ) : Prop := 0 ≤ x ∧ x ≤ 1

/-- The caps and the cash band of the suitability checks are ratios. -/
structure SuitabilityThresholds where
  singlePositionMaxWeight : ℚ := 1 / 10
  issuerMaxWeight : ℚ := 1 / 5
  maxWeightByLiquidityTier : Dict LiquidityTier ℚ := [(.l4, 1 / 10), (.l5, 1 / 20)]
  cashBandMinWeight : ℚ := 1 / 100
  cashBandMaxWeight : ℚ := 1 / 20
  dataQualityIssueSeverity : IssueSeverity := .medium
  singlePosition : IsRatio singlePositionMaxWeight := by norm_num [IsRatio]
  issuer : IsRatio issuerMaxWeight := by norm_num [IsRatio]
  liquidityTiers : (maxWeightByLiquidityTier.map Prod.fst).Nodup := by decide
  liquidity : ∀ item ∈ maxWeightByLiquidityTier, IsRatio item.2 := by norm_num [IsRatio]
  cashBand : 0 ≤ cashBandMinWeight ∧ cashBandMinWeight ≤ cashBandMaxWeight ∧
    cashBandMaxWeight ≤ 1 := by norm_num
deriving DecidableEq

/-- The thresholds when none are given. -/
def SuitabilityThresholds.standard : SuitabilityThresholds := {}

structure EngineOptions where
  valuationMode : ValuationMode := .calculated
  cashBandMinWeight : ℚ := 0
  cashBandMaxWeight : ℚ := 1
  singlePositionMaxWeight : Option ℚ := none
  allowRestricted : Bool := false
  blockOnMissingPrices : Bool := true
  blockOnMissingFx : Bool := true
  proposalBlockNegativeCash : Bool := true
  linkBuyToSameCurrencySellDependency : Option Bool := none
  autoFunding : Bool := true
  fxFundingSourceCurrency : FundingSourceCurrency := .anyCash
  workflowRequiresClientConsent : Bool := false
  clientConsentAlreadyObtained : Bool := false
  suitabilityThresholds : SuitabilityThresholds := .standard
deriving DecidableEq

structure ProposalSimulateRequest where
  portfolioSnapshot : PortfolioSnapshot
  marketDataSnapshot : MarketDataSnapshot
  shelfEntries : List ShelfEntry
  options : EngineOptions
  proposedCashFlows : List ProposedCashFlow
  proposedTrades : List ProposedTrade

structure FundingPlanEntry where
  targetCurrency : String
  required : ℚ
  availableBeforeFx : ℚ
  fxNeeded : ℚ
  fxPair : Option String := none
  fundingCurrency : Option String := none
deriving DecidableEq

structure InsufficientCashEntry where
  currency : String
  deficit : ℚ
deriving DecidableEq

structure DataQuality where
  priceMissing : List String := []
  fxMissing : List String := []
  shelfMissing : List String := []
deriving DecidableEq

structure DiagnosticsData where
  warnings : List String := []
  missingFxPairs : List String := []
  fundingPlan : List FundingPlanEntry := []
  insufficientCash : List InsufficientCashEntry := []
  dataQuality : DataQuality := {}
deriving DecidableEq

namespace DiagnosticsData

variable (diagnostics : DiagnosticsData)

def warn (warning : String) : DiagnosticsData :=
  { diagnostics with warnings := diagnostics.warnings ++ [warning] }

/-- The warning, unless it is there already. -/
def warnOnce (warning : String) : DiagnosticsData :=
  if warning ∈ diagnostics.warnings then diagnostics else diagnostics.warn warning

def recordPriceMissing (instrumentIds : List String) : DiagnosticsData :=
  { diagnostics with dataQuality := { diagnostics.dataQuality with
      priceMissing := diagnostics.dataQuality.priceMissing ++ instrumentIds } }

def recordFxMissing (pairs : List String) : DiagnosticsData :=
  { diagnostics with dataQuality := { diagnostics.dataQuality with
      fxMissing := diagnostics.dataQuality.fxMissing ++ pairs } }

def recordShelfMissing (instrumentId : String) : DiagnosticsData :=
  { diagnostics with dataQuality := { diagnostics.dataQuality with
      shelfMissing := diagnostics.dataQuality.shelfMissing ++ [instrumentId] } }

end DiagnosticsData

structure PositionSummary where
  instrumentId : String
  quantity : ℚ
  instrumentCurrency : String
  assetClass : String := "UNKNOWN"
  price : Option Money
  valueInInstrumentCcy : Money
  valueInBaseCcy : Money
  weight : ℚ := 0
deriving DecidableEq

structure AllocationMetric where
  key : String
  weight : ℚ
  value : Money
deriving DecidableEq

structure SimulatedState where
  totalValue : Money
  cashBalances : List CashBalance
  positions : List PositionSummary
  allocationByAssetClass : List AllocationMetric
  allocationByInstrument : List AllocationMetric
deriving DecidableEq

section Positions

variable (marketData : MarketDataSnapshot) (baseCcy : String)

def convertedBaseValue (amount : ℚ) (currency : String) : ℚ :=
  amount * rateOrZero marketData baseCcy currency

def priceValue (position : Position) : ℚ :=
  ((priceFor marketData position.instrumentId).map Price.price).getD 0

def markToMarketPositionValue (position : Position) : PositionSummary :=
  let currency := ((priceFor marketData position.instrumentId).map Price.currency).getD baseCcy
  let instrumentValue := position.quantity * priceValue marketData position
  { instrumentId := position.instrumentId
    quantity := position.quantity
    instrumentCurrency := currency
    price := (priceFor marketData position.instrumentId).map fun price =>
      ⟨price.price, currency⟩
    valueInInstrumentCcy := ⟨instrumentValue, currency⟩
    valueInBaseCcy := ⟨convertedBaseValue marketData baseCcy instrumentValue currency, baseCcy⟩ }

/-- A trusted value in the base currency stands as it is when the price is in another currency. -/
def trustSnapshotPositionValue (position : Position) (trusted : Money) : PositionSummary :=
  let price? := priceFor marketData position.instrumentId
  let priceCurrency := (price?.map Price.currency).getD trusted.currency
  if trusted.currency = baseCcy ∧ priceCurrency ≠ baseCcy then
    { instrumentId := position.instrumentId
      quantity := position.quantity
      instrumentCurrency := priceCurrency
      price := price?.map fun price => ⟨price.price, priceCurrency⟩
      valueInInstrumentCcy := ⟨position.quantity * priceValue marketData position, priceCurrency⟩
      valueInBaseCcy := ⟨trusted.amount, baseCcy⟩ }
  else
    { instrumentId := position.instrumentId
      quantity := position.quantity
      instrumentCurrency := trusted.currency
      price := price?.map fun price => ⟨price.price, trusted.currency⟩
      valueInInstrumentCcy := trusted
      valueInBaseCcy :=
        ⟨convertedBaseValue marketData baseCcy trusted.amount trusted.currency, baseCcy⟩ }

def valuePosition (mode : ValuationMode) (position : Position) : PositionSummary :=
  match mode, position.marketValue with
  | .trustSnapshot, some trusted => trustSnapshotPositionValue marketData baseCcy position trusted
  | _, _ => markToMarketPositionValue marketData baseCcy position

/-- The pair of a currency that has no rate into the base currency. -/
def missingFx (currency : String) : List String :=
  if currency = baseCcy then []
  else if (getFxRate marketData currency baseCcy).isNone then [fxPair currency baseCcy]
  else []

end Positions

section States

variable (portfolio : PortfolioSnapshot) (marketData : MarketDataSnapshot) (shelf : List ShelfEntry)
  (mode : ValuationMode)

def positionSummaries : List PositionSummary :=
  portfolio.positions.map (valuePosition marketData portfolio.baseCurrency mode)

def positionTotal : ℚ :=
  ((positionSummaries portfolio marketData mode).map fun summary =>
    summary.valueInBaseCcy.amount).sum

def cashTotalValue : ℚ :=
  (portfolio.cashBalances.map fun cash =>
    convertedBaseValue marketData portfolio.baseCurrency cash.amount cash.currency).sum

def totalValue : ℚ :=
  positionTotal portfolio marketData mode + cashTotalValue portfolio marketData

def safeTotalValue (totalValue : ℚ) : ℚ := if totalValue = 0 then 1 else totalValue

/-- `_shelf_by_instrument`: the first entry of an instrument counts. -/
def firstShelfEntry (instrumentId : String) : Option ShelfEntry :=
  shelf.find? fun entry => entry.instrumentId = instrumentId

/-- The positions with their weights, and with the asset classes of the shelf. -/
def allocatedPositions : List PositionSummary :=
  (positionSummaries portfolio marketData mode).map fun summary =>
    { summary with
      weight := summary.valueInBaseCcy.amount /
        safeTotalValue (totalValue portfolio marketData mode)
      assetClass := ((firstShelfEntry shelf summary.instrumentId).map
        ShelfEntry.assetClass).getD summary.assetClass }

/-- The values of the asset classes, with all cash under one of them. -/
def assetClassValues : Dict String ℚ :=
  let classes := (allocatedPositions portfolio marketData shelf mode).foldl
    (fun classes summary => Dict.set classes summary.assetClass
      ((Dict.get? classes summary.assetClass).getD 0 + summary.valueInBaseCcy.amount)) []
  Dict.set classes "CASH" ((Dict.get? classes "CASH").getD 0 + cashTotalValue portfolio marketData)

def buildSimulatedState : SimulatedState where
  totalValue := ⟨totalValue portfolio marketData mode, portfolio.baseCurrency⟩
  cashBalances := portfolio.cashBalances
  positions := allocatedPositions portfolio marketData shelf mode
  allocationByAssetClass := (assetClassValues portfolio marketData shelf mode).map fun item =>
    { key := item.1
      weight := item.2 / safeTotalValue (totalValue portfolio marketData mode)
      value := ⟨item.2, portfolio.baseCurrency⟩ }
  allocationByInstrument := (allocatedPositions portfolio marketData shelf mode).map fun summary =>
    { key := summary.instrumentId
      weight := summary.weight
      value := summary.valueInBaseCcy }

/-- What the valuation of a portfolio finds missing. -/
def recordMissingData (diagnostics : DiagnosticsData) : DiagnosticsData :=
  (diagnostics.recordPriceMissing ((portfolio.positions.filter fun position =>
      (priceFor marketData position.instrumentId).isNone).map Position.instrumentId)).recordFxMissing
    ((positionSummaries portfolio marketData mode).flatMap
        (fun summary => missingFx marketData portfolio.baseCurrency summary.instrumentCurrency) ++
      portfolio.cashBalances.flatMap fun cash =>
        missingFx marketData portfolio.baseCurrency cash.currency)

end States

/-- The value of one unit of an instrument in the base currency. -/
def valuePerUnit (marketData : MarketDataSnapshot) (baseCcy instrumentId : String) : ℚ :=
  ((priceFor marketData instrumentId).map fun price =>
    price.price * rateOrZero marketData baseCcy price.currency).getD 0

/-- The calculated value of a portfolio: its positions at their prices and its cash, each at the rate
of its currency. -/
theorem totalValue_calculated (portfolio : PortfolioSnapshot) (marketData : MarketDataSnapshot) :
    totalValue portfolio marketData .calculated =
      positionRows.total (valuePerUnit marketData portfolio.baseCurrency) portfolio.positions +
      cashRows.total (rateOrZero marketData portfolio.baseCurrency) portfolio.cashBalances := by
  unfold totalValue positionTotal cashTotalValue positionSummaries RowKind.total
  rw [List.map_map]
  congr 2
  refine List.map_congr_left fun position _ => ?_
  change position.quantity * priceValue marketData position * _ =
    position.quantity * valuePerUnit marketData portfolio.baseCurrency position.instrumentId
  unfold priceValue valuePerUnit
  cases priceFor marketData position.instrumentId with
  | none => simp
  | some price => exact mul_assoc _ _ _

end LotusAdvise.Advisory

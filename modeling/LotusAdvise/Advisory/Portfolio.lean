import LotusAdvise.Foundations.Decimal
import LotusAdvise.Foundations.Dict
import LotusAdvise.Foundations.Rows

/-! # Portfolios and market data

A portfolio has rows for its positions and for its cash. Orders change the first row of an
instrument or of a currency, and create a row that is missing.
-/

namespace LotusAdvise.Advisory

structure Money where
  amount : ℚ
  currency : String
deriving DecidableEq

/-- A rate is positive. -/
structure FxRate where
  pair : String
  rate : ℚ
  positive : 0 < rate

structure Position where
  instrumentId : String
  quantity : ℚ
  marketValue : Option Money := none
deriving DecidableEq

structure CashBalance where
  currency : String
  amount : ℚ
deriving DecidableEq

structure PortfolioSnapshot where
  baseCurrency : String
  positions : List Position
  cashBalances : List CashBalance
deriving DecidableEq

structure Price where
  instrumentId : String
  price : ℚ
  currency : String
deriving DecidableEq

structure MarketDataSnapshot where
  prices : List Price
  fxRates : List FxRate

inductive ShelfStatus where
  | approved
  | restricted
  | banned
  | suspended
  | sellOnly
deriving DecidableEq

inductive LiquidityTier where
  | l1
  | l2
  | l3
  | l4
  | l5
deriving DecidableEq

structure ShelfEntry where
  instrumentId : String
  status : ShelfStatus
  assetClass : String := "UNKNOWN"
  issuerId : Option String := none
  liquidityTier : Option LiquidityTier := none
  attributes : Dict String String := []
deriving DecidableEq

def positionRows : RowKind Position String ℚ where
  key := Position.instrumentId
  amount := Position.quantity
  create instrumentId := { instrumentId, quantity := 0 }
  add position x := { position with quantity := position.quantity + x }
  key_create _ := rfl
  amount_create _ := rfl
  key_add _ _ := rfl
  amount_add _ _ := rfl

def cashRows : RowKind CashBalance String ℚ where
  key := CashBalance.currency
  amount := CashBalance.amount
  create currency := { currency, amount := 0 }
  add balance x := { balance with amount := balance.amount + x }
  key_create _ := rfl
  amount_create _ := rfl
  key_add _ _ := rfl
  amount_add _ _ := rfl

namespace PortfolioSnapshot

variable (portfolio : PortfolioSnapshot)

/-- `ensure_position(portfolio, instrument_id).quantity += x`. -/
def addQuantity (instrumentId : String) (x : ℚ) : PortfolioSnapshot :=
  { portfolio with positions := positionRows.addTo instrumentId x portfolio.positions }

/-- `ensure_cash_balance(portfolio, currency).amount += x`. -/
def addCash (currency : String) (x : ℚ) : PortfolioSnapshot :=
  { portfolio with cashBalances := cashRows.addTo currency x portfolio.cashBalances }

/-- `ensure_cash_balance(portfolio, currency)`. -/
def ensureCashBalance (currency : String) : PortfolioSnapshot :=
  { portfolio with cashBalances := cashRows.ensure currency portfolio.cashBalances }

/-- The amount of the first row of a currency. -/
def cash (currency : String) : ℚ := cashRows.amountOf portfolio.cashBalances currency

/-- The portfolio up to cash rows without an amount. -/
structure SameRows (portfolio portfolio' : PortfolioSnapshot) : Prop where
  baseCurrency : portfolio'.baseCurrency = portfolio.baseCurrency
  positions : portfolio'.positions = portfolio.positions
  cells : ∀ currency i, cashRows.cell portfolio'.cashBalances currency i =
    cashRows.cell portfolio.cashBalances currency i
  totals : ∀ weight : String → ℚ, cashRows.total weight portfolio'.cashBalances =
    cashRows.total weight portfolio.cashBalances

variable {portfolio} {portfolio' portfolio'' : PortfolioSnapshot}

theorem SameRows.refl : portfolio.SameRows portfolio := ⟨rfl, rfl, fun _ _ => rfl, fun _ => rfl⟩

theorem SameRows.trans (h : portfolio.SameRows portfolio') (h' : portfolio'.SameRows portfolio'') :
    portfolio.SameRows portfolio'' where
  baseCurrency := h'.baseCurrency.trans h.baseCurrency
  positions := h'.positions.trans h.positions
  cells currency i := (h'.cells currency i).trans (h.cells currency i)
  totals weight := (h'.totals weight).trans (h.totals weight)

theorem SameRows.cash_eq (h : portfolio.SameRows portfolio') (currency : String) :
    portfolio'.cash currency = portfolio.cash currency := h.cells currency 0

theorem sameRows_ensure (currency : String) :
    portfolio.SameRows (portfolio.ensureCashBalance currency) where
  baseCurrency := rfl
  positions := rfl
  cells _ _ := RowKind.cell_ensure
  totals weight := RowKind.total_ensure weight

theorem SameRows.addCash (h : portfolio.SameRows portfolio') (currency : String) (x : ℚ) :
    (portfolio.addCash currency x).SameRows (portfolio'.addCash currency x) where
  baseCurrency := h.baseCurrency
  positions := h.positions
  cells other i := by
    dsimp only [PortfolioSnapshot.addCash]
    rw [RowKind.cell_addTo, RowKind.cell_addTo, h.cells]
  totals weight := by
    dsimp only [PortfolioSnapshot.addCash]
    rw [RowKind.total_addTo, RowKind.total_addTo, h.totals]

theorem cash_nonneg_iff : (∀ balance ∈ portfolio.cashBalances, 0 ≤ balance.amount) ↔
    ∀ currency i, 0 ≤ cashRows.cell portfolio.cashBalances currency i :=
  cashRows.nonneg_iff

theorem quantity_nonneg_iff : (∀ position ∈ portfolio.positions, 0 ≤ position.quantity) ↔
    ∀ instrumentId i, 0 ≤ positionRows.cell portfolio.positions instrumentId i :=
  positionRows.nonneg_iff

end PortfolioSnapshot

section FxRates

def fxPair (fromCcy toCcy : String) : String := fromCcy ++ "/" ++ toCcy

variable (marketData : MarketDataSnapshot)

def fxRateForPair (pair : String) : Option FxRate :=
  marketData.fxRates.find? fun rate => rate.pair = pair

/-- The rate of a pair, or the inverse of the rate of the inverse pair. -/
def getFxRate (fromCcy toCcy : String) : Option ℚ :=
  if fromCcy = toCcy then some 1
  else
    match fxRateForPair marketData (fxPair fromCcy toCcy) with
    | some direct => some direct.rate
    | none => (fxRateForPair marketData (fxPair toCcy fromCcy)).map fun inverse => 1 / inverse.rate

@[simp] theorem getFxRate_self (currency : String) : getFxRate marketData currency currency = some 1 :=
  if_pos rfl

theorem getFxRate_pos {fromCcy toCcy : String} {rate : ℚ}
    (h : getFxRate marketData fromCcy toCcy = some rate) : 0 < rate := by
  unfold getFxRate at h
  split at h
  · obtain rfl := Option.some.inj h
    exact one_pos
  · split at h
    · next direct _ =>
      obtain rfl := Option.some.inj h
      exact direct.positive
    · obtain ⟨inverse, -, rfl⟩ := Option.map_eq_some_iff.mp h
      exact one_div_pos.mpr inverse.positive

/-- The rate into a currency, where a missing one counts as zero. -/
def rateOrZero (baseCcy currency : String) : ℚ := (getFxRate marketData currency baseCcy).getD 0

/-- `next(price for price in market_data.prices if price.instrument_id == instrument_id)`. -/
def priceFor (instrumentId : String) : Option Price :=
  marketData.prices.find? fun price => price.instrumentId = instrumentId

end FxRates

section Quantities

/-- `_CURRENCY_MINOR_UNITS.get(currency, 2)`. -/
def currencyMinorUnits (currency : String) : ℕ :=
  if currency ∈ ["BHD", "KWD", "OMR"] then 3
  else if currency ∈ ["JPY", "KRW", "VND"] then 0
  else 2

def quantizeAmountForCurrency (amount : ℚ) (currency : String) : ℚ :=
  Decimal.quantize (currencyMinorUnits currency) amount

end Quantities

end LotusAdvise.Advisory

import LotusAdvise.Advisory.Portfolio

/-! # Order intents

A proposal asks for cash flows and for trades. Its plan is a list of orders: the cash flows,
the security trades that can be priced, and the currency trades that fund them.
-/

namespace LotusAdvise.Advisory

inductive Side where
  | buy
  | sell
deriving DecidableEq

structure ProposedCashFlow where
  currency : String
  amount : ℚ
  description : Option String := none
deriving DecidableEq

/-- A trade is sized by a positive quantity, or by a positive notional. -/
inductive TradeSize where
  | quantity (quantity : ℚ) (positive : 0 < quantity)
  | notional (notional : Money) (positive : 0 < notional.amount)

structure ProposedTrade where
  side : Side
  instrumentId : String
  size : TradeSize

structure CashFlowIntent where
  intentId : String
  currency : String
  amount : ℚ
  description : Option String
deriving DecidableEq

/-- The plan prices every trade that it keeps: each of them has a quantity and a notional. -/
structure SecurityTradeIntent where
  intentId : String
  instrumentId : String
  side : Side
  quantity : ℚ
  notional : Money
  notionalBase : Option Money
  dependencies : List String
deriving DecidableEq

structure FxSpotIntent where
  intentId : String
  pair : String
  buyCurrency : String
  buyAmount : ℚ
  sellCurrency : String
  sellAmountEstimated : ℚ
  dependencies : List String
deriving DecidableEq

inductive ProposalOrderIntent where
  | cashFlow (intent : CashFlowIntent)
  | fxSpot (intent : FxSpotIntent)
  | securityTrade (intent : SecurityTradeIntent)
deriving DecidableEq

namespace ProposalOrderIntent

def intentId : ProposalOrderIntent → String
  | cashFlow intent => intent.intentId
  | fxSpot intent => intent.intentId
  | securityTrade intent => intent.intentId

/-- A cash flow has no dependencies. -/
def dependencies : ProposalOrderIntent → List String
  | cashFlow _ => []
  | fxSpot intent => intent.dependencies
  | securityTrade intent => intent.dependencies

end ProposalOrderIntent

section Application

variable (portfolio : PortfolioSnapshot)

def applyProposalCashFlow (cashFlow : ProposedCashFlow) : PortfolioSnapshot :=
  portfolio.addCash cashFlow.currency cashFlow.amount

def applySecurityTradeToPortfolio (intent : SecurityTradeIntent) : PortfolioSnapshot :=
  match intent.side with
  | .buy => (portfolio.addQuantity intent.instrumentId intent.quantity).addCash
      intent.notional.currency (-intent.notional.amount)
  | .sell => (portfolio.addQuantity intent.instrumentId (-intent.quantity)).addCash
      intent.notional.currency intent.notional.amount

def applyFxSpotToPortfolio (intent : FxSpotIntent) : PortfolioSnapshot :=
  (portfolio.addCash intent.sellCurrency (-intent.sellAmountEstimated)).addCash
    intent.buyCurrency intent.buyAmount

/-- An order, executed. -/
def ProposalOrderIntent.applyTo (portfolio : PortfolioSnapshot) :
    ProposalOrderIntent → PortfolioSnapshot
  | cashFlow intent => portfolio.addCash intent.currency intent.amount
  | fxSpot intent => applyFxSpotToPortfolio portfolio intent
  | securityTrade intent => applySecurityTradeToPortfolio portfolio intent

end Application

namespace SecurityTradeIntent

variable (intent : SecurityTradeIntent)

/-- What the trade adds to the quantity of an instrument. -/
def quantityDelta (instrumentId : String) : ℚ :=
  if instrumentId = intent.instrumentId then
    match intent.side with
    | .buy => intent.quantity
    | .sell => -intent.quantity
  else 0

/-- What the trade adds to the cash of a currency. -/
def cashDelta (currency : String) : ℚ :=
  if currency = intent.notional.currency then
    match intent.side with
    | .buy => -intent.notional.amount
    | .sell => intent.notional.amount
  else 0

end SecurityTradeIntent

def FxSpotIntent.cashDelta (intent : FxSpotIntent) (currency : String) : ℚ :=
  (if currency = intent.sellCurrency then -intent.sellAmountEstimated else 0) +
    if currency = intent.buyCurrency then intent.buyAmount else 0

namespace ProposalOrderIntent

/-- What an order adds to the quantity of an instrument. -/
def quantityDelta : ProposalOrderIntent → String → ℚ
  | cashFlow _, _ => 0
  | fxSpot _, _ => 0
  | securityTrade intent, instrumentId => intent.quantityDelta instrumentId

/-- What an order adds to the cash of a currency. -/
def cashDelta : ProposalOrderIntent → String → ℚ
  | cashFlow intent, currency => if currency = intent.currency then intent.amount else 0
  | fxSpot intent, currency => intent.cashDelta currency
  | securityTrade intent, currency => intent.cashDelta currency

/-- What an order adds to the cash, where each currency has a weight. -/
def cashTotal (weight : String → ℚ) : ProposalOrderIntent → ℚ
  | cashFlow intent => intent.amount * weight intent.currency
  | fxSpot intent => intent.buyAmount * weight intent.buyCurrency -
      intent.sellAmountEstimated * weight intent.sellCurrency
  | securityTrade intent =>
    match intent.side with
    | .buy => -(intent.notional.amount * weight intent.notional.currency)
    | .sell => intent.notional.amount * weight intent.notional.currency

/-- What an order adds to the positions, where each instrument has a weight. -/
def quantityTotal (weight : String → ℚ) : ProposalOrderIntent → ℚ
  | cashFlow _ => 0
  | fxSpot _ => 0
  | securityTrade intent =>
    match intent.side with
    | .buy => intent.quantity * weight intent.instrumentId
    | .sell => -(intent.quantity * weight intent.instrumentId)

end ProposalOrderIntent

section Deltas

variable {portfolio : PortfolioSnapshot} {currency instrumentId : String} {i : ℕ}

theorem cashCell_applySecurityTrade (intent : SecurityTradeIntent) :
    cashRows.cell (applySecurityTradeToPortfolio portfolio intent).cashBalances currency i =
      cashRows.cell portfolio.cashBalances currency i +
        if i = 0 then intent.cashDelta currency else 0 := by
  unfold applySecurityTradeToPortfolio SecurityTradeIntent.cashDelta
  cases intent.side <;>
    · dsimp only [PortfolioSnapshot.addCash, PortfolioSnapshot.addQuantity]
      rw [RowKind.cell_addTo]
      by_cases hi : i = 0 <;> simp [hi]

theorem positionCell_applySecurityTrade (intent : SecurityTradeIntent) :
    positionRows.cell (applySecurityTradeToPortfolio portfolio intent).positions instrumentId i =
      positionRows.cell portfolio.positions instrumentId i +
        if i = 0 then intent.quantityDelta instrumentId else 0 := by
  unfold applySecurityTradeToPortfolio SecurityTradeIntent.quantityDelta
  cases intent.side <;>
    · dsimp only [PortfolioSnapshot.addCash, PortfolioSnapshot.addQuantity]
      rw [RowKind.cell_addTo]
      by_cases hi : i = 0 <;> simp [hi]

theorem cashCell_applyFxSpot (intent : FxSpotIntent) :
    cashRows.cell (applyFxSpotToPortfolio portfolio intent).cashBalances currency i =
      cashRows.cell portfolio.cashBalances currency i +
        if i = 0 then intent.cashDelta currency else 0 := by
  unfold applyFxSpotToPortfolio FxSpotIntent.cashDelta
  dsimp only [PortfolioSnapshot.addCash]
  rw [RowKind.cell_addTo, RowKind.cell_addTo, add_assoc]
  by_cases hi : i = 0 <;> simp [hi]

/-- An order changes the first row of each currency by its delta, and no other row. -/
theorem cashCell_applyTo (intent : ProposalOrderIntent) :
    cashRows.cell (intent.applyTo portfolio).cashBalances currency i =
      cashRows.cell portfolio.cashBalances currency i +
        if i = 0 then intent.cashDelta currency else 0 := by
  cases intent with
  | cashFlow intent =>
    dsimp only [ProposalOrderIntent.applyTo, PortfolioSnapshot.addCash]
    rw [RowKind.cell_addTo, ProposalOrderIntent.cashDelta]
    by_cases hi : i = 0 <;> simp [hi]
  | fxSpot intent => exact cashCell_applyFxSpot intent
  | securityTrade intent => exact cashCell_applySecurityTrade intent

theorem positionCell_applyTo (intent : ProposalOrderIntent) :
    positionRows.cell (intent.applyTo portfolio).positions instrumentId i =
      positionRows.cell portfolio.positions instrumentId i +
        if i = 0 then intent.quantityDelta instrumentId else 0 := by
  cases intent with
  | cashFlow intent => simp [ProposalOrderIntent.applyTo, PortfolioSnapshot.addCash,
      ProposalOrderIntent.quantityDelta]
  | fxSpot intent => simp [ProposalOrderIntent.applyTo, applyFxSpotToPortfolio,
      PortfolioSnapshot.addCash, ProposalOrderIntent.quantityDelta]
  | securityTrade intent => exact positionCell_applySecurityTrade intent

variable (weight : String → ℚ)

theorem cashTotal_applyTo (intent : ProposalOrderIntent) :
    cashRows.total weight (intent.applyTo portfolio).cashBalances =
      cashRows.total weight portfolio.cashBalances + intent.cashTotal weight := by
  cases intent with
  | cashFlow intent => exact RowKind.total_addTo weight
  | fxSpot intent =>
    dsimp only [ProposalOrderIntent.applyTo, applyFxSpotToPortfolio, PortfolioSnapshot.addCash,
      ProposalOrderIntent.cashTotal]
    rw [RowKind.total_addTo, RowKind.total_addTo]
    ring
  | securityTrade intent =>
    dsimp only [ProposalOrderIntent.applyTo, ProposalOrderIntent.cashTotal]
    unfold applySecurityTradeToPortfolio
    cases intent.side with
    | buy =>
      dsimp only [PortfolioSnapshot.addCash, PortfolioSnapshot.addQuantity]
      rw [RowKind.total_addTo, neg_mul]
    | sell => exact RowKind.total_addTo weight

theorem quantityTotal_applyTo (intent : ProposalOrderIntent) :
    positionRows.total weight (intent.applyTo portfolio).positions =
      positionRows.total weight portfolio.positions + intent.quantityTotal weight := by
  cases intent with
  | cashFlow intent => exact (add_zero _).symm
  | fxSpot intent => exact (add_zero _).symm
  | securityTrade intent =>
    dsimp only [ProposalOrderIntent.applyTo, ProposalOrderIntent.quantityTotal]
    unfold applySecurityTradeToPortfolio
    cases intent.side with
    | buy => exact RowKind.total_addTo weight
    | sell =>
      dsimp only [PortfolioSnapshot.addCash, PortfolioSnapshot.addQuantity]
      rw [RowKind.total_addTo, neg_mul]

end Deltas

end LotusAdvise.Advisory

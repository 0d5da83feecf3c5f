import LotusAdvise.Advisory.Portfolio
import LotusAdvise.Foundations.DictKeys
import LotusAdvise.Foundations.Except
import LotusAdvise.LotusCore.PayloadValues

/-! # The translation of payloads

Positions, cash balances, prices and rates are built from the rows of the payloads, each in a walk
of its own that leaves out the rows it has no use for. The rate of a currency is the quotient of two
values of a row, and the last row of the currency counts.
-/

namespace LotusAdvise.LotusCore

open Advisory (CashBalance FxRate Money Position Price)

inductive TranslationError where
  | invalidLotusCoreFxRate
  | signal (signal : DecimalSignal)
  | validation
deriving DecidableEq

/-- A decimal field is validated to be finite. -/
def validatedDecimal : ExtendedDecimal → Except TranslationError ℚ
  | .finite x => .ok x
  | _ => .error .validation

section Rows

variable (texts : PayloadTexts)

/-! ## Cash balances and positions -/

def cashBalance? (account : JsonObject) : Except TranslationError (Option CashBalance) :=
  if texts.accountCurrencyOf account = "" then .ok none
  else match texts.decimalOrNone (account.get "balance_account_currency") with
  | none => .ok none
  | some amount => (validatedDecimal amount).map fun amount =>
      some ⟨texts.accountCurrencyOf account, amount⟩

def buildCashBalances (cashPayload : JsonObject) : Except TranslationError (List CashBalance) :=
  ((mappingRows cashPayload "cash_accounts").mapM (cashBalance? texts)).map List.reduceOption

def valuationOf? (row : JsonObject) : Option JsonObject := asMapping? (row.get "valuation")

def marketValueFromPayload (row : JsonObject) (portfolioBaseCurrency : String) :
    Except TranslationError (Option Money) :=
  match valuationOf? row with
  | none => .ok none
  | some valuation =>
    match texts.decimalOrNone (valuation.get "market_value") with
    | none => .ok none
    | some amount => (validatedDecimal amount).map fun amount =>
        some ⟨amount, portfolioBaseCurrency⟩

def positionFromPayload (portfolioBaseCurrency : String) (row : JsonObject) :
    Except TranslationError (Option Position) :=
  if texts.IsCashAssetClass (row.get "asset_class") then .ok none
  else match texts.decimalOrNone (row.get "quantity") with
  | none => .ok none
  | some quantity =>
    if texts.instrumentIdOf row = "" then .ok none
    else do
      let marketValue ← marketValueFromPayload texts row portfolioBaseCurrency
      let quantity ← validatedDecimal quantity
      return some ⟨texts.instrumentIdOf row, quantity, marketValue⟩

def buildPositions (positionsPayload : JsonObject) (portfolioBaseCurrency : String) :
    Except TranslationError (List Position) :=
  ((mappingRows positionsPayload "positions").mapM
    (positionFromPayload texts portfolioBaseCurrency)).map List.reduceOption

/-! ## Prices -/

def priceFromPosition (row : JsonObject) : Except TranslationError (Option Price) :=
  if texts.IsCashAssetClass (row.get "asset_class") then .ok none
  else match valuationOf? row with
  | none => .ok none
  | some valuation =>
    if texts.instrumentIdOf row = "" ∨ texts.currencyOf row = "" then .ok none
    else match texts.decimalOrNone (valuation.get "market_price") with
    | none => .ok none
    | some price => (validatedDecimal price).map fun price =>
        some ⟨texts.instrumentIdOf row, price, texts.currencyOf row⟩

/-- The last of the values under each key. -/
def lastByKey {V : Type} (key : V → String) (values : List V) : List V :=
  (Dict.ofItems (values.map fun value => (key value, value))).map Prod.snd

def buildPrices (positionsPayload : JsonObject) : Except TranslationError (List Price) :=
  ((mappingRows positionsPayload "positions").mapM (priceFromPosition texts)).map fun prices =>
    lastByKey Price.instrumentId prices.reduceOption

/-! ## Rates -/

theorem twentyEight_pos : 0 < 28 := Nat.succ_pos _

theorem leastExponent_le : (-999999 : ℤ) ≤ 999999 := by decide

theorem greatestExponent_nonneg : (0 : ℤ) ≤ 999999 := by decide

/-- The context that divisions are done in. -/
def defaultContext : DecimalContext where
  precision := 28
  eMin := -999999
  eMax := 999999
  precision_pos := twentyEight_pos
  eMin_le_eMax := leastExponent_le
  eMax_nonneg := greatestExponent_nonneg

/-- The value is there. -/
def ExplicitRateValue (value : Json) : Prop := value ≠ .null ∧ value ≠ .str ""

instance (value : Json) : Decidable (ExplicitRateValue value) :=
  inferInstanceAs (Decidable (_ ∧ _))

/-- The two values of a row whose quotient is the rate of its currency. -/
structure RateInputs where
  fromCurrency : String
  numerator : Json
  denominator : Json

def positionRateInputs? (row : JsonObject) : Option RateInputs :=
  (valuationOf? row).map fun valuation =>
    ⟨texts.currencyOf row, valuation.get "market_value", valuation.get "market_value_local"⟩

def cashRateInputs (account : JsonObject) : RateInputs :=
  ⟨texts.accountCurrencyOf account, account.get "balance_portfolio_currency",
    account.get "balance_account_currency"⟩

/-- The values of the rows in the order in which they are captured. -/
def rateInputs (positionsPayload cashPayload : JsonObject) : List RateInputs :=
  (mappingRows positionsPayload "positions").filterMap (positionRateInputs? texts) ++
    (mappingRows cashPayload "cash_accounts").map (cashRateInputs texts)

def pairOf (fromCurrency toCurrency : String) : String := fromCurrency ++ "/" ++ toCurrency

/-- The quotient is there already: its text is read back as itself. -/
def fxRateFromSourceValue (pair : String) : ExtendedDecimal → Except TranslationError FxRate
  | .finite rate =>
    if h : 0 < rate then .ok ⟨pair, rate, h⟩ else .error .invalidLotusCoreFxRate
  | _ => .error .invalidLotusCoreFxRate

def requiredDecimalRateValue (value : Json) : Except TranslationError ExtendedDecimal :=
  match texts.decimalOrNone value with
  | none => .error .invalidLotusCoreFxRate
  | some value => .ok value

/-- The comparison with zero signals too. -/
def requireNonZeroDenominator : ExtendedDecimal → Except TranslationError Unit
  | .finite x => if x = 0 then .error .invalidLotusCoreFxRate else .ok ()
  | .signalingNan => .error (.signal .invalidOperation)
  | _ => .ok ()

/-- A rate is captured from the values: their currency is another one, and both are there. -/
def RateInputs.Captured (portfolioBaseCurrency : String) (inputs : RateInputs) : Prop :=
  (inputs.fromCurrency ≠ "" ∧ portfolioBaseCurrency ≠ "" ∧
    inputs.fromCurrency ≠ portfolioBaseCurrency) ∧
  ExplicitRateValue inputs.numerator ∧ ExplicitRateValue inputs.denominator

instance (portfolioBaseCurrency : String) (inputs : RateInputs) :
    Decidable (inputs.Captured portfolioBaseCurrency) :=
  inferInstanceAs (Decidable (_ ∧ _))

def fxRateFromValues (portfolioBaseCurrency : String) (inputs : RateInputs) :
    Except TranslationError (Option FxRate) :=
  if ¬ inputs.Captured portfolioBaseCurrency then .ok none
  else do
    let numerator ← requiredDecimalRateValue texts inputs.numerator
    let denominator ← requiredDecimalRateValue texts inputs.denominator
    requireNonZeroDenominator denominator
    let rate ← (defaultContext.divide numerator denominator).mapError TranslationError.signal
    (fxRateFromSourceValue (pairOf inputs.fromCurrency portfolioBaseCurrency) rate).map some

def deriveFxRates (portfolioBaseCurrency : String) (positionsPayload cashPayload : JsonObject) :
    Except TranslationError (List FxRate) :=
  ((rateInputs texts positionsPayload cashPayload).mapM
    (fxRateFromValues texts portfolioBaseCurrency)).map fun rates =>
      lastByKey FxRate.pair rates.reduceOption

end Rows

/-! ## The last of the values -/

section LastByKey

variable {V : Type} {key : V → String} {values : List V} {value : V} {k : String}

theorem nodup_lastByKey : ((lastByKey key values).map key).Nodup := by
  have hkeys : (lastByKey key values).map key =
      (Dict.ofItems (values.map fun value => (key value, value))).map Prod.fst := by
    rw [lastByKey, List.map_map]
    refine List.map_congr_left fun item hitem => ?_
    obtain ⟨value, -, rfl⟩ := List.mem_map.mp (Dict.mem_ofItems hitem)
    rfl
  rw [hkeys]
  exact Dict.nodup_keys_ofItems _

/-- The last value of a key is kept. -/
theorem mem_lastByKey (h : values.reverse.find? (fun value => key value = k) = some value) :
    value ∈ lastByKey key values := by
  have hget : Dict.get? (Dict.ofItems (values.map fun value => (key value, value))) k =
      some value := by
    rw [Dict.find?_ofItems, ← List.map_reverse, List.find?_map, Option.map_map, Function.comp_def,
      Function.comp_def, h]
    rfl
  exact List.mem_map_of_mem (f := Prod.snd) (Dict.mem_of_get? hget)

/-- Each of the values has the last one of its key. -/
theorem exists_mem_lastByKey (key : V → String) (h : value ∈ values) :
    ∃ last ∈ lastByKey key values, key last = key value := by
  rcases hfind : values.reverse.find? (fun other => key other = key value) with _ | last
  · have hnone := List.find?_eq_none.mp hfind value (List.mem_reverse.mpr h)
    exact absurd (decide_eq_true rfl) hnone
  · exact ⟨last, mem_lastByKey hfind, by simpa using List.find?_some hfind⟩

end LastByKey

/-! ## What becomes of the values of a rate -/

/-- Arithmetic signals: a signalling operand, two infinities, or a quotient that overflows. -/
def DivisionSignals (numerator denominator : ExtendedDecimal) : Prop :=
  denominator = .signalingNan ∨ denominator ≠ .finite 0 ∧
    (numerator = .signalingNan ∨
      (∃ s t, numerator = .infinite s ∧ denominator = .infinite t) ∨
      ∃ x y, numerator = .finite x ∧ denominator = .finite y ∧
        defaultContext.overflowBound ≤ |x / y|)

/-- The quotient is a positive number that the context can hold. -/
def QuotientInRange (numerator denominator : ExtendedDecimal) : Prop :=
  ∃ x y, numerator = .finite x ∧ denominator = .finite y ∧ y ≠ 0 ∧
    defaultContext.underflowBound < x / y ∧ x / y < defaultContext.overflowBound

def rateOfDecimals (pair : String) (numerator denominator : ExtendedDecimal) :
    Except TranslationError (Option FxRate) := do
  requireNonZeroDenominator denominator
  let rate ← (defaultContext.divide numerator denominator).mapError TranslationError.signal
  (fxRateFromSourceValue pair rate).map some

/-- The two decimals signal, make a rate, or are refused. -/
def RateOutcome (pair : String) (numerator denominator : ExtendedDecimal) : Prop :=
  (DivisionSignals numerator denominator ∧
    ∃ signal, rateOfDecimals pair numerator denominator = .error (.signal signal)) ∨
  (¬ DivisionSignals numerator denominator ∧ QuotientInRange numerator denominator ∧
    ∃ rate, rateOfDecimals pair numerator denominator = .ok (some rate) ∧ rate.pair = pair) ∨
  (¬ DivisionSignals numerator denominator ∧ ¬ QuotientInRange numerator denominator ∧
    rateOfDecimals pair numerator denominator = .error .invalidLotusCoreFxRate)

section Outcome

variable {pair : String} {x y : ℚ}

theorem divisionSignals_finite :
    DivisionSignals (.finite x) (.finite y) ↔ y ≠ 0 ∧ defaultContext.overflowBound ≤ |x / y| := by
  simp [DivisionSignals]

theorem quotientInRange_finite : QuotientInRange (.finite x) (.finite y) ↔
    y ≠ 0 ∧ defaultContext.underflowBound < x / y ∧ x / y < defaultContext.overflowBound := by
  simp [QuotientInRange]

theorem rateOutcome_finite : RateOutcome pair (.finite x) (.finite y) := by
  unfold RateOutcome
  rw [divisionSignals_finite, quotientInRange_finite]
  by_cases hzero : y = 0
  · refine .inr (.inr ⟨fun h => h.1 hzero, fun h => h.1 hzero, ?_⟩)
    rw [rateOfDecimals, requireNonZeroDenominator, if_pos hzero]
    rfl
  have hrate : rateOfDecimals pair (.finite x) (.finite y) =
      ((defaultContext.quotient x y).mapError TranslationError.signal).bind fun rate =>
        (fxRateFromSourceValue pair rate).map some := by
    rw [rateOfDecimals, requireNonZeroDenominator, if_neg hzero]
    rfl
  rw [hrate, DecimalContext.quotient, if_neg hzero]
  by_cases hover : defaultContext.Overflows (x / y)
  · refine .inl ⟨⟨hzero, DecimalContext.overflows_iff.mp hover⟩, .overflow, ?_⟩
    rw [if_pos hover]
    rfl
  have hbound := lt_of_not_ge (mt DecimalContext.overflows_iff.mpr hover)
  have hsignals : ¬ (y ≠ 0 ∧ defaultContext.overflowBound ≤ |x / y|) := fun h => hbound.not_ge h.2
  rw [if_neg hover]
  by_cases hpos : 0 < defaultContext.round (x / y)
  · refine .inr (.inl ⟨hsignals, ⟨hzero, DecimalContext.round_pos_iff.mp hpos,
      (le_abs_self _).trans_lt hbound⟩, ⟨pair, _, hpos⟩, ?_, rfl⟩)
    change (fxRateFromSourceValue pair (.finite _)).map some = _
    rw [fxRateFromSourceValue, dif_pos hpos]
    rfl
  · refine .inr (.inr ⟨hsignals, fun h => hpos (DecimalContext.round_pos_iff.mpr h.2.1), ?_⟩)
    change (fxRateFromSourceValue pair (.finite _)).map some = _
    rw [fxRateFromSourceValue, dif_neg hpos]
    rfl

/-- Two decimals that neither signal nor are numbers with a quotient in range are refused. -/
theorem rateOutcome_refused {numerator denominator : ExtendedDecimal}
    (hsignals : ¬ DivisionSignals numerator denominator)
    (hfinite : ¬ ((∃ x, numerator = .finite x) ∧ ∃ y, denominator = .finite y))
    (hrate : rateOfDecimals pair numerator denominator = .error .invalidLotusCoreFxRate) :
    RateOutcome pair numerator denominator := by
  refine .inr (.inr ⟨hsignals, ?_, hrate⟩)
  rintro ⟨x, y, hx, hy, -⟩
  exact hfinite ⟨⟨x, hx⟩, y, hy⟩

theorem rateOfDecimals_zero (pair : String) (numerator : ExtendedDecimal) :
    rateOfDecimals pair numerator (.finite 0) = .error .invalidLotusCoreFxRate := by
  rw [rateOfDecimals, requireNonZeroDenominator, if_pos rfl]
  rfl

theorem rateOutcome (pair : String) (numerator denominator : ExtendedDecimal) :
    RateOutcome pair numerator denominator := by
  cases denominator with
  | finite y =>
    by_cases hzero : y = 0
    · subst hzero
      cases numerator with
      | finite x => exact rateOutcome_finite
      | infinite =>
        refine rateOutcome_refused ?_ ?_ (rateOfDecimals_zero pair _)
        · simp [DivisionSignals]
        · simp
      | nan =>
        refine rateOutcome_refused ?_ ?_ (rateOfDecimals_zero pair _)
        · simp [DivisionSignals]
        · simp
      | signalingNan =>
        refine rateOutcome_refused ?_ ?_ (rateOfDecimals_zero pair _)
        · simp [DivisionSignals]
        · simp
    · have hdenominator : requireNonZeroDenominator (.finite y) = .ok () := if_neg hzero
      cases numerator with
      | finite x => exact rateOutcome_finite
      | infinite =>
        refine rateOutcome_refused (by simp [DivisionSignals]) (by simp) ?_
        rw [rateOfDecimals, hdenominator]
        rfl
      | nan =>
        refine rateOutcome_refused (by simp [DivisionSignals]) (by simp) ?_
        rw [rateOfDecimals, hdenominator]
        rfl
      | signalingNan =>
        refine .inl ⟨by simp [DivisionSignals, hzero], .invalidOperation, ?_⟩
        rw [rateOfDecimals, hdenominator]
        rfl
  | infinite =>
    cases numerator with
    | finite =>
      refine rateOutcome_refused (by simp [DivisionSignals]) (by simp) ?_
      change (fxRateFromSourceValue pair (.finite 0)).map some = _
      rw [fxRateFromSourceValue, dif_neg (lt_irrefl _)]
      rfl
    | infinite => exact .inl ⟨by simp [DivisionSignals], .invalidOperation, rfl⟩
    | nan => exact rateOutcome_refused (by simp [DivisionSignals]) (by simp) rfl
    | signalingNan => exact .inl ⟨by simp [DivisionSignals], .invalidOperation, rfl⟩
  | nan =>
    cases numerator with
    | finite => exact rateOutcome_refused (by simp [DivisionSignals]) (by simp) rfl
    | infinite => exact rateOutcome_refused (by simp [DivisionSignals]) (by simp) rfl
    | nan => exact rateOutcome_refused (by simp [DivisionSignals]) (by simp) rfl
    | signalingNan => exact .inl ⟨by simp [DivisionSignals], .invalidOperation, rfl⟩
  | signalingNan => exact .inl ⟨.inl rfl, .invalidOperation, rfl⟩

end Outcome

end LotusAdvise.LotusCore

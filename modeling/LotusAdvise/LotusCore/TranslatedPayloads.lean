import LotusAdvise.Foundations.FirstFailures
import LotusAdvise.LotusCore.SourceCompleteness

/-! # Payloads that are translated

Payloads without required rejections are translated row by row: no row is lost, and each has its
position, its price or its balance. Only the rates may fail, since the rows of cash positions are
not validated and quotients may overflow: a row whose division signals must come after one that is
refused.
-/

namespace LotusAdvise.LotusCore

open Advisory (CashBalance FxRate Position Price)

section Statement

variable (texts : PayloadTexts) (portfolioBaseCurrency : String)
  (positionsPayload cashPayload : JsonObject)

/-- Each row of a position has its position. -/
def PositionsTranslated : Prop :=
  ∃ positions, buildPositions texts positionsPayload portfolioBaseCurrency = .ok positions ∧
    positions.map Position.instrumentId =
      (texts.nonCashRows positionsPayload).map texts.instrumentIdOf ∧
    (positions.map fun position => some (ExtendedDecimal.finite position.quantity)) =
      (texts.nonCashRows positionsPayload).map fun row => texts.decimalOrNone (row.get "quantity")

/-- The last row that holds an instrument. -/
def lastRowOf (instrumentId : String) : Option JsonObject :=
  (texts.nonCashRows positionsPayload).reverse.find? fun row =>
    texts.instrumentIdOf row = instrumentId

/-- Each instrument that is held has one price, a positive one from the last row that holds it. -/
def PricesTranslated : Prop :=
  ∃ prices, buildPrices texts positionsPayload = .ok prices ∧
    (prices.map Price.instrumentId).Nodup ∧
    ∀ instrumentId ∈ (texts.nonCashRows positionsPayload).map texts.instrumentIdOf,
      ∃ row, lastRowOf texts positionsPayload instrumentId = some row ∧
        ∃ price ∈ prices, price.instrumentId = instrumentId ∧ 0 < price.price ∧
          price.currency = texts.currencyOf row

/-- Each cash account has its balance. -/
def CashTranslated : Prop :=
  ∃ balances, buildCashBalances texts cashPayload = .ok balances ∧
    balances.map CashBalance.currency =
      (mappingRows cashPayload "cash_accounts").map texts.accountCurrencyOf ∧
    (balances.map fun balance => some (ExtendedDecimal.finite balance.amount)) =
      (mappingRows cashPayload "cash_accounts").map fun account =>
        texts.decimalOrNone (account.get "balance_account_currency")

/-- The rates have a positive one from a currency. -/
def HasRate (rates : List FxRate) (currency : String) : Prop :=
  ∃ rate ∈ rates, rate.pair = pairOf currency portfolioBaseCurrency ∧ 0 < rate.rate

/-- The rates fail as invalid, or there is one for every other currency with usable values. -/
def RatesDerived : Prop :=
  deriveFxRates texts portfolioBaseCurrency positionsPayload cashPayload =
      .error .invalidLotusCoreFxRate ∨
    ∃ rates, deriveFxRates texts portfolioBaseCurrency positionsPayload cashPayload = .ok rates ∧
      (∀ row ∈ texts.nonCashRows positionsPayload, texts.currencyOf row ≠ portfolioBaseCurrency →
        HasRate portfolioBaseCurrency rates (texts.currencyOf row)) ∧
      (∀ account ∈ mappingRows cashPayload "cash_accounts",
        texts.accountCurrencyOf account ≠ portfolioBaseCurrency →
          HasRate portfolioBaseCurrency rates (texts.accountCurrencyOf account)) ∧
      ∀ inputs ∈ rateInputs texts positionsPayload cashPayload,
        inputs.Captured portfolioBaseCurrency →
          HasRate portfolioBaseCurrency rates inputs.fromCurrency

/-- The payloads are translated without a loss and without another error than that of the rates. -/
structure TranslatedWithoutLoss : Prop where
  positionRows : positionsPayload.get "positions" =
    .arr ((mappingRows positionsPayload "positions").map Json.obj)
  cashRows : cashPayload.get "cash_accounts" =
    .arr ((mappingRows cashPayload "cash_accounts").map Json.obj)
  positions : PositionsTranslated texts portfolioBaseCurrency positionsPayload
  prices : PricesTranslated texts positionsPayload
  cash : CashTranslated texts cashPayload
  rates : RatesDerived texts portfolioBaseCurrency positionsPayload cashPayload

/-- The division of the values of a row signals. -/
def RateInputs.Signals (inputs : RateInputs) : Prop :=
  inputs.Captured portfolioBaseCurrency ∧
    ∃ numerator denominator, texts.decimalOrNone inputs.numerator = some numerator ∧
      texts.decimalOrNone inputs.denominator = some denominator ∧
      DivisionSignals numerator denominator

/-- The values of a row are refused: they are no decimals, or have no positive quotient in range. -/
def RateInputs.Refused (inputs : RateInputs) : Prop :=
  inputs.Captured portfolioBaseCurrency ∧
    ∀ numerator denominator, texts.decimalOrNone inputs.numerator = some numerator →
      texts.decimalOrNone inputs.denominator = some denominator →
        ¬ DivisionSignals numerator denominator ∧ ¬ QuotientInRange numerator denominator

/-- Every row whose division signals comes after one that is refused. -/
def SignalsAfterRefusal : Prop :=
  ∀ before inputs after,
    rateInputs texts positionsPayload cashPayload = before ++ inputs :: after →
      inputs.Signals texts portfolioBaseCurrency →
        ∃ earlier ∈ before, earlier.Refused texts portfolioBaseCurrency

end Statement

variable {texts : PayloadTexts} {portfolioBaseCurrency : String}
  {positionsPayload cashPayload : JsonObject}

/-! ## Rates -/

section Rates

variable {inputs : RateInputs} {numerator denominator : ExtendedDecimal} {e : TranslationError}

theorem fxRateFromValues_eq (h : inputs.Captured portfolioBaseCurrency)
    (hn : texts.decimalOrNone inputs.numerator = some numerator)
    (hd : texts.decimalOrNone inputs.denominator = some denominator) :
    fxRateFromValues texts portfolioBaseCurrency inputs =
      rateOfDecimals (pairOf inputs.fromCurrency portfolioBaseCurrency) numerator denominator := by
  rw [fxRateFromValues, if_neg (not_not.mpr h), requiredDecimalRateValue, hn,
    requiredDecimalRateValue, hd]
  rfl

/-- A value that is no decimal is refused. -/
theorem fxRateFromValues_of_none (h : inputs.Captured portfolioBaseCurrency)
    (hnone : texts.decimalOrNone inputs.numerator = none ∨
      texts.decimalOrNone inputs.denominator = none) :
    fxRateFromValues texts portfolioBaseCurrency inputs = .error .invalidLotusCoreFxRate := by
  rw [fxRateFromValues, if_neg (not_not.mpr h), requiredDecimalRateValue, requiredDecimalRateValue]
  rcases hn : texts.decimalOrNone inputs.numerator with _ | numerator
  · rfl
  · rw [hnone.resolve_left (by rw [hn]; exact Option.some_ne_none _)]
    rfl

/-- The values of a row signal, are refused, or make a rate if they are captured. -/
theorem fxRateFromValues_cases (texts : PayloadTexts) (portfolioBaseCurrency : String)
    (inputs : RateInputs) :
    (inputs.Signals texts portfolioBaseCurrency ∧ ∃ signal,
      fxRateFromValues texts portfolioBaseCurrency inputs = .error (.signal signal)) ∨
    (inputs.Refused texts portfolioBaseCurrency ∧
      fxRateFromValues texts portfolioBaseCurrency inputs = .error .invalidLotusCoreFxRate) ∨
    ¬ inputs.Signals texts portfolioBaseCurrency ∧ ¬ inputs.Refused texts portfolioBaseCurrency ∧
      ∃ rate?, fxRateFromValues texts portfolioBaseCurrency inputs = .ok rate? ∧
        (inputs.Captured portfolioBaseCurrency → ∃ rate, rate? = some rate ∧
          rate.pair = pairOf inputs.fromCurrency portfolioBaseCurrency) := by
  by_cases hcaptured : inputs.Captured portfolioBaseCurrency
  · rcases hn : texts.decimalOrNone inputs.numerator with _ | numerator
    · refine .inr (.inl ⟨⟨hcaptured, fun n d hn' => ?_⟩,
        fxRateFromValues_of_none hcaptured (.inl hn)⟩)
      rw [hn] at hn'
      cases hn'
    rcases hd : texts.decimalOrNone inputs.denominator with _ | denominator
    · refine .inr (.inl ⟨⟨hcaptured, fun n d _ hd' => ?_⟩,
        fxRateFromValues_of_none hcaptured (.inr hd)⟩)
      rw [hd] at hd'
      cases hd'
    have hsignals_iff : inputs.Signals texts portfolioBaseCurrency ↔
        DivisionSignals numerator denominator := by
      simp [RateInputs.Signals, hcaptured, hn, hd]
    have hrefused_iff : inputs.Refused texts portfolioBaseCurrency ↔
        ¬ DivisionSignals numerator denominator ∧ ¬ QuotientInRange numerator denominator := by
      simp [RateInputs.Refused, hcaptured, hn, hd]
    rw [fxRateFromValues_eq hcaptured hn hd, hsignals_iff, hrefused_iff]
    rcases rateOutcome (pairOf inputs.fromCurrency portfolioBaseCurrency) numerator denominator with
      hsignals | ⟨hsignals, hrange, rate, hrate, hpair⟩ | ⟨hsignals, hrange, herror⟩
    · exact .inl hsignals
    · exact .inr (.inr ⟨hsignals, fun h => h.2 hrange, some rate, hrate,
        fun _ => ⟨rate, rfl, hpair⟩⟩)
    · exact .inr (.inl ⟨⟨hsignals, hrange⟩, herror⟩)
  · refine .inr (.inr ⟨fun h => hcaptured h.1, fun h => hcaptured h.1, none, ?_,
      fun h => absurd h hcaptured⟩)
    rw [fxRateFromValues, if_pos hcaptured]

/-- A row fails otherwise than as invalid when its division signals. -/
theorem signals_iff : inputs.Signals texts portfolioBaseCurrency ↔ ∃ e,
    fxRateFromValues texts portfolioBaseCurrency inputs = .error e ∧
      ¬ e = .invalidLotusCoreFxRate := by
  rcases fxRateFromValues_cases texts portfolioBaseCurrency inputs with
    ⟨hsignals, signal, herror⟩ | ⟨⟨-, hrefused⟩, herror⟩ | ⟨hnot, -, rate?, hok, -⟩
  · exact ⟨fun _ => ⟨_, herror, nofun⟩, fun _ => hsignals⟩
  · refine ⟨?_, ?_⟩
    · rintro ⟨-, numerator, denominator, hn, hd, hsignals⟩
      exact absurd hsignals (hrefused numerator denominator hn hd).1
    · rintro ⟨e, he, hother⟩
      rw [herror] at he
      exact absurd (Except.error.inj he).symm hother
  · refine ⟨fun h => absurd h hnot, ?_⟩
    rintro ⟨e, he, -⟩
    rw [hok] at he
    cases he

theorem refused_iff : inputs.Refused texts portfolioBaseCurrency ↔ ∃ e,
    fxRateFromValues texts portfolioBaseCurrency inputs = .error e ∧
      e = .invalidLotusCoreFxRate := by
  rcases fxRateFromValues_cases texts portfolioBaseCurrency inputs with
    ⟨⟨-, numerator, denominator, hn, hd, hsignals⟩, signal, herror⟩ | ⟨hrefused, herror⟩ |
    ⟨-, hnot, rate?, hok, -⟩
  · refine ⟨fun h => absurd hsignals (h.2 numerator denominator hn hd).1, ?_⟩
    rintro ⟨e, he, rfl⟩
    rw [herror] at he
    cases he
  · exact ⟨fun _ => ⟨_, herror, rfl⟩, fun _ => hrefused⟩
  · refine ⟨fun h => absurd h hnot, ?_⟩
    rintro ⟨e, he, -⟩
    rw [hok] at he
    cases he

theorem deriveFxRates_eq_error {e : TranslationError} :
    deriveFxRates texts portfolioBaseCurrency positionsPayload cashPayload = .error e ↔
      (rateInputs texts positionsPayload cashPayload).mapM
        (fxRateFromValues texts portfolioBaseCurrency) = .error e := by
  unfold deriveFxRates
  cases (rateInputs texts positionsPayload cashPayload).mapM
    (fxRateFromValues texts portfolioBaseCurrency) <;> simp [Except.map]

/-- The rates fail as invalid only if and only if every signal comes after a refusal. -/
theorem fails_invalid_iff :
    (∀ e, deriveFxRates texts portfolioBaseCurrency positionsPayload cashPayload = .error e →
      e = .invalidLotusCoreFxRate) ↔
      SignalsAfterRefusal texts portfolioBaseCurrency positionsPayload cashPayload := by
  simp only [deriveFxRates_eq_error]
  rw [mapM_fails_well_iff]
  unfold SignalsAfterRefusal
  simp only [signals_iff, refused_iff]
  constructor
  · rintro hafter before inputs after hsplit ⟨e, herror, hother⟩
    exact hafter before inputs after e hsplit herror hother
  · intro hafter before inputs after e hsplit herror hother
    exact hafter before inputs after hsplit ⟨e, herror, hother⟩

/-- Rates that are derived cover what was captured. -/
theorem hasRate_of_captured {rates : List FxRate}
    (h : deriveFxRates texts portfolioBaseCurrency positionsPayload cashPayload = .ok rates)
    (hinputs : inputs ∈ rateInputs texts positionsPayload cashPayload)
    (hcaptured : inputs.Captured portfolioBaseCurrency) :
    HasRate portfolioBaseCurrency rates inputs.fromCurrency := by
  obtain ⟨results, hresults, rfl⟩ := map_eq_ok.mp h
  obtain ⟨result, hresult, hok⟩ :=
    Alongside.exists_right (Alongside.mapM_eq_ok_iff.mp hresults) hinputs
  rcases fxRateFromValues_cases texts portfolioBaseCurrency inputs with
    ⟨-, signal, herror⟩ | ⟨-, herror⟩ | ⟨-, -, rate?, hrate?, hrate⟩
  · rw [hok] at herror
    cases herror
  · rw [hok] at herror
    cases herror
  · cases hok.symm.trans hrate?
    obtain ⟨rate, rfl, hpair⟩ := hrate hcaptured
    obtain ⟨last, hlast, hkey⟩ :=
      exists_mem_lastByKey FxRate.pair (List.reduceOption_mem_iff.mpr hresult)
    exact ⟨last, hlast, hkey.trans hpair, last.positive⟩

end Rates

/-! ## Rows -/

section Rows

variable {row valuation account : JsonObject} {quantity marketValue price : ℚ}

theorem ValidPosition.marketValueFromPayload_eq
    (h : ValidPosition texts portfolioBaseCurrency row valuation quantity marketValue price) :
    marketValueFromPayload texts row portfolioBaseCurrency =
      .ok (some ⟨marketValue, portfolioBaseCurrency⟩) := by
  simp only [marketValueFromPayload, h.valuation_eq, h.marketValue_eq]
  rfl

theorem ValidPosition.positionFromPayload_eq
    (h : ValidPosition texts portfolioBaseCurrency row valuation quantity marketValue price)
    (hcash : ¬ texts.IsCashAssetClass (row.get "asset_class")) :
    positionFromPayload texts portfolioBaseCurrency row = .ok (some ⟨texts.instrumentIdOf row,
      quantity, some ⟨marketValue, portfolioBaseCurrency⟩⟩) := by
  simp only [positionFromPayload, if_neg hcash, h.quantity_eq, if_neg h.instrumentId_ne,
    h.marketValueFromPayload_eq]
  rfl

theorem ValidPosition.priceFromPosition_eq
    (h : ValidPosition texts portfolioBaseCurrency row valuation quantity marketValue price)
    (hcash : ¬ texts.IsCashAssetClass (row.get "asset_class")) :
    priceFromPosition texts row =
      .ok (some ⟨texts.instrumentIdOf row, price, texts.currencyOf row⟩) := by
  have hnamed : ¬ (texts.instrumentIdOf row = "" ∨ texts.currencyOf row = "") :=
    fun hempty => hempty.elim h.instrumentId_ne h.currency_ne
  simp only [priceFromPosition, if_neg hcash, h.valuation_eq, if_neg hnamed, h.price_eq]
  rfl

/-- The rows of positions that are accepted. -/
def AcceptedRows (texts : PayloadTexts) (portfolioBaseCurrency : String)
    (positionsPayload : JsonObject) : Prop :=
  ∀ row ∈ texts.nonCashRows positionsPayload, ∃ valuation quantity marketValue price,
    ValidPosition texts portfolioBaseCurrency row valuation quantity marketValue price

theorem mem_nonCashRows : row ∈ texts.nonCashRows positionsPayload ↔
    row ∈ mappingRows positionsPayload "positions" ∧
      ¬ texts.IsCashAssetClass (row.get "asset_class") := by
  rw [PayloadTexts.nonCashRows, List.mem_filter, decide_eq_true_eq]

theorem positionsTranslated
    (h : AcceptedRows texts portfolioBaseCurrency positionsPayload) :
    PositionsTranslated texts portfolioBaseCurrency positionsPayload := by
  have hwalk : ∃ results, (mappingRows positionsPayload "positions").mapM
      (positionFromPayload texts portfolioBaseCurrency) = .ok results ∧
      List.Forall₂ (fun row position => texts.instrumentIdOf row = position.instrumentId ∧
        texts.decimalOrNone (row.get "quantity") = some (.finite position.quantity))
        (texts.nonCashRows positionsPayload) results.reduceOption := by
    refine exists_mapM_reduceOption ?_ ?_
    · intro row _ hcash
      rw [positionFromPayload, if_pos (not_not.mp hcash)]
    · intro row hrow hcash
      obtain ⟨valuation, quantity, marketValue, price, hvalid⟩ :=
        h row (mem_nonCashRows.mpr ⟨hrow, hcash⟩)
      exact ⟨_, hvalid.positionFromPayload_eq hcash, rfl, hvalid.quantity_eq⟩
  obtain ⟨results, hresults, hpairs⟩ := hwalk
  refine ⟨results.reduceOption, ?_, ?_, ?_⟩
  · rw [buildPositions, hresults]
    rfl
  · exact (Alongside.map_eq_map hpairs fun _ _ hrow => hrow.1).symm
  · exact (Alongside.map_eq_map hpairs fun _ _ hrow => hrow.2).symm

/-- Every instrument that is held has a last row that holds it. -/
theorem exists_lastRowOf {instrumentId : String}
    (h : instrumentId ∈ (texts.nonCashRows positionsPayload).map texts.instrumentIdOf) :
    ∃ row, lastRowOf texts positionsPayload instrumentId = some row := by
  obtain ⟨row, hrow, rfl⟩ := List.mem_map.mp h
  rcases hfind : lastRowOf texts positionsPayload (texts.instrumentIdOf row) with _ | last
  · have hnone := List.find?_eq_none.mp hfind row (List.mem_reverse.mpr hrow)
    exact absurd (decide_eq_true rfl) hnone
  · exact ⟨last, rfl⟩

theorem pricesTranslated (h : AcceptedRows texts portfolioBaseCurrency positionsPayload) :
    PricesTranslated texts positionsPayload := by
  have hwalk : ∃ results, (mappingRows positionsPayload "positions").mapM
      (priceFromPosition texts) = .ok results ∧
      List.Forall₂ (fun row price => texts.instrumentIdOf row = price.instrumentId ∧
        texts.currencyOf row = price.currency ∧ 0 < price.price)
        (texts.nonCashRows positionsPayload) results.reduceOption := by
    refine exists_mapM_reduceOption ?_ ?_
    · intro row _ hcash
      rw [priceFromPosition, if_pos (not_not.mp hcash)]
    · intro row hrow hcash
      obtain ⟨valuation, quantity, marketValue, price, hvalid⟩ :=
        h row (mem_nonCashRows.mpr ⟨hrow, hcash⟩)
      exact ⟨_, hvalid.priceFromPosition_eq hcash, rfl, rfl, hvalid.price_pos⟩
  obtain ⟨results, hresults, hpairs⟩ := hwalk
  refine ⟨lastByKey Price.instrumentId results.reduceOption, ?_, nodup_lastByKey, ?_⟩
  · rw [buildPrices, hresults]
    rfl
  · intro instrumentId hheld
    obtain ⟨row, hrow⟩ := exists_lastRowOf hheld
    obtain ⟨price, hprice, hid, hcurrency, hpos⟩ := exists_find?_of_forall₂
      (q := fun price => decide (price.instrumentId = instrumentId))
      (fun row price hr => by rw [hr.1]) (List.rel_reverse hpairs) hrow
    refine ⟨row, hrow, price, mem_lastByKey hprice, ?_, hpos, hcurrency.symm⟩
    simpa using List.find?_some hprice

theorem cashTranslated
    (h : ∀ account ∈ mappingRows cashPayload "cash_accounts", AcceptsCash texts account) :
    CashTranslated texts cashPayload := by
  have hwalk : ∃ results, (mappingRows cashPayload "cash_accounts").mapM (cashBalance? texts) =
      .ok results ∧
      List.Forall₂ (fun account balance => texts.accountCurrencyOf account = balance.currency ∧
        texts.decimalOrNone (account.get "balance_account_currency") =
          some (.finite balance.amount))
        ((mappingRows cashPayload "cash_accounts").filter fun _ => True) results.reduceOption := by
    refine exists_mapM_reduceOption (fun _ _ hnot => absurd trivial hnot) ?_
    intro account haccount _
    obtain ⟨hcurrency, amount, hamount⟩ := h account haccount
    refine ⟨⟨texts.accountCurrencyOf account, amount⟩, ?_, rfl, hamount⟩
    simp only [cashBalance?, if_neg hcurrency, hamount]
    rfl
  obtain ⟨results, hresults, hpairs⟩ := hwalk
  rw [List.filter_eq_self.mpr fun _ _ => decide_eq_true trivial] at hpairs
  refine ⟨results.reduceOption, ?_, ?_, ?_⟩
  · rw [buildCashBalances, hresults]
    rfl
  · exact (Alongside.map_eq_map hpairs fun _ _ hrow => hrow.1).symm
  · exact (Alongside.map_eq_map hpairs fun _ _ hrow => hrow.2).symm

theorem explicit_of_decimal {value : Json} {x : ExtendedDecimal}
    (h : texts.decimalOrNone value = some x) : ExplicitRateValue value := by
  constructor
  · rintro rfl
    cases h
  · rintro rfl
    cases h

/-- A valid position in another currency has values that are captured. -/
theorem ValidPosition.captured
    (h : ValidPosition texts portfolioBaseCurrency row valuation quantity marketValue price)
    (hbase : portfolioBaseCurrency ≠ "") (hother : texts.currencyOf row ≠ portfolioBaseCurrency) :
    ∃ inputs, positionRateInputs? texts row = some inputs ∧
      inputs.fromCurrency = texts.currencyOf row ∧ inputs.Captured portfolioBaseCurrency := by
  obtain ⟨x, hx, -⟩ := h.local_eq hother
  rw [positionRateInputs?, h.valuation_eq]
  exact ⟨_, rfl, rfl, ⟨h.currency_ne, hbase, hother⟩, explicit_of_decimal h.marketValue_eq,
    explicit_of_decimal hx⟩

theorem AcceptsCashFx.captured (h : AcceptsCashFx texts portfolioBaseCurrency account)
    (hbase : portfolioBaseCurrency ≠ "") (hnamed : texts.accountCurrencyOf account ≠ "")
    (hother : texts.accountCurrencyOf account ≠ portfolioBaseCurrency) :
    (cashRateInputs texts account).Captured portfolioBaseCurrency := by
  obtain ⟨⟨x, hx⟩, y, hy, -⟩ := (h.resolve_left hnamed).resolve_left hother
  exact ⟨⟨hnamed, hbase, hother⟩, explicit_of_decimal hx, explicit_of_decimal hy⟩

end Rows

/-! ## Reports -/

theorem required_not_rejected {context : CompletenessContext}
    (h : ¬ (buildLotusCoreSourceCompleteness texts context portfolioBaseCurrency positionsPayload
      cashPayload).HasRequiredRejections) :
    (positionsCompleteness texts positionsPayload portfolioBaseCurrency).rejectedCount = 0 ∧
      (cashCompleteness texts cashPayload).rejectedCount = 0 ∧
      (fxCompleteness texts positionsPayload cashPayload portfolioBaseCurrency).rejectedCount =
        0 := by
  have hcollection : ∀ collection ∈ sourceCollections texts context portfolioBaseCurrency
      positionsPayload cashPayload, collection.required = true → collection.rejectedCount = 0 := by
    intro collection hmem hrequired
    by_contra hcount
    exact h ⟨collection, hmem, hrequired, Nat.pos_of_ne_zero hcount⟩
  unfold sourceCollections at hcollection
  simp only [List.forall_mem_cons] at hcollection
  obtain ⟨hpositions, hcash, -, hfx, -⟩ := hcollection
  exact ⟨hpositions required_positionsCompleteness, hcash required_cashCompleteness,
    hfx required_fxCompleteness⟩

/-- Payloads without required rejections are translated without a loss if and only if every row
whose division signals comes after one that is refused. -/
theorem translatedWithoutLoss_iff (texts : PayloadTexts) (context : CompletenessContext)
    (portfolioBaseCurrency : String) (positionsPayload cashPayload : JsonObject)
    (hbase : portfolioBaseCurrency ≠ "")
    (haccepted : ¬ (buildLotusCoreSourceCompleteness texts context portfolioBaseCurrency
      positionsPayload cashPayload).HasRequiredRejections) :
    TranslatedWithoutLoss texts portfolioBaseCurrency positionsPayload cashPayload ↔
      SignalsAfterRefusal texts portfolioBaseCurrency positionsPayload cashPayload := by
  obtain ⟨hpositions, hcash, hfx⟩ := required_not_rejected haccepted
  obtain ⟨hpositionRows, hrows⟩ := accepted_positions hpositions
  obtain ⟨hcashRows, haccounts⟩ := accepted_cash hcash
  rw [← fails_invalid_iff]
  constructor
  · intro htranslated e herror
    rcases htranslated.rates with hinvalid | ⟨rates, hok, -⟩
    · rw [herror] at hinvalid
      exact Except.error.inj hinvalid
    · rw [herror] at hok
      cases hok
  · intro hinvalid
    refine ⟨hpositionRows, hcashRows, positionsTranslated hrows, pricesTranslated hrows,
      cashTranslated haccounts, ?_⟩
    rcases hderived : deriveFxRates texts portfolioBaseCurrency positionsPayload cashPayload with
      e | rates
    · rw [hinvalid e hderived] at hderived
      exact .inl hderived
    refine .inr ⟨rates, hderived, ?_, ?_, fun inputs => hasRate_of_captured hderived⟩
    · intro row hrow hother
      obtain ⟨valuation, quantity, marketValue, price, hvalid⟩ := hrows row hrow
      obtain ⟨inputs, hinputs, hcurrency, hcaptured⟩ := hvalid.captured hbase hother
      have hmem : inputs ∈ rateInputs texts positionsPayload cashPayload := by
        refine List.mem_append_left _ (List.mem_filterMap.mpr ⟨row, ?_, hinputs⟩)
        exact (mem_nonCashRows.mp hrow).1
      rw [← hcurrency]
      exact hasRate_of_captured hderived hmem hcaptured
    · intro account haccount hother
      have hcaptured := (accepted_cashFx hfx haccount).captured hbase
        (haccounts account haccount).1 hother
      have hmem : cashRateInputs texts account ∈ rateInputs texts positionsPayload cashPayload :=
        List.mem_append_right _ (List.mem_map_of_mem haccount)
      have hrate : HasRate portfolioBaseCurrency rates
          (cashRateInputs texts account).fromCurrency := hasRate_of_captured hderived hmem hcaptured
      exact hrate

/-- The error of a translation that fails. -/
def failure? {α : Type} : Except TranslationError α → Option TranslationError
  | .error e => some e
  | .ok _ => none

theorem failure?_eq_some {α : Type} {x : Except TranslationError α} {e : TranslationError} :
    failure? x = some e ↔ x = .error e := by
  cases x <;> simp [failure?]

namespace Sample

/-- The texts of payloads without arrays, objects or digits outside ASCII where texts are read. -/
def asciiTexts : PayloadTexts where
  strItems := Json.text
  lower text := String.ofList (text.toList.map Char.toLower)
  digit? _ := none

def emptyContext : CompletenessContext where
  portfolioId := "pf_1"
  resolvedAsOf := "2026-01-31"
  enrichmentByInstrumentId := []
  classificationTaxonomy := none
  classificationTaxonomyUnavailable := false
  enrichmentMalformedRecordCount := 0

def positionRow (assetClass currency marketValue marketValueLocal : String) : Json :=
  .obj [("security_id", .str "SEC_A"), ("asset_class", .str assetClass), ("quantity", .str "10"),
    ("currency", .str currency),
    ("valuation", .obj [("market_value", .str marketValue),
      ("market_value_local", .str marketValueLocal), ("market_price", .str "11")])]

def heldPositions : JsonObject := [("positions", .arr [positionRow "EQUITY" "EUR" "110" "100"])]

/-- The same position beside one of cash, whose value is a signalling NaN. -/
def signallingPositions : JsonObject :=
  [("positions", .arr [positionRow "EQUITY" "EUR" "110" "100",
    positionRow "Cash" "CHF" "sNaN" "1"])]

def cashAccounts : JsonObject :=
  [("cash_accounts", .arr [.obj [("account_currency", .str "USD"),
    ("balance_account_currency", .int 25), ("balance_portfolio_currency", .int 25)]])]

theorem held_accepted : ¬ (buildLotusCoreSourceCompleteness asciiTexts emptyContext "USD"
    heldPositions cashAccounts).HasRequiredRejections := by
  decide +kernel

end Sample

/-- A signalling NaN in a row of a cash position is accepted, and the derivation of the rates fails
with another error. -/
theorem signalling_cash_position_not_translated :
    ¬ (buildLotusCoreSourceCompleteness Sample.asciiTexts Sample.emptyContext "USD"
      Sample.signallingPositions Sample.cashAccounts).HasRequiredRejections ∧
    deriveFxRates Sample.asciiTexts "USD" Sample.signallingPositions Sample.cashAccounts =
      .error (.signal .invalidOperation) ∧
    ¬ TranslatedWithoutLoss Sample.asciiTexts "USD" Sample.signallingPositions
      Sample.cashAccounts := by
  have hfails : deriveFxRates Sample.asciiTexts "USD" Sample.signallingPositions
      Sample.cashAccounts = .error (.signal .invalidOperation) := by
    rw [← failure?_eq_some]
    decide +kernel
  refine ⟨by decide +kernel, hfails, fun htranslated => ?_⟩
  rcases htranslated.rates with hinvalid | ⟨rates, hok, -⟩
  · rw [hfails] at hinvalid
    cases hinvalid
  · rw [hfails] at hok
    cases hok

/-- A position in another currency is translated. -/
theorem translatedWithoutLoss_iff_held :
    TranslatedWithoutLoss Sample.asciiTexts "USD" Sample.heldPositions Sample.cashAccounts ↔
      SignalsAfterRefusal Sample.asciiTexts "USD" Sample.heldPositions Sample.cashAccounts :=
  translatedWithoutLoss_iff Sample.asciiTexts Sample.emptyContext "USD" Sample.heldPositions
    Sample.cashAccounts (by decide) Sample.held_accepted

end LotusAdvise.LotusCore

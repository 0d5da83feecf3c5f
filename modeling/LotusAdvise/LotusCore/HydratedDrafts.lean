import LotusAdvise.LotusCore.TradeDraftHydration
import Mathlib.Tactic.NormNum

/-! # What a hydration adds

A hydration only appends to a request, at most one price and one shelf entry for an instrument, and
at most one rate for a pair. What it appends is what the source has for the instrument. After it
nothing is left to append, so that another hydration changes nothing.
-/

namespace LotusAdvise.LotusCore

open Advisory (FxRate Price ProposalSimulateRequest ShelfEntry)

/-! ## Without the caches -/

section Uncached

variable {texts : ClassificationTexts} {env : SourceEnvironment}
  {source : SourceRequest → Option JsonObject} {portfolioId asOf instrumentId : String}

@[simp] theorem eval_translated {A : Type} (result : Except TranslationError A) :
    (translated result).eval (uncached source) = result.mapError SourceReadError.translation := rfl

/-- The rows of an instrument, if the source has both. -/
def tradeRows (env : SourceEnvironment) (source : SourceRequest → Option JsonObject)
    (asOf instrumentId : String) : Except SourceReadError (Option (JsonObject × JsonObject)) := do
  let instrumentPayload ← answered source (env.instrumentRequest instrumentId)
    "LOTUS_CORE_STATEFUL_INSTRUMENT_LOOKUP_UNAVAILABLE"
  match selectInstrumentRow instrumentPayload with
  | none => return none
  | some instrumentRow =>
    let pricePayload ← answered source (env.priceRequest instrumentId)
      "LOTUS_CORE_STATEFUL_PRICE_LOOKUP_UNAVAILABLE"
    return (selectLatestPriceRow pricePayload asOf).map (instrumentRow, ·)

theorem eval_enrichMissingTradeInstrument {context : HydrationContext}
    {before : ProposalSimulateRequest} :
    (enrichMissingTradeInstrument texts env portfolioId asOf context before instrumentId).eval
        (uncached source) =
      tradeRows env source asOf instrumentId >>= fun rows =>
        match rows with
        | none => .ok before
        | some rows => (appendTradeInstrument texts env portfolioId asOf context before instrumentId
            rows.1 rows.2).eval (uncached source) := by
  unfold enrichMissingTradeInstrument fetchTradeInstrumentRow fetchTradePriceRow tradeRows
  rw [Calls.eval_bind, Calls.eval_bind, eval_fetchJsonWithCache]
  cases answered source (env.instrumentRequest instrumentId)
    "LOTUS_CORE_STATEFUL_INSTRUMENT_LOOKUP_UNAVAILABLE" with
  | error error => rfl
  | ok instrumentPayload =>
    change (match selectInstrumentRow instrumentPayload with
      | none => _
      | some instrumentRow => _ : SourceProgram ProposalSimulateRequest).eval (uncached source) =
        (match selectInstrumentRow instrumentPayload with
        | none => _
        | some instrumentRow => _) >>= _
    cases selectInstrumentRow instrumentPayload with
    | none => rfl
    | some instrumentRow =>
      dsimp only
      rw [Calls.eval_bind, Calls.eval_bind, eval_fetchJsonWithCache]
      cases answered source (env.priceRequest instrumentId)
        "LOTUS_CORE_STATEFUL_PRICE_LOOKUP_UNAVAILABLE" with
      | error error => rfl
      | ok pricePayload =>
        change (match selectLatestPriceRow pricePayload asOf with
          | none => _
          | some latestPriceRow => _ : SourceProgram ProposalSimulateRequest).eval
            (uncached source) = _
        cases hrow : selectLatestPriceRow pricePayload asOf with
        | none =>
          simp only [bind, Except.bind, pure, Except.pure, hrow, Option.map_none]
          rfl
        | some latestPriceRow =>
          simp only [bind, Except.bind, pure, Except.pure, hrow, Option.map_some]

end Uncached

/-! ## Additions -/

/-- What is appended to a request. -/
structure Additions where
  prices : List Price := []
  entries : List ShelfEntry := []
  rates : List FxRate := []

namespace Additions

def append (first second : Additions) : Additions where
  prices := first.prices ++ second.prices
  entries := first.entries ++ second.entries
  rates := first.rates ++ second.rates

def appendTo (additions : Additions) (request : ProposalSimulateRequest) :
    ProposalSimulateRequest :=
  { request with
    marketDataSnapshot.prices := request.marketDataSnapshot.prices ++ additions.prices
    marketDataSnapshot.fxRates := request.marketDataSnapshot.fxRates ++ additions.rates
    shelfEntries := request.shelfEntries ++ additions.entries }

section AppendTo

variable {additions first second : Additions} {request : ProposalSimulateRequest}
  {instrumentId fromCurrency toCurrency : String}

@[simp] theorem appendTo_empty : appendTo {} request = request := by simp [appendTo]

theorem appendTo_append :
    (first.append second).appendTo request = second.appendTo (first.appendTo request) := by
  simp [append, appendTo]

@[simp] theorem baseCurrency_appendTo :
    (additions.appendTo request).portfolioSnapshot = request.portfolioSnapshot := rfl

@[simp] theorem proposedTrades_appendTo :
    (additions.appendTo request).proposedTrades = request.proposedTrades := rfl

theorem hasPrice_appendTo : HasPrice (additions.appendTo request) instrumentId ↔
    HasPrice request instrumentId ∨ instrumentId ∈ additions.prices.map Price.instrumentId := by
  simp [HasPrice, appendTo, or_and_right, exists_or]

theorem shelfEntryExists_appendTo :
    ShelfEntryExists (additions.appendTo request) instrumentId ↔
      ShelfEntryExists request instrumentId ∨
        instrumentId ∈ additions.entries.map ShelfEntry.instrumentId := by
  simp [ShelfEntryExists, appendTo, or_and_right, exists_or]

theorem hasFxPair_appendTo : HasFxPair (additions.appendTo request) fromCurrency toCurrency ↔
    HasFxPair request fromCurrency toCurrency ∨ ∃ rate ∈ additions.rates,
      rate.pair = pairOf fromCurrency toCurrency ∨ rate.pair = pairOf toCurrency fromCurrency := by
  simp [HasFxPair, appendTo, or_and_right, exists_or]

end AppendTo

end Additions

section Steps

variable {texts : ClassificationTexts} {env : SourceEnvironment}
  {source : SourceRequest → Option JsonObject} {portfolioId asOf instrumentId currency : String}
  {context : HydrationContext} {before after : ProposalSimulateRequest}
  {instrumentRow latestPriceRow : JsonObject}

/-- A price is appended only if there was none, and the row has one. -/
theorem appendPriceIfMissing_eq_ok
    (h : appendPriceIfMissing texts before instrumentId currency latestPriceRow = .ok after) :
    ∃ price : Option Price, after = Additions.appendTo { prices := price.toList } before ∧
      (HasPrice before instrumentId ∧ price = none ∨ ¬ HasPrice before instrumentId ∧
        priceOfRow texts instrumentId currency latestPriceRow = .ok price) := by
  unfold appendPriceIfMissing at h
  split_ifs at h with hprice
  · cases h
    exact ⟨none, by simp, .inl ⟨hprice, rfl⟩⟩
  · obtain ⟨price, hrow, rfl⟩ := map_eq_ok.mp h
    refine ⟨price, ?_, .inr ⟨hprice, hrow⟩⟩
    cases price <;> simp [addPrice, Additions.appendTo]

theorem appendShelfEntryIfMissing_eq_ok {enrichmentRow : JsonObject}
    {taxonomy : Option VersionedTaxonomy}
    (h : appendShelfEntryIfMissing texts before instrumentId instrumentRow enrichmentRow taxonomy =
      .ok after) :
    ∃ entry : Option ShelfEntry, after = Additions.appendTo { entries := entry.toList } before ∧
      (ShelfEntryExists before instrumentId ∧ entry = none ∨
        ¬ ShelfEntryExists before instrumentId ∧ ∃ new, entry = some new ∧
          tradeDraftShelfEntry texts instrumentId instrumentRow enrichmentRow taxonomy =
            .ok new) := by
  unfold appendShelfEntryIfMissing at h
  split_ifs at h with hentry
  · cases h
    exact ⟨none, by simp, .inl ⟨hentry, rfl⟩⟩
  · obtain ⟨entry, hrow, rfl⟩ := map_eq_ok.mp h
    exact ⟨some entry, by simp [addShelfEntry, Additions.appendTo],
      .inr ⟨hentry, entry, rfl, hrow⟩⟩

/-- A rate is needed if the currency is another one, and there is no rate for it. -/
def NeedsFxRate (request : ProposalSimulateRequest) (currency : String) : Prop :=
  currency ≠ request.portfolioSnapshot.baseCurrency ∧
    ¬ HasFxPair request currency request.portfolioSnapshot.baseCurrency

theorem appendFxRateIfMissing_eq_ok
    (h : (appendFxRateIfMissing texts env portfolioId asOf before currency).eval
      (uncached source) = .ok after) :
    ∃ rate : Option FxRate, after = Additions.appendTo { rates := rate.toList } before ∧
      (¬ NeedsFxRate before currency ∧ rate = none ∨ NeedsFxRate before currency ∧
        ∃ payload, source (env.fxRequest currency before.portfolioSnapshot.baseCurrency) =
          some payload ∧ fxRateOfPayload texts currency before.portfolioSnapshot.baseCurrency asOf
            payload = .ok rate) := by
  unfold appendFxRateIfMissing at h
  split_ifs at h with hheld
  · cases h
    refine ⟨none, by simp, .inl ⟨fun hneeds => ?_, rfl⟩⟩
    exact hheld.elim hneeds.1 hneeds.2
  · rw [Calls.eval_bind, eval_fetchJsonWithCache] at h
    obtain ⟨payload, hpayload, h⟩ := bind_eq_ok.mp h
    rw [Calls.eval_bind, eval_translated] at h
    obtain ⟨rate, hrate, h⟩ := bind_eq_ok.mp h
    cases h
    refine ⟨rate, ?_, .inr ⟨not_or.mp hheld, payload, answered_eq_ok.mp hpayload,
      mapError_eq_ok.mp hrate⟩⟩
    cases rate <;> simp [addFxRate, Additions.appendTo]

/-- The rows of an instrument that has a currency. -/
def LookedUp (texts : ClassificationTexts) (env : SourceEnvironment)
    (source : SourceRequest → Option JsonObject) (asOf instrumentId : String)
    (rows : JsonObject × JsonObject) : Prop :=
  tradeRows env source asOf instrumentId = .ok (some rows) ∧
    tradeInstrumentCurrency texts rows.1 rows.2 ≠ ""

/-- The rate for a currency that the source has. -/
def SourceRate (texts : ClassificationTexts) (env : SourceEnvironment)
    (source : SourceRequest → Option JsonObject) (baseCurrency asOf currency : String)
    (rate : Option FxRate) : Prop :=
  ∃ payload, source (env.fxRequest currency baseCurrency) = some payload ∧
    fxRateOfPayload texts currency baseCurrency asOf payload = .ok rate

/-- What the rows of an instrument add to a request. -/
structure AddsFor (texts : ClassificationTexts) (env : SourceEnvironment)
    (source : SourceRequest → Option JsonObject) (asOf : String) (context : HydrationContext)
    (before : ProposalSimulateRequest) (instrumentId : String) (rows : JsonObject × JsonObject)
    (price : Option Price) (entry : Option ShelfEntry) (rate : Option FxRate) : Prop where
  price : HasPrice before instrumentId ∧ price = none ∨ ¬ HasPrice before instrumentId ∧
    priceOfRow texts instrumentId (tradeInstrumentCurrency texts rows.1 rows.2) rows.2 = .ok price
  entry : ShelfEntryExists before instrumentId ∧ entry = none ∨
    ¬ ShelfEntryExists before instrumentId ∧ ∃ new, entry = some new ∧
      tradeDraftShelfEntry texts instrumentId rows.1
        ((Dict.get? context.enrichmentByInstrumentId instrumentId).getD [])
        context.classificationTaxonomy = .ok new
  rate : ¬ NeedsFxRate before (tradeInstrumentCurrency texts rows.1 rows.2) ∧ rate = none ∨
    NeedsFxRate before (tradeInstrumentCurrency texts rows.1 rows.2) ∧
      SourceRate texts env source before.portfolioSnapshot.baseCurrency asOf
        (tradeInstrumentCurrency texts rows.1 rows.2) rate

theorem appendTradeInstrument_eq_ok {rows : JsonObject × JsonObject}
    (hcurrency : tradeInstrumentCurrency texts rows.1 rows.2 ≠ "")
    (h : (appendTradeInstrument texts env portfolioId asOf context before instrumentId rows.1
      rows.2).eval (uncached source) = .ok after) :
    ∃ price entry rate, AddsFor texts env source asOf context before instrumentId rows price entry
        rate ∧
      after = Additions.appendTo ⟨price.toList, entry.toList, rate.toList⟩ before := by
  unfold appendTradeInstrument at h
  rw [if_neg hcurrency, Calls.eval_bind, eval_translated] at h
  obtain ⟨priced, hpriced, h⟩ := bind_eq_ok.mp h
  rw [Calls.eval_bind, eval_translated] at h
  obtain ⟨shelved, hshelved, h⟩ := bind_eq_ok.mp h
  obtain ⟨price, rfl, hprice⟩ := appendPriceIfMissing_eq_ok (mapError_eq_ok.mp hpriced)
  obtain ⟨entry, rfl, hentry⟩ := appendShelfEntryIfMissing_eq_ok (mapError_eq_ok.mp hshelved)
  obtain ⟨rate, rfl, hrate⟩ := appendFxRateIfMissing_eq_ok h
  refine ⟨price, entry, rate, ⟨hprice, ?_, ?_⟩, ?_⟩
  · simpa [Additions.shelfEntryExists_appendTo] using hentry
  · simpa [NeedsFxRate, SourceRate, Additions.hasFxPair_appendTo] using hrate
  · simp [Additions.appendTo]

/-- A step does nothing, or it adds what the rows of the instrument have. -/
theorem enrichMissingTradeInstrument_eq_ok
    (h : (enrichMissingTradeInstrument texts env portfolioId asOf context before instrumentId).eval
      (uncached source) = .ok after) :
    (∃ rows, tradeRows env source asOf instrumentId = .ok rows) ∧
      ((∀ rows, ¬ LookedUp texts env source asOf instrumentId rows) ∧ after = before ∨
        ∃ rows price entry rate, LookedUp texts env source asOf instrumentId rows ∧
          AddsFor texts env source asOf context before instrumentId rows price entry rate ∧
          after = Additions.appendTo ⟨price.toList, entry.toList, rate.toList⟩ before) := by
  rw [eval_enrichMissingTradeInstrument] at h
  obtain ⟨rows, hrows, h⟩ := bind_eq_ok.mp h
  refine ⟨⟨rows, hrows⟩, ?_⟩
  cases rows with
  | none =>
    cases h
    refine .inl ⟨fun rows hlooked => ?_, rfl⟩
    rw [hlooked.1] at hrows
    cases hrows
  | some rows =>
    by_cases hcurrency : tradeInstrumentCurrency texts rows.1 rows.2 = ""
    · refine .inl ⟨fun rows' hlooked => ?_, ?_⟩
      · rw [hlooked.1] at hrows
        cases hrows
        exact hlooked.2 hcurrency
      · simp only [appendTradeInstrument, if_pos hcurrency, Calls.eval_pure] at h
        exact (Except.ok.inj h).symm
    · obtain ⟨price, entry, rate, hadds, hafter⟩ := appendTradeInstrument_eq_ok hcurrency h
      exact .inr ⟨rows, price, entry, rate, ⟨hrows, hcurrency⟩, hadds, hafter⟩

/-! ## What is settled -/

/-- The rows of the instrument have nothing more to add. -/
structure Settled (texts : ClassificationTexts) (env : SourceEnvironment)
    (source : SourceRequest → Option JsonObject) (asOf : String) (request : ProposalSimulateRequest)
    (instrumentId : String) (rows : JsonObject × JsonObject) : Prop where
  price : HasPrice request instrumentId ∨ priceOfRow texts instrumentId
    (tradeInstrumentCurrency texts rows.1 rows.2) rows.2 = .ok none
  entry : ShelfEntryExists request instrumentId
  rate : NeedsFxRate request (tradeInstrumentCurrency texts rows.1 rows.2) →
    SourceRate texts env source request.portfolioSnapshot.baseCurrency asOf
      (tradeInstrumentCurrency texts rows.1 rows.2) none

variable {rows : JsonObject × JsonObject} {additions : Additions} {price : Option Price}
  {entry : Option ShelfEntry} {rate : Option FxRate}

theorem NeedsFxRate.of_appendTo (h : NeedsFxRate (additions.appendTo before) currency) :
    NeedsFxRate before currency :=
  ⟨h.1, fun hheld => h.2 (Additions.hasFxPair_appendTo.mpr (.inl hheld))⟩

theorem Settled.appendTo (h : Settled texts env source asOf before instrumentId rows)
    (additions : Additions) :
    Settled texts env source asOf (additions.appendTo before) instrumentId rows where
  price := h.price.imp_left fun hprice => Additions.hasPrice_appendTo.mpr (.inl hprice)
  entry := Additions.shelfEntryExists_appendTo.mpr (.inl h.entry)
  rate hneeds := h.rate hneeds.of_appendTo

theorem instrumentId_of_priceOfRow {new : Price}
    (h : priceOfRow texts instrumentId currency latestPriceRow = .ok (some new)) :
    new.instrumentId = instrumentId := by
  unfold priceOfRow at h
  split at h
  · cases h
  · obtain ⟨value, -, hnew⟩ := map_eq_ok.mp h
    cases hnew
    rfl

theorem instrumentId_of_tradeDraftShelfEntry {enrichmentRow : JsonObject}
    {taxonomy : Option VersionedTaxonomy} {new : ShelfEntry}
    (h : tradeDraftShelfEntry texts instrumentId instrumentRow enrichmentRow taxonomy = .ok new) :
    new.instrumentId = instrumentId := by
  obtain ⟨tier, -, rfl⟩ := map_eq_ok.mp h
  rfl

theorem pair_of_fxRateOfPayload {toCurrency : String} {payload : JsonObject} {new : FxRate}
    (h : fxRateOfPayload texts currency toCurrency asOf payload = .ok (some new)) :
    new.pair = pairOf currency toCurrency := by
  unfold fxRateOfPayload at h
  split at h
  · cases h
  · unfold fxRateOfSourceValue at h
    split_ifs at h
    · obtain ⟨value, -, h⟩ := bind_eq_ok.mp h
      obtain ⟨made, hmade, hnew⟩ := map_eq_ok.mp h
      cases hnew
      unfold fxRateFromSourceValue at hmade
      split at hmade
      · split_ifs at hmade
        cases hmade
        rfl
      · cases hmade
    · cases h

/-- What the rows had to add is settled after they added it. -/
theorem AddsFor.settled
    (h : AddsFor texts env source asOf context before instrumentId rows price entry rate) :
    Settled texts env source asOf
      (Additions.appendTo ⟨price.toList, entry.toList, rate.toList⟩ before) instrumentId rows := by
  constructor
  · rcases h.price with ⟨hheld, -⟩ | ⟨-, hrow⟩
    · exact .inl (Additions.hasPrice_appendTo.mpr (.inl hheld))
    · cases price with
      | none => exact .inr hrow
      | some new =>
        refine .inl (Additions.hasPrice_appendTo.mpr (.inr ?_))
        simp [instrumentId_of_priceOfRow hrow]
  · apply Additions.shelfEntryExists_appendTo.mpr
    rcases h.entry with ⟨hheld, -⟩ | ⟨-, new, rfl, hnew⟩
    · exact .inl hheld
    · right
      simp [instrumentId_of_tradeDraftShelfEntry hnew]
  · intro hneeds
    rcases h.rate with ⟨hno, -⟩ | ⟨-, hrate⟩
    · exact absurd hneeds.of_appendTo hno
    · cases rate with
      | none => exact hrate
      | some new =>
        obtain ⟨payload, -, hnew⟩ := hrate
        refine absurd (Additions.hasFxPair_appendTo.mpr (.inr ⟨new, ?_, ?_⟩)) hneeds.2
        · exact List.mem_singleton_self new
        · exact .inl (pair_of_fxRateOfPayload hnew)

/-- An instrument that is settled is left as it is. -/
theorem enrichMissingTradeInstrument_of_settled {found : Option (JsonObject × JsonObject)}
    (hrows : tradeRows env source asOf instrumentId = .ok found)
    (hsettled : ∀ rows, LookedUp texts env source asOf instrumentId rows →
      Settled texts env source asOf before instrumentId rows) :
    (enrichMissingTradeInstrument texts env portfolioId asOf context before instrumentId).eval
      (uncached source) = .ok before := by
  rw [eval_enrichMissingTradeInstrument, hrows, ok_bind]
  cases found with
  | none => rfl
  | some rows =>
    dsimp only
    unfold appendTradeInstrument
    by_cases hcurrency : tradeInstrumentCurrency texts rows.1 rows.2 = ""
    · rw [if_pos hcurrency]
      rfl
    obtain ⟨hprice, hentry, hrate⟩ := hsettled rows ⟨hrows, hcurrency⟩
    have hpriced : appendPriceIfMissing texts before instrumentId
        (tradeInstrumentCurrency texts rows.1 rows.2) rows.2 = .ok before := by
      unfold appendPriceIfMissing
      split_ifs with hheld
      · rfl
      · rw [hprice.resolve_left hheld]
        rfl
    rw [if_neg hcurrency, Calls.eval_bind, eval_translated, hpriced, mapError_ok, ok_bind,
      Calls.eval_bind, eval_translated, appendShelfEntryIfMissing, if_pos hentry, mapError_ok,
      ok_bind]
    unfold appendFxRateIfMissing
    split_ifs with hheld
    · rfl
    · obtain ⟨payload, hpayload, hnone⟩ := hrate (not_or.mp hheld)
      rw [Calls.eval_bind, eval_fetchJsonWithCache, answered_eq_ok.mpr hpayload, ok_bind,
        Calls.eval_bind, eval_translated, hnone]
      rfl

end Steps

/-! ## Whole hydrations -/

/-- The additions to a request fill the gaps of instruments, each at most once and with what the
source has for it. -/
structure FillsGaps (texts : ClassificationTexts) (env : SourceEnvironment)
    (source : SourceRequest → Option JsonObject) (asOf : String) (context : HydrationContext)
    (request : ProposalSimulateRequest) (instrumentIds : List String) (additions : Additions) :
    Prop where
  priceIds : (additions.prices.map Price.instrumentId).Sublist instrumentIds
  entryIds : (additions.entries.map ShelfEntry.instrumentId).Sublist instrumentIds
  ratePairs : (additions.rates.map FxRate.pair).Nodup
  prices : ∀ price ∈ additions.prices, ¬ HasPrice request price.instrumentId ∧
    ∃ rows, LookedUp texts env source asOf price.instrumentId rows ∧
      priceOfRow texts price.instrumentId (tradeInstrumentCurrency texts rows.1 rows.2) rows.2 =
        .ok (some price)
  entries : ∀ entry ∈ additions.entries, ¬ ShelfEntryExists request entry.instrumentId ∧
    ∃ rows, LookedUp texts env source asOf entry.instrumentId rows ∧
      tradeDraftShelfEntry texts entry.instrumentId rows.1
        ((Dict.get? context.enrichmentByInstrumentId entry.instrumentId).getD [])
        context.classificationTaxonomy = .ok entry
  rates : ∀ rate ∈ additions.rates, ∃ currency, currency ≠ "" ∧ NeedsFxRate request currency ∧
    SourceRate texts env source request.portfolioSnapshot.baseCurrency asOf currency (some rate)
  settled : ∀ instrumentId ∈ instrumentIds,
    (∃ rows, tradeRows env source asOf instrumentId = .ok rows) ∧
      ∀ rows, LookedUp texts env source asOf instrumentId rows →
        Settled texts env source asOf (additions.appendTo request) instrumentId rows

section Hydration

variable {texts : ClassificationTexts} {env : SourceEnvironment}
  {source : SourceRequest → Option JsonObject} {portfolioId asOf instrumentId : String}
  {context : HydrationContext} {request result : ProposalSimulateRequest}
  {instrumentIds later : List String} {first second : Additions}

theorem fillsGaps_nil : FillsGaps texts env source asOf context request [] {} where
  priceIds := List.Sublist.refl _
  entryIds := List.Sublist.refl _
  ratePairs := List.nodup_nil
  prices _ h := absurd h List.not_mem_nil
  entries _ h := absurd h List.not_mem_nil
  rates _ h := absurd h List.not_mem_nil
  settled _ h := absurd h List.not_mem_nil

theorem SourceRate.pair {baseCurrency currency : String} {rate : FxRate}
    (h : SourceRate texts env source baseCurrency asOf currency (some rate)) :
    rate.pair = pairOf currency baseCurrency := by
  obtain ⟨payload, -, hrate⟩ := h
  exact pair_of_fxRateOfPayload hrate

theorem FillsGaps.append (h : FillsGaps texts env source asOf context request instrumentIds first)
    (h' : FillsGaps texts env source asOf context (first.appendTo request) later second) :
    FillsGaps texts env source asOf context request (instrumentIds ++ later)
      (first.append second) := by
  constructor
  · simpa [Additions.append] using h.priceIds.append h'.priceIds
  · simpa [Additions.append] using h.entryIds.append h'.entryIds
  · rw [Additions.append, List.map_append, List.nodup_append]
    refine ⟨h.ratePairs, h'.ratePairs, ?_⟩
    intro pair hpair other hother
    obtain ⟨rate, hrate, rfl⟩ := List.mem_map.mp hpair
    obtain ⟨new, hnew, rfl⟩ := List.mem_map.mp hother
    obtain ⟨currency, -, hneeds, hsource⟩ := h'.rates new hnew
    rw [hsource.pair]
    exact fun heq => hneeds.2 (Additions.hasFxPair_appendTo.mpr (.inr ⟨rate, hrate, .inl heq⟩))
  · intro price hprice
    rcases List.mem_append.mp hprice with hfirst | hsecond
    · exact h.prices price hfirst
    · obtain ⟨hnew, hrows⟩ := h'.prices price hsecond
      exact ⟨fun hheld => hnew (Additions.hasPrice_appendTo.mpr (.inl hheld)), hrows⟩
  · intro entry hentry
    rcases List.mem_append.mp hentry with hfirst | hsecond
    · exact h.entries entry hfirst
    · obtain ⟨hnew, hrows⟩ := h'.entries entry hsecond
      exact ⟨fun hheld => hnew (Additions.shelfEntryExists_appendTo.mpr (.inl hheld)), hrows⟩
  · intro rate hrate
    rcases List.mem_append.mp hrate with hfirst | hsecond
    · exact h.rates rate hfirst
    · obtain ⟨currency, hcurrency, hneeds, hsource⟩ := h'.rates rate hsecond
      exact ⟨currency, hcurrency, hneeds.of_appendTo, hsource⟩
  · intro instrumentId hmem
    rw [Additions.appendTo_append]
    rcases List.mem_append.mp hmem with hfirst | hsecond
    · obtain ⟨hread, hsettled⟩ := h.settled instrumentId hfirst
      exact ⟨hread, fun rows hrows => (hsettled rows hrows).appendTo second⟩
    · exact h'.settled instrumentId hsecond

theorem fillsGaps_step
    (h : (enrichMissingTradeInstrument texts env portfolioId asOf context request
      instrumentId).eval (uncached source) = .ok result) :
    ∃ additions, result = Additions.appendTo additions request ∧
      FillsGaps texts env source asOf context request [instrumentId] additions := by
  obtain ⟨hread, ⟨hnone, rfl⟩ | ⟨rows, price, entry, rate, hlooked, hadds, rfl⟩⟩ :=
    enrichMissingTradeInstrument_eq_ok h
  · refine ⟨{}, by simp, ?_⟩
    constructor
    · exact List.nil_sublist _
    · exact List.nil_sublist _
    · exact List.nodup_nil
    · exact fun _ h => absurd h List.not_mem_nil
    · exact fun _ h => absurd h List.not_mem_nil
    · exact fun _ h => absurd h List.not_mem_nil
    · intro other hother
      obtain rfl := List.mem_singleton.mp hother
      exact ⟨hread, fun rows hrows => absurd hrows (hnone rows)⟩
  · refine ⟨_, rfl, ?_⟩
    constructor
    · rcases hadds.price with ⟨-, rfl⟩ | ⟨-, hrow⟩
      · exact List.nil_sublist _
      · cases price with
        | none => exact List.nil_sublist _
        | some new => simp [instrumentId_of_priceOfRow hrow]
    · rcases hadds.entry with ⟨-, rfl⟩ | ⟨-, new, rfl, hnew⟩
      · exact List.nil_sublist _
      · simp [instrumentId_of_tradeDraftShelfEntry hnew]
    · cases rate <;> simp
    · intro new hnew
      obtain rfl := Option.mem_toList.mp hnew
      rcases hadds.price with ⟨-, habsurd⟩ | ⟨hmissing, hrow⟩
      · cases habsurd
      · rw [instrumentId_of_priceOfRow hrow]
        exact ⟨hmissing, rows, hlooked, hrow⟩
    · intro new hnew
      obtain rfl := Option.mem_toList.mp hnew
      rcases hadds.entry with ⟨-, habsurd⟩ | ⟨hmissing, other, hother, hrow⟩
      · cases habsurd
      · cases hother
        rw [instrumentId_of_tradeDraftShelfEntry hrow]
        exact ⟨hmissing, rows, hlooked, hrow⟩
    · intro new hnew
      obtain rfl := Option.mem_toList.mp hnew
      rcases hadds.rate with ⟨-, habsurd⟩ | ⟨hneeds, hsource⟩
      · cases habsurd
      · exact ⟨_, hlooked.2, hneeds, hsource⟩
    · intro other hother
      obtain rfl := List.mem_singleton.mp hother
      refine ⟨hread, fun rows' hrows' => ?_⟩
      obtain rfl : rows' = rows := by
        have hsame := hrows'.1.symm.trans hlooked.1
        exact Option.some.inj (Except.ok.inj hsame)
      exact hadds.settled

/-- One instrument after the other. -/
theorem fillsGaps_foldM
    (h : (Calls.foldM (enrichMissingTradeInstrument texts env portfolioId asOf context) request
      instrumentIds).eval (uncached source) = .ok result) :
    ∃ additions, result = Additions.appendTo additions request ∧
      FillsGaps texts env source asOf context request instrumentIds additions := by
  induction instrumentIds generalizing request with
  | nil =>
    cases h
    exact ⟨{}, by simp, fillsGaps_nil⟩
  | cons instrumentId instrumentIds ih =>
    rw [Calls.foldM, Calls.eval_bind] at h
    obtain ⟨middle, hfirst, hrest⟩ := bind_eq_ok.mp h
    obtain ⟨first, rfl, hfills⟩ := fillsGaps_step hfirst
    obtain ⟨second, rfl, hfills'⟩ := ih hrest
    exact ⟨first.append second, Additions.appendTo_append.symm, hfills.append hfills'⟩

end Hydration

/-! ## Latest rows -/

/-- The greatest of the dates up to a day. -/
def GreatestUpTo (asOf : String) (dates : List String) (date : String) : Prop :=
  date ∈ dates ∧ date ≤ asOf ∧ ∀ other ∈ dates, other ≤ asOf → other ≤ date

/-- The greatest of the dates, all of them after a day. -/
def GreatestAfter (asOf : String) (dates : List String) (date : String) : Prop :=
  date ∈ dates ∧ ∀ other ∈ dates, ¬ other ≤ asOf ∧ other ≤ date

/-- The dates of a list of rows. -/
def datesOf (rows : List Json) (dateKey : String) : List String :=
  (datedSourceRows rows dateKey).map Prod.fst

/-- The values that are appended are read from the latest rows. A price falls back to a later row
if there is no other, a rate does not. -/
structure UsesLatestRows (texts : ClassificationTexts) (env : SourceEnvironment)
    (source : SourceRequest → Option JsonObject) (baseCurrency asOf : String)
    (additions : Additions) : Prop where
  prices : ∀ price ∈ additions.prices, ∃ payload rows date row,
    source (env.priceRequest price.instrumentId) = some payload ∧
      payload.get "prices" = .arr rows ∧ (date, row) ∈ datedSourceRows rows "price_date" ∧
      (GreatestUpTo asOf (datesOf rows "price_date") date ∨
        GreatestAfter asOf (datesOf rows "price_date") date) ∧
      texts.decimalOrNone (row.get "price") = some (.finite price.price)
  rates : ∀ rate ∈ additions.rates, ∃ currency payload rows date row,
    rate.pair = pairOf currency baseCurrency ∧
      source (env.fxRequest currency baseCurrency) = some payload ∧
      payload.get "rates" = .arr rows ∧ (date, row) ∈ datedSourceRows rows "rate_date" ∧
      GreatestUpTo asOf (datesOf rows "rate_date") date ∧
      texts.decimalOrNone (row.get "rate") = some (.finite rate.rate)

section Latest

variable {rows : List Json} {dateKey asOf : String} {row : JsonObject}

theorem latestSourceRow_eligible
    (h : latestSourceRow (eligibleSourceRows (datedSourceRows rows dateKey) asOf) = some row) :
    ∃ date, (date, row) ∈ datedSourceRows rows dateKey ∧
      GreatestUpTo asOf (datesOf rows dateKey) date := by
  obtain ⟨⟨date, row⟩, hmax, rfl⟩ := Option.map_eq_some_iff.mp h
  obtain ⟨hmem, heligible⟩ := List.mem_filter.mp (List.argmax_mem hmax)
  refine ⟨date, hmem, List.mem_map_of_mem hmem, of_decide_eq_true heligible, ?_⟩
  intro other hother hle
  obtain ⟨item, hitem, rfl⟩ := List.mem_map.mp hother
  exact List.le_of_mem_argmax (List.mem_filter.mpr ⟨hitem, decide_eq_true hle⟩) hmax

theorem selectLatestDatedRow_eq_some (h : selectLatestDatedRow rows dateKey asOf = some row) :
    ∃ date, (date, row) ∈ datedSourceRows rows dateKey ∧
      (GreatestUpTo asOf (datesOf rows dateKey) date ∨
        GreatestAfter asOf (datesOf rows dateKey) date) := by
  unfold selectLatestDatedRow at h
  split at h
  · next hnone =>
    obtain ⟨⟨date, row⟩, hmax, rfl⟩ := Option.map_eq_some_iff.mp h
    have hmem := List.argmax_mem hmax
    refine ⟨date, hmem, .inr ⟨List.mem_map_of_mem hmem, ?_⟩⟩
    intro other hother
    obtain ⟨item, hitem, rfl⟩ := List.mem_map.mp hother
    have hafter := List.filter_eq_nil_iff.mp hnone item hitem
    exact ⟨fun hle => hafter (decide_eq_true hle), List.le_of_mem_argmax hitem hmax⟩
  · next first eligible heligible =>
    rw [← heligible] at h
    obtain ⟨date, hmem, hgreatest⟩ := latestSourceRow_eligible h
    exact ⟨date, hmem, .inl hgreatest⟩

variable {texts : ClassificationTexts} {instrumentId currency toCurrency : String}
  {payload : JsonObject}

theorem priceOfRow_eq_some {price : Price}
    (h : priceOfRow texts instrumentId currency row = .ok (some price)) :
    texts.decimalOrNone (row.get "price") = some (.finite price.price) := by
  unfold priceOfRow at h
  split at h
  · cases h
  · next value hvalue =>
    obtain ⟨x, hx, hprice⟩ := map_eq_ok.mp h
    cases hprice
    cases value with
    | finite y =>
      cases hx
      exact hvalue
    | infinite => cases hx
    | nan => cases hx
    | signalingNan => cases hx

theorem fxRateOfPayload_eq_some {rate : FxRate}
    (h : fxRateOfPayload texts currency toCurrency asOf payload = .ok (some rate)) :
    ∃ row, selectLatestFxRow payload asOf = some row ∧
      texts.decimalOrNone (row.get "rate") = some (.finite rate.rate) := by
  unfold fxRateOfPayload at h
  split at h
  · cases h
  · next row hrow =>
    refine ⟨row, hrow, ?_⟩
    unfold fxRateOfSourceValue at h
    split_ifs at h
    · obtain ⟨value, hvalue, h⟩ := bind_eq_ok.mp h
      obtain ⟨made, hmade, hrate⟩ := map_eq_ok.mp h
      cases hrate
      unfold fxRateFromSourceValue at hmade
      split at hmade
      · split_ifs at hmade
        cases hmade
        unfold requiredDecimalRateValue at hvalue
        split at hvalue
        · cases hvalue
        · next hdecimal =>
          cases hvalue
          exact hdecimal
      · cases hmade
    · cases h

variable {env : SourceEnvironment} {source : SourceRequest → Option JsonObject}
  {context : HydrationContext} {request : ProposalSimulateRequest} {instrumentIds : List String}
  {additions : Additions}

theorem tradeRows_price {rows : JsonObject × JsonObject}
    (h : tradeRows env source asOf instrumentId = .ok (some rows)) :
    ∃ payload, source (env.priceRequest instrumentId) = some payload ∧
      selectLatestPriceRow payload asOf = some rows.2 := by
  unfold tradeRows at h
  obtain ⟨instrumentPayload, -, h⟩ := bind_eq_ok.mp h
  split at h
  · cases h
  · obtain ⟨pricePayload, hprice, h⟩ := bind_eq_ok.mp h
    obtain ⟨row, hrow, rfl⟩ := Option.map_eq_some_iff.mp (Except.ok.inj h)
    exact ⟨pricePayload, answered_eq_ok.mp hprice, hrow⟩

theorem FillsGaps.usesLatestRows
    (h : FillsGaps texts env source asOf context request instrumentIds additions) :
    UsesLatestRows texts env source request.portfolioSnapshot.baseCurrency asOf additions := by
  constructor
  · intro price hprice
    obtain ⟨-, rows, hlooked, hrow⟩ := h.prices price hprice
    obtain ⟨payload, hpayload, hlatest⟩ := tradeRows_price hlooked.1
    unfold selectLatestPriceRow at hlatest
    split at hlatest
    · next entries hentries =>
      obtain ⟨date, hmem, hgreatest⟩ := selectLatestDatedRow_eq_some hlatest
      exact ⟨payload, entries, date, rows.2, hpayload, hentries, hmem, hgreatest,
        priceOfRow_eq_some hrow⟩
    · cases hlatest
  · intro rate hrate
    obtain ⟨currency, -, -, payload, hpayload, hsource⟩ := h.rates rate hrate
    obtain ⟨row, hlatest, hdecimal⟩ := fxRateOfPayload_eq_some hsource
    unfold selectLatestFxRow at hlatest
    split at hlatest
    · next entries hentries =>
      obtain ⟨date, hmem, hgreatest⟩ := latestSourceRow_eligible hlatest
      exact ⟨currency, payload, entries, date, row, pair_of_fxRateOfPayload hsource, hpayload,
        hentries, hmem, hgreatest, hdecimal⟩
    · cases hlatest

end Latest

/-! ## Hydrating once more -/

section Again

variable {texts : ClassificationTexts} {env : SourceEnvironment}
  {source : SourceRequest → Option JsonObject} {portfolioId asOf : String}
  {ids later : List String} {request : ProposalSimulateRequest} {additions : Additions}

/-- The context can be built if the identifiers can be requested. -/
theorem exists_eval_context_iff :
    (∃ context, (buildTradeDraftHydrationContext texts env portfolioId asOf ids).eval
        (uncached source) = .ok context) ↔
      requestedSecurityIds ids = [] ∨
        ∃ payload, source (env.instrumentEnrichmentRequest (requestedSecurityIds ids)) =
          some payload := by
  have hcontext : ∀ rows, (fetchInstrumentEnrichmentBulk texts.toPayloadTexts env portfolioId asOf
      ids).eval (uncached source) = .ok rows →
        ∃ context, (buildTradeDraftHydrationContext texts env portfolioId asOf ids).eval
          (uncached source) = .ok context := by
    intro rows hrows
    unfold buildTradeDraftHydrationContext fetchOptionalClassificationTaxonomy
    rw [Calls.eval_bind, hrows, ok_bind, Calls.eval_bind, Calls.eval_orElse]
    exact ⟨_, rfl⟩
  constructor
  · rintro ⟨context, h⟩
    by_cases hnone : requestedSecurityIds ids = []
    · exact .inl hnone
    unfold buildTradeDraftHydrationContext fetchInstrumentEnrichmentBulk
      fetchInstrumentEnrichmentBulkWithDiagnostics at h
    rw [Calls.eval_bind, Calls.eval_bind, Calls.eval_bind, eval_cachedInstrumentEnrichment, ok_bind,
      if_neg hnone, if_neg hnone, Calls.eval_bind, eval_requestJson] at h
    obtain ⟨rows, hrows, -⟩ := bind_eq_ok.mp h
    obtain ⟨fetched, hfetched, -⟩ := bind_eq_ok.mp hrows
    obtain ⟨payload, hpayload, -⟩ := bind_eq_ok.mp hfetched
    exact .inr ⟨payload, answered_eq_ok.mp hpayload⟩
  · intro h
    by_cases hnone : requestedSecurityIds ids = []
    · refine hcontext [] ?_
      unfold fetchInstrumentEnrichmentBulk fetchInstrumentEnrichmentBulkWithDiagnostics
      rw [Calls.eval_bind, Calls.eval_bind, eval_cachedInstrumentEnrichment, ok_bind, if_pos hnone]
      rfl
    · obtain ⟨payload, hpayload⟩ := h.resolve_left hnone
      obtain ⟨fetched, hfetched⟩ : ∃ fetched, (withFetchedInstrumentEnrichment
          texts.toPayloadTexts env portfolioId asOf [] payload).eval (uncached source) =
            .ok fetched := exists_eval_withFetchedInstrumentEnrichment [] payload
      refine hcontext fetched.enrichmentBySecurityId ?_
      unfold fetchInstrumentEnrichmentBulk fetchInstrumentEnrichmentBulkWithDiagnostics
      rw [Calls.eval_bind, Calls.eval_bind, eval_cachedInstrumentEnrichment, ok_bind, if_neg hnone,
        if_neg hnone, Calls.eval_bind, eval_requestJson, answered_eq_ok.mpr hpayload, ok_bind,
        hfetched]
      rfl

theorem mem_missingTradeInstrumentIds {instrumentId : String} :
    instrumentId ∈ missingTradeInstrumentIds request ↔
      instrumentId ∈ request.proposedTrades.map Advisory.ProposedTrade.instrumentId ∧
        (¬ HasPrice request instrumentId ∨ ¬ ShelfEntryExists request instrumentId) := by
  unfold missingTradeInstrumentIds
  rw [List.mem_insertionSort, Dict.mem_firstOccurrences, List.mem_filter, decide_eq_true_eq]

/-- An instrument that is missing after additions was missing before. -/
theorem missingTradeInstrumentIds_appendTo_subset :
    missingTradeInstrumentIds (additions.appendTo request) ⊆ missingTradeInstrumentIds request := by
  intro instrumentId h
  obtain ⟨htrade, hmissing⟩ := mem_missingTradeInstrumentIds.mp h
  refine mem_missingTradeInstrumentIds.mpr ⟨htrade, ?_⟩
  rw [Additions.hasPrice_appendTo, Additions.shelfEntryExists_appendTo] at hmissing
  exact hmissing.imp (fun h hheld => h (.inl hheld)) (fun h hheld => h (.inl hheld))

theorem nodup_missingTradeInstrumentIds : (missingTradeInstrumentIds request).Nodup :=
  (List.perm_insertionSort _ _).nodup_iff.mpr (Dict.nodup_firstOccurrences _)

end Again

/-- A hydration fills gaps only, and with the latest rows of the source. -/
theorem hydration_fillsGaps (texts : ClassificationTexts) (env : SourceEnvironment)
    (source : SourceRequest → Option JsonObject) (input : HydrationInput)
    (result : ProposalSimulateRequest)
    (h : (enrichStatefulSimulateRequestForTradeDrafts texts env input).eval (uncached source) =
      .ok result) :
    (missingTradeInstrumentIds input.simulateRequest).Nodup ∧ ∃ context additions,
      result = Additions.appendTo additions input.simulateRequest ∧
      FillsGaps texts env source input.asOf context input.simulateRequest
        (missingTradeInstrumentIds input.simulateRequest) additions ∧
      UsesLatestRows texts env source input.simulateRequest.portfolioSnapshot.baseCurrency
        input.asOf additions := by
  refine ⟨nodup_missingTradeInstrumentIds, ?_⟩
  unfold enrichStatefulSimulateRequestForTradeDrafts at h
  split_ifs at h with hnone
  · cases h
    rw [hnone]
    have hfills : FillsGaps texts env source input.asOf ⟨[], none⟩ input.simulateRequest [] {} :=
      fillsGaps_nil
    exact ⟨⟨[], none⟩, {}, by simp, hfills, hfills.usesLatestRows⟩
  · rw [Calls.eval_bind] at h
    obtain ⟨context, -, hfold⟩ := bind_eq_ok.mp h
    obtain ⟨additions, hresult, hfills⟩ := fillsGaps_foldM hfold
    exact ⟨context, additions, hresult, hfills, hfills.usesLatestRows⟩

/-- Hydrating what was hydrated changes nothing, if some of the identifiers that could be requested
together can be requested too. -/
theorem hydration_idempotent (texts : ClassificationTexts) (env : SourceEnvironment)
    (source : SourceRequest → Option JsonObject) (input : HydrationInput)
    (result : ProposalSimulateRequest)
    (hbulk : ∀ ids later, ids ⊆ later → source (env.instrumentEnrichmentRequest later) ≠ none →
      source (env.instrumentEnrichmentRequest ids) ≠ none)
    (h : (enrichStatefulSimulateRequestForTradeDrafts texts env input).eval (uncached source) =
      .ok result) :
    (enrichStatefulSimulateRequestForTradeDrafts texts env
      { input with simulateRequest := result }).eval (uncached source) = .ok result := by
  unfold enrichStatefulSimulateRequestForTradeDrafts at h
  split_ifs at h with hnone
  · cases h
    rw [enrichStatefulSimulateRequestForTradeDrafts, if_pos hnone]
    rfl
  rw [Calls.eval_bind] at h
  obtain ⟨context, hcontext, hfold⟩ := bind_eq_ok.mp h
  obtain ⟨additions, rfl, hfills⟩ := fillsGaps_foldM hfold
  rw [enrichStatefulSimulateRequestForTradeDrafts]
  split_ifs with hnone'
  · rfl
  have hsubset : missingTradeInstrumentIds (additions.appendTo input.simulateRequest) ⊆
      missingTradeInstrumentIds input.simulateRequest := missingTradeInstrumentIds_appendTo_subset
  have hrequested := requestedSecurityIds_subset hsubset
  obtain ⟨context', hcontext'⟩ : ∃ context, (buildTradeDraftHydrationContext texts env
      input.portfolioId input.asOf (missingTradeInstrumentIds
        (additions.appendTo input.simulateRequest))).eval (uncached source) = .ok context := by
    apply exists_eval_context_iff.mpr
    rcases exists_eval_context_iff.mp ⟨context, hcontext⟩ with hempty | ⟨payload, hpayload⟩
    · rw [hempty, List.subset_nil] at hrequested
      exact .inl hrequested
    · right
      apply Option.ne_none_iff_exists'.mp
      exact hbulk _ _ hrequested (by simp [hpayload])
  rw [Calls.eval_bind, hcontext', ok_bind, Calls.eval_foldM]
  generalize missingTradeInstrumentIds (additions.appendTo input.simulateRequest) = ids at hsubset
  induction ids with
  | nil => rfl
  | cons instrumentId ids ih =>
    obtain ⟨⟨found, hfound⟩, hsettled⟩ := hfills.settled instrumentId
      (hsubset List.mem_cons_self)
    rw [List.foldlM_cons, enrichMissingTradeInstrument_of_settled hfound hsettled, ok_bind]
    exact ih fun id hid => hsubset (List.mem_cons_of_mem _ hid)

namespace HydrationSample

def texts : ClassificationTexts where
  strItems _ := ""
  lower := id
  digit? _ := none
  upper := Text.upper

def env : SourceEnvironment where
  baseUrl := "http://core-query.dev.lotus"
  controlPlaneBaseUrl := "http://core-control.dev.lotus"
  environment := "local"
  tenantId := "tenant-unscoped"
  safeBaseUrlIdentity := id

def row (instrumentId : String) : Option JsonObject :=
  some [("security_id", .str instrumentId), ("issuer_id", .str "APPLE")]

def record : Json → Option Json
  | .str instrumentId => (row instrumentId).map .obj
  | _ => none

/-- The records of the identifiers in the body of a request. -/
def enrichment (body : JsonObject) : JsonObject :=
  match body.get "security_ids" with
  | .arr ids => [("records", .arr (ids.filterMap record))]
  | _ => []

/-- One instrument has rows. All can be enriched. -/
def source (request : SourceRequest) : Option JsonObject :=
  if request = env.instrumentRequest "AAPL" then
    some [("instruments", .arr [.obj [("currency", .str "USD"), ("asset_class", .str "Equity")]])]
  else if request = env.priceRequest "AAPL" then
    some [("prices", .arr [.obj [("price_date", .str "2026-03-24"), ("price", .int 190)],
      .obj [("price_date", .str "2026-03-26"), ("price", .int 200)]])]
  else if request = env.fxRequest "USD" "SGD" then
    some [("rates", .arr [.obj [("rate_date", .str "2026-03-25"), ("rate", .str "1.35")]])]
  else request.jsonBody.map enrichment

theorem quantity_pos : (0 : ℚ) < 10 := by norm_num

def input : HydrationInput where
  simulateRequest := {
    portfolioSnapshot := ⟨"SGD", [], []⟩
    marketDataSnapshot := ⟨[], []⟩
    shelfEntries := []
    options := {}
    proposedCashFlows := []
    proposedTrades := [⟨.buy, "AAPL", .quantity 10 quantity_pos⟩] }
  portfolioId := "PF-1"
  asOf := "2026-03-25"

/-- The price of the last day, and the rate to the base currency. -/
theorem hydrated : ∃ result, (enrichStatefulSimulateRequestForTradeDrafts texts env input).eval
    (uncached source) = .ok result ∧
      result.marketDataSnapshot.prices = [⟨"AAPL", 190, "USD"⟩] ∧
      result.marketDataSnapshot.fxRates.map FxRate.pair = ["USD/SGD"] := by
  have h : ((enrichStatefulSimulateRequestForTradeDrafts texts env input).eval
      (uncached source)).toOption.map (fun result => (result.marketDataSnapshot.prices,
        result.marketDataSnapshot.fxRates.map FxRate.pair)) =
          some ([⟨"AAPL", 190, "USD"⟩], ["USD/SGD"]) := by decide +kernel
  obtain ⟨result, hresult, hvalues⟩ := Option.map_eq_some_iff.mp h
  obtain ⟨hprices, hrates⟩ := Prod.mk.inj hvalues
  exact ⟨result, toOption_eq_some.mp hresult, hprices, hrates⟩

theorem bulk (ids later : List String) (_ : ids ⊆ later)
    (_ : source (env.instrumentEnrichmentRequest later) ≠ none) :
    source (env.instrumentEnrichmentRequest ids) ≠ none := by
  simp [source, SourceEnvironment.instrumentEnrichmentRequest,
    SourceEnvironment.instrumentRequest, SourceEnvironment.priceRequest,
    SourceEnvironment.fxRequest]

end HydrationSample

open HydrationSample in
theorem hydration_fillsGaps_one : ∃ result,
    (result.marketDataSnapshot.prices = [⟨"AAPL", 190, "USD"⟩] ∧
      result.marketDataSnapshot.fxRates.map FxRate.pair = ["USD/SGD"]) ∧
    (missingTradeInstrumentIds input.simulateRequest).Nodup ∧ ∃ context additions,
      result = Additions.appendTo additions input.simulateRequest ∧
      FillsGaps texts env source input.asOf context input.simulateRequest
        (missingTradeInstrumentIds input.simulateRequest) additions ∧
      UsesLatestRows texts env source input.simulateRequest.portfolioSnapshot.baseCurrency
        input.asOf additions := by
  obtain ⟨result, hresult, hvalues⟩ := hydrated
  exact ⟨result, hvalues, hydration_fillsGaps texts env source input result hresult⟩

open HydrationSample in
theorem hydration_idempotent_one : ∃ result,
    (enrichStatefulSimulateRequestForTradeDrafts texts env input).eval (uncached source) =
      .ok result ∧
    (enrichStatefulSimulateRequestForTradeDrafts texts env
      { input with simulateRequest := result }).eval (uncached source) = .ok result := by
  obtain ⟨result, hresult, -⟩ := hydrated
  exact ⟨result, hresult, hydration_idempotent texts env source input result bulk hresult⟩

end LotusAdvise.LotusCore

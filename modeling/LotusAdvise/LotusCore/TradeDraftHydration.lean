import LotusAdvise.Advisory.Valuation
import LotusAdvise.Foundations.Words
import LotusAdvise.LotusCore.SourceReads
import Mathlib.Data.List.MinMax

/-! # The hydration of trade drafts

The instruments of proposed trades that have no price or no shelf entry are looked up, one after the
other. A price, a shelf entry and a rate are appended where they are missing. Nothing that a request
has already is changed, and hydrating it once more changes nothing.
-/

namespace LotusAdvise.LotusCore

open Advisory (FxRate LiquidityTier Price ProposalSimulateRequest ProposedTrade ShelfEntry)

/-! ## Classification -/

/-- What the language says of texts, with capitals. -/
structure ClassificationTexts extends PayloadTexts where
  upper : String → String

structure VersionedTaxonomy extends ClassificationTaxonomy where
  taxonomyVersion : Option String

section Classification

variable (texts : ClassificationTexts)

def normalizedOptionalStr (value : Json) : Option String :=
  if texts.normalizedText value = "" then none else some (texts.normalizedText value)

/-- The words of a label in capitals, with hyphens for spaces, joined by underscores. -/
def classificationKey (value : Json) : String :=
  String.ofList (Words.joined '_' (Words.words Text.isSpace
    ((texts.upper (texts.normalizedText value)).toList.map fun c => if c = '-' then ' ' else c)))

def classificationTaxonomyRecord (record : Json) : Option (String × String) :=
  (asMapping? record).bind fun row =>
    if classificationKey texts (row.get "dimension_name") = "" ∨
        classificationKey texts (row.get "dimension_value") = "" then none
    else some (classificationKey texts (row.get "dimension_name"),
      classificationKey texts (row.get "dimension_value"))

def parseClassificationTaxonomy (payload : JsonObject) : VersionedTaxonomy where
  labelsByDimension :=
    match payload.get "records" with
    | .arr records =>
      (records.filterMap (classificationTaxonomyRecord texts)).foldl (fun labels record =>
        Dict.set labels record.1
          (Dict.set ((Dict.get? labels record.1).getD []) record.2 record.2)) []
    | _ => []
  taxonomyVersion := normalizedOptionalStr texts (payload.get "taxonomy_version")

/-- A label without a taxonomy is the display label, or its key. -/
def ungovernedLabel (value : Json) (preserveRaw : Bool) : String :=
  if preserveRaw then texts.normalizedText value else classificationKey texts value

/-- The label, and where it comes from. -/
def resolveTaxonomyLabel (value : Json) (dimensionName : String)
    (taxonomy : Option VersionedTaxonomy) (preserveRaw : Bool) : String × Option String :=
  if classificationKey texts value = "" then ("UNKNOWN", some "missing_upstream_label")
  else match taxonomy with
  | none => (ungovernedLabel texts value preserveRaw, none)
  | some taxonomy =>
    if taxonomy.labelsByDimension = [] then (ungovernedLabel texts value preserveRaw, none)
    else match (Dict.get? taxonomy.labelsByDimension
        (classificationKey texts (.str dimensionName))).getD [] with
    | [] => (ungovernedLabel texts value preserveRaw,
        some "local_fallback_no_governed_taxonomy_dimension")
    | label :: labels =>
      match Dict.get? (label :: labels) (classificationKey texts value) with
      | none => ("UNKNOWN", some "missing_governed_taxonomy_label")
      | some "" => ("UNKNOWN", some "missing_governed_taxonomy_label")
      | some governed => (governed, some "lotus_core_classification_taxonomy")

def bondLiquidityTier (sector rating : String) : LiquidityTier :=
  if sector = "GOVERNMENT" then .l1
  else if rating.startsWith "A" ∨ rating.startsWith "BBB" then .l2
  else .l3

def fundLiquidityTier (sector : String) : LiquidityTier :=
  if "PRIVATE".toList <:+: sector.toList then .l5
  else if sector = "FIXED_INCOME" ∨ sector = "PRIVATE_CREDIT" then .l3
  else .l2

/-- The tier of the first kind that the keys name. -/
def liquidityTierOfKeys (assetClass productType sector rating : String) : Option LiquidityTier :=
  if assetClass = "CASH" ∨ productType = "CASH" then some .l1
  else if productType = "ETF" then some .l1
  else if productType = "EQUITY" ∨ assetClass = "EQUITY" then some .l1
  else if productType = "BOND" then some (bondLiquidityTier sector rating)
  else if productType = "FUND" ∨ assetClass = "FUND" then some (fundLiquidityTier sector)
  else if assetClass = "FIXED_INCOME" then some (if sector = "GOVERNMENT" then .l1 else .l2)
  else none

def resolveLiquidityTier (assetClass productType sector rating : Json) : Option LiquidityTier :=
  liquidityTierOfKeys (classificationKey texts assetClass) (classificationKey texts productType)
    (classificationKey texts sector) (classificationKey texts rating)

/-- The field is validated to be one of the tiers. -/
def validatedLiquidityTier : String → Except TranslationError LiquidityTier
  | "L1" => .ok .l1
  | "L2" => .ok .l2
  | "L3" => .ok .l3
  | "L4" => .ok .l4
  | "L5" => .ok .l5
  | _ => .error .validation

def preferUpstreamLiquidityTier (rawLiquidityTier enrichmentLiquidityTier assetClass productType
    sector rating : Json) : Except TranslationError (Option LiquidityTier) :=
  match (normalizedOptionalStr texts rawLiquidityTier).or
      (normalizedOptionalStr texts enrichmentLiquidityTier) with
  | some tier => (validatedLiquidityTier tier).map some
  | none => .ok (resolveLiquidityTier texts assetClass productType sector rating)

def classificationSupportabilityAttributes (assetClassSource productTypeSource : Option String)
    (taxonomy : Option VersionedTaxonomy) : Dict String String :=
  (assetClassSource.map fun source => ("asset_class_source", source)).toList ++
    (productTypeSource.map fun source => ("product_type_source", source)).toList ++
    ((taxonomy.bind VersionedTaxonomy.taxonomyVersion).map fun version =>
      ("classification_taxonomy_version", version)).toList

/-! ## Shelf entries -/

def shelfAttributesFromPayload (values : List (String × Json)) : Dict String String :=
  ("source", "LOTUS_CORE_STATEFUL_CONTEXT") ::
    values.filterMap fun item => (normalizedOptionalStr texts item.2).map (item.1, ·)

def sourceOrEnrichmentText (instrumentRow enrichmentRow : JsonObject) (key : String) :
    Option String :=
  normalizedOptionalStr texts
    (if instrumentRow.get key = .null then enrichmentRow.get key else instrumentRow.get key)

def tradeDraftShelfAttributes (instrumentRow enrichmentRow : JsonObject)
    (assetClass productType : String × Option String) (taxonomy : Option VersionedTaxonomy) :
    Dict String String :=
  (classificationSupportabilityAttributes assetClass.2 productType.2 taxonomy).foldl
    (fun attributes item => Dict.set attributes item.1 item.2)
    (shelfAttributesFromPayload texts
      [("sector", instrumentRow.get "sector"),
        ("country", instrumentRow.get "country_of_risk"),
        ("product_type", .str productType.1),
        ("rating", instrumentRow.get "rating"),
        ("ultimate_parent_issuer_id", .ofText? (sourceOrEnrichmentText texts instrumentRow
          enrichmentRow "ultimate_parent_issuer_id")),
        ("ultimate_parent_issuer_name", .ofText? (sourceOrEnrichmentText texts instrumentRow
          enrichmentRow "ultimate_parent_issuer_name"))])

def tradeDraftShelfEntry (instrumentId : String) (instrumentRow enrichmentRow : JsonObject)
    (taxonomy : Option VersionedTaxonomy) : Except TranslationError ShelfEntry :=
  let assetClass := resolveTaxonomyLabel texts (instrumentRow.get "asset_class") "asset_class"
    taxonomy false
  let productType := resolveTaxonomyLabel texts (instrumentRow.get "product_type") "product_type"
    taxonomy true
  (preferUpstreamLiquidityTier texts (instrumentRow.get "liquidity_tier")
    (enrichmentRow.get "liquidity_tier") (.str assetClass.1) (.str productType.1)
    (instrumentRow.get "sector") (instrumentRow.get "rating")).map fun tier =>
      { instrumentId
        status := .approved
        assetClass := assetClass.1
        issuerId := sourceOrEnrichmentText texts instrumentRow enrichmentRow "issuer_id"
        liquidityTier := tier
        attributes := tradeDraftShelfAttributes texts instrumentRow enrichmentRow assetClass
          productType taxonomy }

end Classification

/-! ## Rows -/

/-- The rows that have a date, with it. -/
def datedSourceRows (rows : List Json) (dateKey : String) : List (String × JsonObject) :=
  rows.filterMap fun entry => (asMapping? entry).bind fun row =>
    match row.get dateKey with
    | .str date => some (date, row)
    | _ => none

def eligibleSourceRows (rows : List (String × JsonObject)) (asOf : String) :
    List (String × JsonObject) :=
  rows.filter fun row => row.1 ≤ asOf

/-- The first row of the greatest date. -/
def latestSourceRow (rows : List (String × JsonObject)) : Option JsonObject :=
  (rows.argmax Prod.fst).map Prod.snd

/-- The latest eligible row, or else the latest row. -/
def selectLatestDatedRow (rows : List Json) (dateKey asOf : String) : Option JsonObject :=
  match eligibleSourceRows (datedSourceRows rows dateKey) asOf with
  | [] => latestSourceRow (datedSourceRows rows dateKey)
  | row :: eligible => latestSourceRow (row :: eligible)

def selectInstrumentRow (instrumentPayload : JsonObject) : Option JsonObject :=
  match instrumentPayload.get "instruments" with
  | .arr (row :: _) => asMapping? row
  | _ => none

def selectLatestPriceRow (pricePayload : JsonObject) (asOf : String) : Option JsonObject :=
  match pricePayload.get "prices" with
  | .arr rows => selectLatestDatedRow rows "price_date" asOf
  | _ => none

/-- A rate that is not eligible is not used. -/
def selectLatestFxRow (fxPayload : JsonObject) (asOf : String) : Option JsonObject :=
  match fxPayload.get "rates" with
  | .arr rows => latestSourceRow (eligibleSourceRows (datedSourceRows rows "rate_date") asOf)
  | _ => none

/-! ## What is appended -/

def HasPrice (request : ProposalSimulateRequest) (instrumentId : String) : Prop :=
  ∃ price ∈ request.marketDataSnapshot.prices, price.instrumentId = instrumentId

instance (request : ProposalSimulateRequest) (instrumentId : String) :
    Decidable (HasPrice request instrumentId) :=
  inferInstanceAs (Decidable (∃ price ∈ request.marketDataSnapshot.prices, _))

def ShelfEntryExists (request : ProposalSimulateRequest) (instrumentId : String) : Prop :=
  ∃ entry ∈ request.shelfEntries, entry.instrumentId = instrumentId

instance (request : ProposalSimulateRequest) (instrumentId : String) :
    Decidable (ShelfEntryExists request instrumentId) :=
  inferInstanceAs (Decidable (∃ entry ∈ request.shelfEntries, _))

/-- A rate of the two currencies, in either direction. -/
def HasFxPair (request : ProposalSimulateRequest) (fromCurrency toCurrency : String) : Prop :=
  ∃ rate ∈ request.marketDataSnapshot.fxRates,
    rate.pair = pairOf fromCurrency toCurrency ∨ rate.pair = pairOf toCurrency fromCurrency

instance (request : ProposalSimulateRequest) (fromCurrency toCurrency : String) :
    Decidable (HasFxPair request fromCurrency toCurrency) :=
  inferInstanceAs (Decidable (∃ rate ∈ request.marketDataSnapshot.fxRates, _))

def addPrice (request : ProposalSimulateRequest) (price : Price) : ProposalSimulateRequest :=
  { request with
    marketDataSnapshot.prices := request.marketDataSnapshot.prices ++ [price] }

def addShelfEntry (request : ProposalSimulateRequest) (entry : ShelfEntry) :
    ProposalSimulateRequest :=
  { request with shelfEntries := request.shelfEntries ++ [entry] }

def addFxRate (request : ProposalSimulateRequest) (rate : FxRate) : ProposalSimulateRequest :=
  { request with
    marketDataSnapshot.fxRates := request.marketDataSnapshot.fxRates ++ [rate] }

section Appending

variable (texts : ClassificationTexts)

/-- A row without a price is left out. -/
def priceOfRow (instrumentId instrumentCurrency : String) (latestPriceRow : JsonObject) :
    Except TranslationError (Option Price) :=
  match texts.decimalOrNone (latestPriceRow.get "price") with
  | none => .ok none
  | some price => (validatedDecimal price).map fun price =>
      some ⟨instrumentId, price, instrumentCurrency⟩

def appendPriceIfMissing (request : ProposalSimulateRequest)
    (instrumentId instrumentCurrency : String) (latestPriceRow : JsonObject) :
    Except TranslationError ProposalSimulateRequest :=
  if HasPrice request instrumentId then .ok request
  else (priceOfRow texts instrumentId instrumentCurrency latestPriceRow).map fun price =>
    price.elim request (addPrice request)

def appendShelfEntryIfMissing (request : ProposalSimulateRequest) (instrumentId : String)
    (instrumentRow enrichmentRow : JsonObject) (taxonomy : Option VersionedTaxonomy) :
    Except TranslationError ProposalSimulateRequest :=
  if ShelfEntryExists request instrumentId then .ok request
  else (tradeDraftShelfEntry texts instrumentId instrumentRow enrichmentRow taxonomy).map
    (addShelfEntry request)

def fxRateOfSourceValue (pair : String) (rate : Json) : Except TranslationError (Option FxRate) :=
  if ¬ ExplicitRateValue rate then .ok none
  else do
    let rate ← requiredDecimalRateValue texts.toPayloadTexts rate
    (fxRateFromSourceValue pair rate).map some

/-- The rate of the latest eligible row of a payload, if there is one. -/
def fxRateOfPayload (fromCurrency toCurrency asOf : String) (fxPayload : JsonObject) :
    Except TranslationError (Option FxRate) :=
  match selectLatestFxRow fxPayload asOf with
  | none => .ok none
  | some row => fxRateOfSourceValue texts (pairOf fromCurrency toCurrency) (row.get "rate")

end Appending

/-! ## The program -/

/-- What one hydration is for. -/
structure HydrationInput where
  simulateRequest : ProposalSimulateRequest
  portfolioId : String
  asOf : String

/-- What is read before the instruments are looked up. -/
structure HydrationContext where
  enrichmentByInstrumentId : Dict String JsonObject
  classificationTaxonomy : Option VersionedTaxonomy

def missingTradeInstrumentIds (request : ProposalSimulateRequest) : List String :=
  (Dict.firstOccurrences ((request.proposedTrades.map ProposedTrade.instrumentId).filter
    fun instrumentId => ¬ HasPrice request instrumentId ∨ ¬ ShelfEntryExists request instrumentId
    )).insertionSort (· ≤ ·)

def translated {A : Type} (result : Except TranslationError A) : SourceProgram A :=
  .ofExcept (result.mapError SourceReadError.translation)

section Program

variable (texts : ClassificationTexts) (env : SourceEnvironment)

def fetchClassificationTaxonomy (asOf : String) : SourceProgram VersionedTaxonomy := do
  let payload ← fetchJsonWithCache .classificationTaxonomy
    (env.classificationTaxonomyCacheKey asOf "instrument")
    (env.classificationTaxonomyRequest asOf "instrument")
    "LOTUS_CORE_STATEFUL_INSTRUMENT_LOOKUP_UNAVAILABLE"
  return parseClassificationTaxonomy texts payload

/-- Hydration goes on without a taxonomy. -/
def fetchOptionalClassificationTaxonomy (asOf : String) :
    SourceProgram (Option VersionedTaxonomy) :=
  (some <$> fetchClassificationTaxonomy texts env asOf).orElse fun _ => none

variable (portfolioId asOf : String)

def buildTradeDraftHydrationContext (missingInstrumentIds : List String) :
    SourceProgram HydrationContext := do
  let enrichmentByInstrumentId ← fetchInstrumentEnrichmentBulk texts.toPayloadTexts env portfolioId
    asOf missingInstrumentIds
  let classificationTaxonomy ← fetchOptionalClassificationTaxonomy texts env asOf
  return ⟨enrichmentByInstrumentId, classificationTaxonomy⟩

def fetchTradeInstrumentRow (instrumentId : String) : SourceProgram (Option JsonObject) := do
  let payload ← fetchJsonWithCache .instrumentLookup
    (env.instrumentLookupCacheKey instrumentId portfolioId asOf)
    (env.instrumentRequest instrumentId) "LOTUS_CORE_STATEFUL_INSTRUMENT_LOOKUP_UNAVAILABLE"
  return selectInstrumentRow payload

def fetchTradePriceRow (instrumentId : String) : SourceProgram (Option JsonObject) := do
  let payload ← fetchJsonWithCache .priceLookup
    (env.priceLookupCacheKey instrumentId portfolioId asOf)
    (env.priceRequest instrumentId) "LOTUS_CORE_STATEFUL_PRICE_LOOKUP_UNAVAILABLE"
  return selectLatestPriceRow payload asOf

/-- The currency of the instrument, or of its price. -/
def tradeInstrumentCurrency (instrumentRow latestPriceRow : JsonObject) : String :=
  texts.normalizedText (if (instrumentRow.get "currency").truthy then instrumentRow.get "currency"
    else latestPriceRow.get "currency")

def appendFxRateIfMissing (request : ProposalSimulateRequest) (instrumentCurrency : String) :
    SourceProgram ProposalSimulateRequest :=
  if instrumentCurrency = request.portfolioSnapshot.baseCurrency ∨
      HasFxPair request instrumentCurrency request.portfolioSnapshot.baseCurrency then
    pure request
  else do
    let fxPayload ← fetchJsonWithCache .fxLookup
      (env.fxLookupCacheKey instrumentCurrency request.portfolioSnapshot.baseCurrency portfolioId
        asOf)
      (env.fxRequest instrumentCurrency request.portfolioSnapshot.baseCurrency)
      "LOTUS_CORE_STATEFUL_FX_LOOKUP_UNAVAILABLE"
    let rate ← translated (fxRateOfPayload texts instrumentCurrency
      request.portfolioSnapshot.baseCurrency asOf fxPayload)
    return rate.elim request (addFxRate request)

/-- A row of an instrument and its latest price give it a price, a shelf entry and a rate. -/
def appendTradeInstrument (context : HydrationContext) (request : ProposalSimulateRequest)
    (instrumentId : String) (instrumentRow latestPriceRow : JsonObject) :
    SourceProgram ProposalSimulateRequest :=
  if tradeInstrumentCurrency texts instrumentRow latestPriceRow = "" then pure request
  else do
    let priced ← translated (appendPriceIfMissing texts request instrumentId
      (tradeInstrumentCurrency texts instrumentRow latestPriceRow) latestPriceRow)
    let shelved ← translated (appendShelfEntryIfMissing texts priced instrumentId instrumentRow
      ((Dict.get? context.enrichmentByInstrumentId instrumentId).getD [])
      context.classificationTaxonomy)
    appendFxRateIfMissing texts env portfolioId asOf shelved
      (tradeInstrumentCurrency texts instrumentRow latestPriceRow)

def enrichMissingTradeInstrument (context : HydrationContext) (request : ProposalSimulateRequest)
    (instrumentId : String) : SourceProgram ProposalSimulateRequest := do
  match ← fetchTradeInstrumentRow env portfolioId asOf instrumentId with
  | none => return request
  | some instrumentRow =>
    match ← fetchTradePriceRow env portfolioId asOf instrumentId with
    | none => return request
    | some latestPriceRow =>
      appendTradeInstrument texts env portfolioId asOf context request instrumentId instrumentRow
        latestPriceRow

def enrichStatefulSimulateRequestForTradeDrafts (input : HydrationInput) :
    SourceProgram ProposalSimulateRequest :=
  if missingTradeInstrumentIds input.simulateRequest = [] then pure input.simulateRequest
  else do
    let context ← buildTradeDraftHydrationContext texts env input.portfolioId input.asOf
      (missingTradeInstrumentIds input.simulateRequest)
    Calls.foldM (enrichMissingTradeInstrument texts env input.portfolioId input.asOf context)
      input.simulateRequest (missingTradeInstrumentIds input.simulateRequest)

end Program

end LotusAdvise.LotusCore

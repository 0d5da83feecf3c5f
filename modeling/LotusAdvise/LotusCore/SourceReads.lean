import LotusAdvise.Foundations.Calls
import LotusAdvise.Foundations.DictKeys
import LotusAdvise.Foundations.JsonStrings
import LotusAdvise.LotusCore.SourceCompleteness

/-! # Reads through the caches

What is read from Lotus Core is looked up in a cache first, and kept there after it was requested.
The key of a cache is the dump of all the dimensions of what is read.
-/

namespace LotusAdvise.LotusCore

/-! ## Identities -/

/-- The dimensions of a read that differ between the caches used here. The others are constant. -/
structure LotusCoreCacheIdentity where
  cacheFamily : String
  queryBaseUrl : String := "not-requested"
  controlPlaneBaseUrl : String := "not-requested"
  environment : String := "not-requested"
  tenantId : String := "tenant-unscoped"
  portfolioId : String := "not-requested"
  asOf : String := "not-requested"
  reportingCurrency : String := "source-default"
  taxonomyScope : String := "not-requested"
  securityId : String := "not-requested"
  instrumentId : String := "not-requested"
  fromCurrency : String := "not-requested"
  toCurrency : String := "not-requested"

/-- The items of a dump, after the opening brace. -/
def writeItems : List (String × String) → List Char
  | [] => ['}']
  | item :: items =>
    JsonStrings.writeString item.1 ++ ':' :: (JsonStrings.writeString item.2 ++
      (if items = [] then [] else [',']) ++ writeItems items)

/-- `json.dumps` of an object of texts that are in the order of their keys. -/
def writeTexts (items : List (String × String)) : String := String.ofList ('{' :: writeItems items)

/-- The dimensions in the order of their names. -/
def LotusCoreCacheIdentity.dimensions (safeBaseUrlIdentity : String → String)
    (identity : LotusCoreCacheIdentity) : List (String × String) :=
  [("allocation_dimensions", "source-default"),
    ("as_of", identity.asOf),
    ("benchmark_id", "not-requested"),
    ("cache_family", identity.cacheFamily),
    ("contract_version", "advisory-simulation.v1"),
    ("control_plane_base_url", safeBaseUrlIdentity identity.controlPlaneBaseUrl),
    ("environment", identity.environment),
    ("from_currency", identity.fromCurrency),
    ("household_id", "not-requested"),
    ("instrument_id", identity.instrumentId),
    ("look_through_mode", "not-requested"),
    ("mandate_id", "not-requested"),
    ("portfolio_id", identity.portfolioId),
    ("query_base_url", safeBaseUrlIdentity identity.queryBaseUrl),
    ("reporting_currency", identity.reportingCurrency),
    ("risk_options", "not-requested"),
    ("security_id", identity.securityId),
    ("taxonomy_scope", identity.taxonomyScope),
    ("tenant_id", identity.tenantId),
    ("to_currency", identity.toCurrency),
    ("valuation_options", "TRUST_SNAPSHOT")]

/-- What the reads are done with: the base addresses, and what the process is run with. -/
structure SourceEnvironment where
  baseUrl : String
  controlPlaneBaseUrl : String
  environment : String
  tenantId : String
  safeBaseUrlIdentity : String → String

def normalizedDimension (value : String) : String :=
  if Text.strip value = "" then "not-requested" else Text.strip value

namespace SourceEnvironment

variable (env : SourceEnvironment)

def cacheKey (identity : LotusCoreCacheIdentity) : String :=
  writeTexts ({ identity with
    environment := env.environment
    tenantId := env.tenantId }.dimensions env.safeBaseUrlIdentity)

def instrumentEnrichmentCacheKey (securityId portfolioId asOf : String) : String :=
  env.cacheKey {
    cacheFamily := "instrument-enrichment"
    controlPlaneBaseUrl := env.controlPlaneBaseUrl
    portfolioId := normalizedDimension portfolioId
    asOf := normalizedDimension asOf
    securityId := normalizedDimension securityId }

def classificationTaxonomyCacheKey (asOf taxonomyScope : String) : String :=
  env.cacheKey {
    cacheFamily := "classification-taxonomy"
    controlPlaneBaseUrl := env.controlPlaneBaseUrl
    asOf := normalizedDimension asOf
    taxonomyScope := normalizedDimension taxonomyScope }

def instrumentLookupCacheKey (instrumentId portfolioId asOf : String) : String :=
  env.cacheKey {
    cacheFamily := "instrument-lookup"
    queryBaseUrl := env.baseUrl
    portfolioId := normalizedDimension portfolioId
    asOf := normalizedDimension asOf
    instrumentId := normalizedDimension instrumentId }

def priceLookupCacheKey (instrumentId portfolioId asOf : String) : String :=
  env.cacheKey {
    cacheFamily := "price-lookup"
    queryBaseUrl := env.baseUrl
    portfolioId := normalizedDimension portfolioId
    asOf := normalizedDimension asOf
    instrumentId := normalizedDimension instrumentId }

def fxLookupCacheKey (fromCurrency toCurrency portfolioId asOf : String) : String :=
  env.cacheKey {
    cacheFamily := "fx-lookup"
    queryBaseUrl := env.baseUrl
    portfolioId := normalizedDimension portfolioId
    asOf := normalizedDimension asOf
    fromCurrency := normalizedDimension fromCurrency
    toCurrency := normalizedDimension toCurrency
    reportingCurrency := normalizedDimension toCurrency }

end SourceEnvironment

/-! ## Requests -/

structure SourceRequest where
  method : String
  url : String
  jsonBody : Option JsonObject := none
deriving DecidableEq

namespace SourceEnvironment

variable (env : SourceEnvironment)

def instrumentRequest (instrumentId : String) : SourceRequest where
  method := "GET"
  url := env.baseUrl ++ ("/instruments/?security_id=" ++ instrumentId)

def priceRequest (instrumentId : String) : SourceRequest where
  method := "GET"
  url := env.baseUrl ++ ("/prices/?security_id=" ++ instrumentId)

def fxRequest (fromCurrency toCurrency : String) : SourceRequest where
  method := "GET"
  url := env.baseUrl ++
    ("/fx-rates/?from_currency=" ++ fromCurrency ++ "&to_currency=" ++ toCurrency)

def classificationTaxonomyRequest (asOf taxonomyScope : String) : SourceRequest where
  method := "POST"
  url := env.controlPlaneBaseUrl ++ "/integration/reference/classification-taxonomy"
  jsonBody := some [("as_of_date", .str asOf), ("taxonomy_scope", .str taxonomyScope)]

def instrumentEnrichmentRequest (securityIds : List String) : SourceRequest where
  method := "POST"
  url := env.controlPlaneBaseUrl ++ "/integration/instruments/enrichment-bulk"
  jsonBody := some [("security_ids", .ofTexts securityIds)]

end SourceEnvironment

/-! ## Calls -/

inductive CacheName where
  | instrumentLookup
  | instrumentEnrichment
  | classificationTaxonomy
  | priceLookup
  | fxLookup
deriving DecidableEq

/-- A call of a cache, or a request. -/
inductive SourceCall where
  | getCachedPayload (cache : CacheName) (cacheKey : String)
  | cachePayload (cache : CacheName) (cacheKey : String) (payload : JsonObject)
  | request (request : SourceRequest)

/-- A request is not answered if it fails, or if the answer is no object. -/
def SourceCall.Answer : SourceCall → Type
  | getCachedPayload _ _ => Option JsonObject
  | cachePayload _ _ _ => JsonObject
  | request _ => Option JsonObject

inductive SourceReadError where
  | unavailable (errorCode : String)
  | translation (error : TranslationError)
deriving DecidableEq

abbrev SourceProgram (A : Type) := Calls SourceCall.Answer SourceReadError A

def requestJson (request : SourceRequest) (errorCode : String) : SourceProgram JsonObject :=
  .call (.request request) fun (payload : Option JsonObject) =>
    .done (match payload with
      | none => .error (.unavailable errorCode)
      | some payload => .ok payload)

def fetchJsonWithCache (cache : CacheName) (cacheKey : String) (request : SourceRequest)
    (errorCode : String) : SourceProgram JsonObject :=
  .call (.getCachedPayload cache cacheKey) fun (cached : Option JsonObject) =>
    match cached with
    | some payload => pure payload
    | none => do
      let payload ← requestJson request errorCode
      .call (.cachePayload cache cacheKey payload) fun (payload : JsonObject) => pure payload

/-! ## Instrument enrichment -/

structure InstrumentEnrichmentFetchResult where
  enrichmentBySecurityId : Dict String JsonObject
  malformedRecordCount : ℕ := 0

def requestedSecurityIds (securityIds : List String) : List String :=
  (Dict.firstOccurrences (securityIds.filter (· ≠ ""))).insertionSort (· ≤ ·)

section Enrichment

variable (texts : PayloadTexts) (env : SourceEnvironment) (portfolioId asOf : String)

/-- A record that is cached goes to the rows, and any other to the missing ones. -/
def readCachedRecord (rows : Dict String JsonObject × List String) (securityId : String) :
    SourceProgram (Dict String JsonObject × List String) :=
  .call (.getCachedPayload .instrumentEnrichment
    (env.instrumentEnrichmentCacheKey securityId portfolioId asOf))
    fun (cachedRecord : Option JsonObject) =>
      match cachedRecord with
      | none => pure (rows.1, rows.2 ++ [securityId])
      | some record => pure (Dict.set rows.1 securityId record, rows.2)

def cachedInstrumentEnrichment (requestedIds : List String) :
    SourceProgram (Dict String JsonObject × List String) :=
  Calls.foldM (readCachedRecord env portfolioId asOf) ([], []) requestedIds

/-- A record without an identifier is malformed. -/
def appendInstrumentEnrichmentRecord (fetched : InstrumentEnrichmentFetchResult) (record : Json) :
    SourceProgram InstrumentEnrichmentFetchResult :=
  match asMapping? record with
  | none => pure { fetched with malformedRecordCount := fetched.malformedRecordCount + 1 }
  | some row =>
    if texts.instrumentIdOf row = "" then
      pure { fetched with malformedRecordCount := fetched.malformedRecordCount + 1 }
    else
      .call (.cachePayload .instrumentEnrichment
        (env.instrumentEnrichmentCacheKey (texts.instrumentIdOf row) portfolioId asOf) row)
        fun (payload : JsonObject) => pure { fetched with
          enrichmentBySecurityId :=
            Dict.set fetched.enrichmentBySecurityId (texts.instrumentIdOf row) payload }

def withFetchedInstrumentEnrichment (enrichmentBySecurityId : Dict String JsonObject)
    (payload : JsonObject) : SourceProgram InstrumentEnrichmentFetchResult :=
  match payload.get "records" with
  | .arr records =>
    Calls.foldM (appendInstrumentEnrichmentRecord texts env portfolioId asOf)
      ⟨enrichmentBySecurityId, 0⟩ records
  | _ => pure ⟨enrichmentBySecurityId, 1⟩

def fetchInstrumentEnrichmentBulkWithDiagnostics (securityIds : List String) :
    SourceProgram InstrumentEnrichmentFetchResult := do
  let cached ← cachedInstrumentEnrichment env portfolioId asOf (requestedSecurityIds securityIds)
  if requestedSecurityIds securityIds = [] then return ⟨cached.1, 0⟩
  else if cached.2 = [] then return ⟨cached.1, 0⟩
  else
    let payload ← requestJson (env.instrumentEnrichmentRequest cached.2)
      "LOTUS_CORE_STATEFUL_INSTRUMENT_LOOKUP_UNAVAILABLE"
    withFetchedInstrumentEnrichment texts env portfolioId asOf cached.1 payload

def fetchInstrumentEnrichmentBulk (securityIds : List String) :
    SourceProgram (Dict String JsonObject) := do
  let fetched ← fetchInstrumentEnrichmentBulkWithDiagnostics texts env portfolioId asOf securityIds
  return fetched.enrichmentBySecurityId

end Enrichment

/-! ## Keys -/

section Keys

theorem writeString_append_inj {s t : String} {xs ys : List Char}
    (h : JsonStrings.writeString s ++ xs = JsonStrings.writeString t ++ ys) : s = t ∧ xs = ys := by
  have hread := congrArg JsonStrings.readString h
  rw [JsonStrings.readString_writeString, JsonStrings.readString_writeString] at hread
  exact Prod.mk.inj (Option.some.inj hread)

theorem writeItems_inj {items others : List (String × String)}
    (hlength : items.length = others.length) (h : writeItems items = writeItems others) :
    items = others := by
  induction items generalizing others with
  | nil =>
    cases others with
    | nil => rfl
    | cons => cases hlength
  | cons item items ih =>
    cases others with
    | nil => cases hlength
    | cons other others =>
      have hrest : items.length = others.length := Nat.succ.inj hlength
      have hempty : (items = []) = (others = []) := by
        rw [← List.length_eq_zero_iff, ← List.length_eq_zero_iff, hrest]
      simp only [writeItems, hempty, List.append_assoc] at h
      obtain ⟨hkey, hvalue⟩ := writeString_append_inj h
      obtain ⟨hvalue, htail⟩ := writeString_append_inj (List.cons.inj hvalue).2
      rw [Prod.ext hkey hvalue, ih hrest (List.append_cancel_left htail)]

/-- Two keys are the same only if all dimensions are. -/
theorem dimensions_eq_of_cacheKey {env : SourceEnvironment} {a b : LotusCoreCacheIdentity}
    (h : env.cacheKey a = env.cacheKey b) :
    a.asOf = b.asOf ∧ a.fromCurrency = b.fromCurrency ∧ a.instrumentId = b.instrumentId ∧
      a.securityId = b.securityId ∧ a.toCurrency = b.toCurrency := by
  have htexts := (List.cons.inj (String.ofList_injective h)).2
  have hitems := writeItems_inj (by rfl) htexts
  simp only [LotusCoreCacheIdentity.dimensions, List.cons.injEq, Prod.mk.injEq, true_and,
    and_true] at hitems
  obtain ⟨hasOf, -, -, hfrom, hinstrument, -, -, -, hsecurity, -, hto⟩ := hitems
  exact ⟨hasOf, hfrom, hinstrument, hsecurity, hto⟩

/-- A text that a key keeps as it is. -/
def Tidy (text : String) : Prop := Text.strip text = text ∧ text ≠ ""

instance (text : String) : Decidable (Tidy text) := inferInstanceAs (Decidable (_ ∧ _))

theorem Tidy.normalizedDimension_eq {text : String} (h : Tidy text) :
    normalizedDimension text = text := by
  rw [normalizedDimension, h.1, if_neg h.2]

theorem tidy_normalizedText {texts : PayloadTexts} {value : Json}
    (h : texts.normalizedText value ≠ "") : Tidy (texts.normalizedText value) :=
  ⟨Text.strip_strip _, h⟩

variable {env : SourceEnvironment} {portfolioId portfolioId' asOf asOf' : String} {a b c d : String}

theorem instrumentEnrichmentCacheKey_inj (ha : Tidy a) (hb : Tidy b)
    (h : env.instrumentEnrichmentCacheKey a portfolioId asOf =
      env.instrumentEnrichmentCacheKey b portfolioId' asOf') : a = b := by
  obtain ⟨-, -, -, hsame, -⟩ := dimensions_eq_of_cacheKey h
  simpa only [ha.normalizedDimension_eq, hb.normalizedDimension_eq] using hsame

theorem classificationTaxonomyCacheKey_inj (ha : Tidy a) (hb : Tidy b)
    (h : env.classificationTaxonomyCacheKey a c = env.classificationTaxonomyCacheKey b d) :
    a = b := by
  obtain ⟨hsame, -⟩ := dimensions_eq_of_cacheKey h
  simpa only [ha.normalizedDimension_eq, hb.normalizedDimension_eq] using hsame

theorem instrumentLookupCacheKey_inj (ha : Tidy a) (hb : Tidy b)
    (h : env.instrumentLookupCacheKey a portfolioId asOf =
      env.instrumentLookupCacheKey b portfolioId' asOf') : a = b := by
  obtain ⟨-, -, hsame, -⟩ := dimensions_eq_of_cacheKey h
  simpa only [ha.normalizedDimension_eq, hb.normalizedDimension_eq] using hsame

theorem priceLookupCacheKey_inj (ha : Tidy a) (hb : Tidy b)
    (h : env.priceLookupCacheKey a portfolioId asOf =
      env.priceLookupCacheKey b portfolioId' asOf') : a = b := by
  obtain ⟨-, -, hsame, -⟩ := dimensions_eq_of_cacheKey h
  simpa only [ha.normalizedDimension_eq, hb.normalizedDimension_eq] using hsame

theorem fxLookupCacheKey_inj (ha : Tidy a) (hb : Tidy b) (hc : Tidy c) (hd : Tidy d)
    (h : env.fxLookupCacheKey a c portfolioId asOf =
      env.fxLookupCacheKey b d portfolioId' asOf') : a = b ∧ c = d := by
  obtain ⟨-, hfrom, -, -, hto⟩ := dimensions_eq_of_cacheKey h
  constructor
  · simpa only [ha.normalizedDimension_eq, hb.normalizedDimension_eq] using hfrom
  · simpa only [hc.normalizedDimension_eq, hd.normalizedDimension_eq] using hto

end Keys

/-! ## Without the caches -/

/-- Nothing is cached, and the source answers the requests. -/
def uncached (source : SourceRequest → Option JsonObject) : (call : SourceCall) → call.Answer
  | .getCachedPayload _ _ => (none : Option JsonObject)
  | .cachePayload _ _ payload => payload
  | .request request => source request

/-- The payload that the source answers with. -/
def answered (source : SourceRequest → Option JsonObject) (request : SourceRequest)
    (errorCode : String) : Except SourceReadError JsonObject :=
  match source request with
  | none => .error (.unavailable errorCode)
  | some payload => .ok payload

section Uncached

variable {texts : PayloadTexts} {env : SourceEnvironment}
  {source : SourceRequest → Option JsonObject} {portfolioId asOf errorCode : String}
  {request : SourceRequest} {ids later : List String}

@[simp] theorem eval_requestJson : (requestJson request errorCode).eval (uncached source) =
    answered source request errorCode := rfl

@[simp] theorem eval_fetchJsonWithCache {cache : CacheName} {cacheKey : String} :
    (fetchJsonWithCache cache cacheKey request errorCode).eval (uncached source) =
      answered source request errorCode := by
  change (requestJson request errorCode >>= _).eval (uncached source) = _
  rw [Calls.eval_bind, eval_requestJson]
  cases answered source request errorCode <;> rfl

theorem answered_eq_ok {payload : JsonObject} :
    answered source request errorCode = .ok payload ↔ source request = some payload := by
  unfold answered
  cases source request <;> simp

/-- Without a cache all identifiers are requested. -/
theorem eval_cachedInstrumentEnrichment :
    (cachedInstrumentEnrichment env portfolioId asOf ids).eval (uncached source) =
      .ok ([], ids) := by
  have hfold : ∀ missing : List String, (Calls.foldM (readCachedRecord env portfolioId asOf)
      ([], missing) ids).eval (uncached source) = .ok ([], missing ++ ids) := by
    induction ids with
    | nil => simp [Calls.foldM]
    | cons id ids ih =>
      intro missing
      rw [Calls.foldM, Calls.eval_bind]
      exact (ih _).trans (by rw [List.append_assoc, List.singleton_append])
  exact hfold []

theorem exists_eval_withFetchedInstrumentEnrichment (rows : Dict String JsonObject)
    (payload : JsonObject) : ∃ fetched, (withFetchedInstrumentEnrichment texts env
      portfolioId asOf rows payload).eval (uncached source) = .ok fetched := by
  unfold withFetchedInstrumentEnrichment
  split
  · next records hrecords =>
    generalize (⟨rows, 0⟩ : InstrumentEnrichmentFetchResult) = fetched
    clear hrecords
    induction records generalizing fetched with
    | nil => exact ⟨fetched, rfl⟩
    | cons record records ih =>
      have hstep : ∃ next, (appendInstrumentEnrichmentRecord texts env portfolioId
          asOf fetched record).eval (uncached source) = .ok next := by
        unfold appendInstrumentEnrichmentRecord
        split
        · exact ⟨_, rfl⟩
        · split_ifs
          · exact ⟨_, rfl⟩
          · exact ⟨_, rfl⟩
      obtain ⟨next, hnext⟩ := hstep
      rw [Calls.foldM, Calls.eval_bind, hnext]
      exact ih next
  · exact ⟨_, rfl⟩

theorem requestedSecurityIds_subset (h : ids ⊆ later) :
    requestedSecurityIds ids ⊆ requestedSecurityIds later := by
  intro id hid
  unfold requestedSecurityIds at hid ⊢
  rw [List.mem_insertionSort, Dict.mem_firstOccurrences, List.mem_filter] at hid ⊢
  exact ⟨h hid.1, hid.2⟩

end Uncached

end LotusAdvise.LotusCore

import LotusAdvise.LotusCore.HydratedDrafts
import LotusAdvise.LotusCore.TimedCache

/-! # Hydrations that share the caches

Any number of hydrations run at once over the same caches. Between two calls of one of them the
others may read and write, and entries expire or are evicted. Every hydration still comes to what it
comes to without the caches, as long as the source does not change its answers.
-/

namespace LotusAdvise.LotusCore

open Advisory (ProposalSimulateRequest)

/-! ## The caches -/

/-- The clock at each call, and the settings that are in force then. -/
structure CacheRuntime where
  now : ℕ → ℚ
  ttlSeconds : ℕ → ℚ
  maxSize : ℕ → ℕ

/-- A copy of a payload is equal to it. -/
def CacheRuntime.settings (runtime : CacheRuntime) (tick : ℕ) : TimedCacheSettings JsonObject where
  cloneValue := id
  ttlSeconds := runtime.ttlSeconds tick
  maxSize := runtime.maxSize tick

structure SourceCaches where
  caches : CacheName → TimedCache String JsonObject := fun _ => {}
  ticks : ℕ := 0

def SourceCaches.put (state : SourceCaches) (name : CacheName)
    (cache : TimedCache String JsonObject) : SourceCaches where
  caches := Function.update state.caches name cache
  ticks := state.ticks + 1

/-- A call is served with the lock of its cache, or by the source. -/
def serveCall (runtime : CacheRuntime) (source : SourceRequest → Option JsonObject)
    (state : SourceCaches) : (call : SourceCall) → SourceCaches × call.Answer
  | .getCachedPayload name cacheKey =>
    let read := (state.caches name).get (runtime.settings state.ticks) (runtime.now state.ticks)
      cacheKey
    (state.put name read.1, read.2)
  | .cachePayload name cacheKey payload =>
    let stored := (state.caches name).set (runtime.settings state.ticks)
      (runtime.now state.ticks) cacheKey payload
    (state.put name stored.1, stored.2)
  | .request request => ({ state with ticks := state.ticks + 1 }, source request)

/-! ## What may be cached -/

/-- A request is answered record by record. -/
structure EnrichesPointwise (texts : PayloadTexts) (env : SourceEnvironment)
    (source : SourceRequest → Option JsonObject) (row : String → Option JsonObject) : Prop where
  records : ∀ ids, ids ≠ [] → ∃ payload,
    source (env.instrumentEnrichmentRequest ids) = some payload ∧
      payload.get "records" = .arr ((ids.filterMap row).map .obj)
  named : ∀ id record, Tidy id → row id = some record → texts.instrumentIdOf record = id

/-- The requests whose answers are cached under a key. -/
inductive KeyedRequest (env : SourceEnvironment) : CacheName → String → SourceRequest → Prop
  | instrument {id : String} (portfolioId asOf : String) (h : Tidy id) :
    KeyedRequest env .instrumentLookup (env.instrumentLookupCacheKey id portfolioId asOf)
      (env.instrumentRequest id)
  | price {id : String} (portfolioId asOf : String) (h : Tidy id) :
    KeyedRequest env .priceLookup (env.priceLookupCacheKey id portfolioId asOf)
      (env.priceRequest id)
  | fx {fromCurrency toCurrency : String} (portfolioId asOf : String) (hfrom : Tidy fromCurrency)
      (hto : Tidy toCurrency) :
    KeyedRequest env .fxLookup (env.fxLookupCacheKey fromCurrency toCurrency portfolioId asOf)
      (env.fxRequest fromCurrency toCurrency)
  | taxonomy {asOf : String} (h : Tidy asOf) :
    KeyedRequest env .classificationTaxonomy (env.classificationTaxonomyCacheKey asOf "instrument")
      (env.classificationTaxonomyRequest asOf "instrument")

/-- What a key stands for: the answer to its requests, or the record of its instrument. -/
structure Good (env : SourceEnvironment) (source : SourceRequest → Option JsonObject)
    (row : String → Option JsonObject) (name : CacheName) (cacheKey : String)
    (payload : JsonObject) : Prop where
  answer : ∀ request, KeyedRequest env name cacheKey request → source request = some payload
  record : name = .instrumentEnrichment → ∀ id portfolioId asOf, Tidy id →
    env.instrumentEnrichmentCacheKey id portfolioId asOf = cacheKey → row id = some payload

def cacheRules (env : SourceEnvironment) (source : SourceRequest → Option JsonObject)
    (row : String → Option JsonObject) : Calls.Rules SourceCall.Answer where
  Valid
    | .getCachedPayload _ _ => True
    | .cachePayload name cacheKey payload => Good env source row name cacheKey payload
    | .request _ => True
  Allowed
    | .getCachedPayload name cacheKey, answer =>
      ∀ payload, answer = some payload → Good env source row name cacheKey payload
    | .cachePayload _ _ payload, answer => answer = payload
    | .request request, answer => answer = source request

def SoundCaches (env : SourceEnvironment) (source : SourceRequest → Option JsonObject)
    (row : String → Option JsonObject) (state : SourceCaches) : Prop :=
  ∀ name, ∀ item ∈ (state.caches name).values, Good env source row name item.1 item.2.2

section Serving

variable {env : SourceEnvironment} {source : SourceRequest → Option JsonObject}
  {row : String → Option JsonObject} {state : SourceCaches} {name : CacheName}
  {cache : TimedCache String JsonObject} {settings : TimedCacheSettings JsonObject} {now : ℚ}
  {cacheKey : String} {payload : JsonObject}

theorem SoundCaches.put (h : SoundCaches env source row state)
    (hcache : ∀ item ∈ cache.values, Good env source row name item.1 item.2.2) :
    SoundCaches env source row (state.put name cache) := by
  intro name' item hitem
  unfold SourceCaches.put at hitem
  dsimp only at hitem
  by_cases hname : name' = name
  · subst hname
    rw [Function.update_self] at hitem
    exact hcache item hitem
  · rw [Function.update_of_ne hname] at hitem
    exact h name' item hitem

theorem mem_values_get {item : String × ℚ × JsonObject}
    (h : item ∈ (cache.get settings now cacheKey).1.values) : item ∈ cache.values := by
  unfold TimedCache.get at h
  split at h
  · exact h
  · next entry hentry =>
    split_ifs at h
    · exact (Dict.mem_pop.mp h).1
    · dsimp only at h
      rw [Dict.moveToEnd_of_get? hentry] at h
      rcases List.mem_append.mp h with hold | hnew
      · exact (Dict.mem_pop.mp hold).1
      · rw [List.mem_singleton.mp hnew]
        exact Dict.mem_of_get? hentry

theorem get_eq_some {read : JsonObject} (h : (cache.get settings now cacheKey).2 = some read) :
    ∃ expiresAt stored, (cacheKey, expiresAt, stored) ∈ cache.values ∧
      read = settings.cloneValue stored := by
  unfold TimedCache.get at h
  split at h
  · cases h
  · next entry hentry =>
    split_ifs at h
    exact ⟨entry.1, entry.2, Dict.mem_of_get? hentry, (Option.some.inj h).symm⟩

theorem mem_values_set {item : String × ℚ × JsonObject}
    (h : item ∈ (cache.set settings now cacheKey payload).1.values) :
    item ∈ cache.values ∨ item.1 = cacheKey ∧ item.2.2 = settings.cloneValue payload := by
  have hmem := (Dict.evictOldest_sublist _ _ _).subset h
  unfold TimedCache.written at hmem
  rw [Dict.moveToEnd_set] at hmem
  rcases List.mem_append.mp hmem with hold | hnew
  · exact .inl (Dict.mem_pop.mp hold).1
  · rw [List.mem_singleton.mp hnew]
    exact .inr ⟨rfl, rfl⟩

/-- The caches stay sound, whatever the clock and the settings are. -/
theorem serveCall_serves (runtime : CacheRuntime) :
    Calls.Serves (cacheRules env source row) (SoundCaches env source row)
      (serveCall runtime source) := by
  intro state call hsound hvalid
  cases call with
  | getCachedPayload name cacheKey =>
    constructor
    · exact hsound.put fun item hitem => hsound name item (mem_values_get hitem)
    · intro payload hpayload
      obtain ⟨expiresAt, stored, hmem, rfl⟩ := get_eq_some hpayload
      exact hsound name _ hmem
  | cachePayload name cacheKey payload =>
    constructor
    · refine hsound.put fun item hitem => ?_
      rcases mem_values_set hitem with hold | ⟨hkey, hstored⟩
      · exact hsound name item hold
      · rw [hkey, hstored]
        exact hvalid
    · rfl
  | request request => exact ⟨hsound, rfl⟩

theorem uncached_allowed (call : SourceCall) :
    (cacheRules env source row).Allowed call (uncached source call) := by
  cases call with
  | getCachedPayload name cacheKey =>
    intro payload h
    cases h
  | cachePayload name cacheKey payload => rfl
  | request request => rfl

end Serving

/-! ## Steady reads -/

section Reads

variable {texts : ClassificationTexts} {env : SourceEnvironment}
  {source : SourceRequest → Option JsonObject} {row : String → Option JsonObject}
  {name : CacheName} {cacheKey portfolioId asOf errorCode : String} {request : SourceRequest}
  {payload : JsonObject}

/-- A key has one request. -/
theorem KeyedRequest.unique {request' : SourceRequest} (h : KeyedRequest env name cacheKey request)
    (h' : KeyedRequest env name cacheKey request') : request = request' := by
  generalize hkey : cacheKey = cacheKey' at h'
  cases h with
  | instrument _ _ hid =>
    cases h' with
    | instrument _ _ hid' => rw [instrumentLookupCacheKey_inj hid hid' hkey]
  | price _ _ hid =>
    cases h' with
    | price _ _ hid' => rw [priceLookupCacheKey_inj hid hid' hkey]
  | fx _ _ hfrom hto =>
    cases h' with
    | fx _ _ hfrom' hto' =>
      obtain ⟨rfl, rfl⟩ := fxLookupCacheKey_inj hfrom hfrom' hto hto' hkey
      rfl
  | taxonomy hasOf =>
    cases h' with
    | taxonomy hasOf' => rw [classificationTaxonomyCacheKey_inj hasOf hasOf' hkey]

theorem KeyedRequest.good (h : KeyedRequest env name cacheKey request)
    (hpayload : source request = some payload) : Good env source row name cacheKey payload where
  answer request' h' := by
    rw [h'.unique h]
    exact hpayload
  record hname := by
    subst hname
    cases h

theorem steady_fetchJsonWithCache (h : KeyedRequest env name cacheKey request) :
    Calls.Steady (cacheRules env source row) (uncached source)
      (fetchJsonWithCache name cacheKey request errorCode) := by
  constructor
  rw [eval_fetchJsonWithCache]
  refine ⟨trivial, fun (answer : Option JsonObject) hanswer => ?_⟩
  cases answer with
  | none =>
    refine ⟨trivial, fun (answer : Option JsonObject) (hanswer : answer = source request) => ?_⟩
    subst hanswer
    unfold answered
    cases hpayload : source request with
    | none => rfl
    | some payload =>
      refine ⟨h.good hpayload, fun (answer : JsonObject) (hanswer : answer = payload) => ?_⟩
      rw [hanswer]
      rfl
  | some payload =>
    rw [answered_eq_ok.mpr ((hanswer payload rfl).answer request h)]
    rfl

end Reads

/-! ## Steady enrichment -/

section Enrichment

variable {texts : PayloadTexts} {env : SourceEnvironment}
  {source : SourceRequest → Option JsonObject} {row : String → Option JsonObject}
  {portfolioId asOf : String} {ids : List String} {rows rows' : Dict String JsonObject}
  {post : Except SourceReadError InstrumentEnrichmentFetchResult → Prop}

/-- Only records of the source are in the rows. -/
def CorrectRows (row : String → Option JsonObject) (rows : Dict String JsonObject) : Prop :=
  ∀ id record, Dict.get? rows id = some record → row id = some record

/-- Rows that are correct, and have what the others have. -/
structure Completes (row : String → Option JsonObject) (rows rows' : Dict String JsonObject) :
    Prop where
  correct : CorrectRows row rows'
  keeps : ∀ id, Dict.get? rows id = row id → Dict.get? rows' id = row id

theorem Completes.refl (h : CorrectRows row rows) : Completes row rows rows := ⟨h, fun _ => id⟩

theorem Completes.trans {rows'' : Dict String JsonObject} (h : Completes row rows rows')
    (h' : Completes row rows' rows'') : Completes row rows rows'' :=
  ⟨h'.correct, fun id hid => h'.keeps id (h.keeps id hid)⟩

theorem completes_set {id : String} {record : JsonObject} (h : CorrectRows row rows)
    (hrecord : row id = some record) : Completes row rows (Dict.set rows id record) where
  correct other found hfound := by
    rw [Dict.get?_set] at hfound
    split_ifs at hfound with hother
    · rw [← hother, hrecord, hfound]
    · exact h other found hfound
  keeps other hother := by
    rw [Dict.get?_set]
    split_ifs with hid
    · rw [← hid, hrecord]
    · exact hother

/-- What is not among the missing identifiers is in the rows. -/
theorem ensures_cachedRecords (hids : ∀ id ∈ ids, Tidy id) (missing : List String)
    (h : CorrectRows row rows) :
    Calls.Ensures (cacheRules env source row)
      (fun result => ∃ rows' missing', result = .ok (rows', missing') ∧ Completes row rows rows' ∧
        missing ⊆ missing' ∧ missing' ⊆ missing ++ ids ∧
        ∀ id ∈ ids, id ∈ missing' ∨ Dict.get? rows' id = row id)
      (Calls.foldM (readCachedRecord env portfolioId asOf) (rows, missing) ids) := by
  induction ids generalizing rows missing with
  | nil =>
    exact ⟨rows, missing, rfl, .refl h, List.Subset.refl _, List.subset_append_left _ _,
      fun id hid => absurd hid List.not_mem_nil⟩
  | cons id ids ih =>
    have hrest : ∀ id ∈ ids, Tidy id := fun id hid => hids id (List.mem_cons_of_mem _ hid)
    refine Calls.ensures_bind ⟨trivial, fun (answer : Option JsonObject) hanswer => ?_⟩
    cases answer with
    | none =>
      refine (ih hrest (missing ++ [id]) h).mono ?_
      rintro result ⟨rows', missing', rfl, hcompletes, hmissing, honly, hfound⟩
      obtain ⟨hbefore, hid⟩ := List.append_subset.mp hmissing
      rw [List.append_assoc, List.singleton_append] at honly
      refine ⟨rows', missing', rfl, hcompletes, hbefore, honly, ?_⟩
      intro other hother
      rcases List.mem_cons.mp hother with rfl | hother
      · exact .inl (hid (List.mem_singleton_self _))
      · exact hfound other hother
    | some record =>
      have hrecord : row id = some record :=
        (hanswer record rfl).record rfl id portfolioId asOf (hids id List.mem_cons_self) rfl
      have hset := completes_set h hrecord
      refine (ih hrest missing hset.correct).mono ?_
      rintro result ⟨rows', missing', rfl, hcompletes, hmissing, honly, hfound⟩
      have honly' : missing' ⊆ missing ++ id :: ids := fun other hother =>
        List.mem_append.mpr ((List.mem_append.mp (honly hother)).imp_right (List.mem_cons_of_mem _))
      refine ⟨rows', missing', rfl, hset.trans hcompletes, hmissing, honly', ?_⟩
      intro other hother
      rcases List.mem_cons.mp hother with rfl | hother
      · exact .inr (hcompletes.keeps other (by rw [Dict.get?_set_self, hrecord]))
      · exact hfound other hother

/-- The records of a payload complete the rows. -/
theorem ensures_fetchedRecords (henriches : EnrichesPointwise texts env source row)
    (hids : ∀ id ∈ ids, Tidy id) (h : CorrectRows row rows) (malformed : ℕ) :
    Calls.Ensures (cacheRules env source row)
      (fun result => ∃ rows', result = .ok ⟨rows', malformed⟩ ∧ Completes row rows rows' ∧
        ∀ id ∈ ids, Dict.get? rows' id = row id)
      (Calls.foldM (appendInstrumentEnrichmentRecord texts env portfolioId asOf)
        ⟨rows, malformed⟩ ((ids.filterMap row).map .obj)) := by
  induction ids generalizing rows with
  | nil => exact ⟨rows, rfl, .refl h, fun id hid => absurd hid List.not_mem_nil⟩
  | cons id ids ih =>
    have hrest : ∀ id ∈ ids, Tidy id := fun id hid => hids id (List.mem_cons_of_mem _ hid)
    have hid : Tidy id := hids id List.mem_cons_self
    cases hrow : row id with
    | none =>
      rw [List.filterMap_cons_none hrow]
      refine (ih hrest h).mono ?_
      rintro result ⟨rows', rfl, hcompletes, hfound⟩
      refine ⟨rows', rfl, hcompletes, ?_⟩
      intro other hother
      rcases List.mem_cons.mp hother with rfl | hother
      · cases hget : Dict.get? rows' other with
        | none => exact hrow.symm
        | some record => exact (hcompletes.correct other record hget).symm
      · exact hfound other hother
    | some record =>
      obtain rfl := henriches.named id record hid hrow
      have hset := completes_set h hrow
      rw [List.filterMap_cons_some hrow, List.map_cons, Calls.foldM]
      apply Calls.ensures_bind
      unfold appendInstrumentEnrichmentRecord
      simp only [asMapping?, if_neg hid.2]
      have hgood : Good env source row .instrumentEnrichment
          (env.instrumentEnrichmentCacheKey (texts.instrumentIdOf record) portfolioId asOf)
          record := by
        constructor
        · intro request hrequest
          cases hrequest
        · intro _ other portfolioId' asOf' hother hkey
          rw [instrumentEnrichmentCacheKey_inj hother hid hkey, hrow]
      refine Calls.ensures_call hgood fun (answer : JsonObject) (hanswer : answer = record) => ?_
      rw [hanswer]
      refine (ih hrest hset.correct).mono ?_
      rintro result ⟨rows', rfl, hcompletes, hfound⟩
      refine ⟨rows', rfl, hset.trans hcompletes, ?_⟩
      intro other hother
      rcases List.mem_cons.mp hother with hsame | hother
      · rw [hsame]
        exact hcompletes.keeps _ (by rw [Dict.get?_set_self, hrow])
      · exact hfound other hother

theorem mem_requestedSecurityIds {id : String} :
    id ∈ requestedSecurityIds ids ↔ id ∈ ids ∧ id ≠ "" := by
  unfold requestedSecurityIds
  rw [List.mem_insertionSort, Dict.mem_firstOccurrences, List.mem_filter, decide_eq_true_eq]

/-- The rows of all identifiers are there, from the cache or from the source. -/
theorem ensures_fetchInstrumentEnrichmentBulk (henriches : EnrichesPointwise texts env source row)
    (hids : ∀ id ∈ ids, Tidy id) :
    Calls.Ensures (cacheRules env source row)
      (fun result => ∃ rows, result = .ok rows ∧ ∀ id ∈ ids, Dict.get? rows id = row id)
      (fetchInstrumentEnrichmentBulk texts env portfolioId asOf ids) := by
  have hrequested : ∀ id ∈ requestedSecurityIds ids, Tidy id := fun id hid =>
    hids id (mem_requestedSecurityIds.mp hid).1
  have hmem : ∀ id ∈ ids, id ∈ requestedSecurityIds ids := fun id hid =>
    mem_requestedSecurityIds.mpr ⟨hid, (hids id hid).2⟩
  have hempty : CorrectRows row [] := fun id record h => by cases h
  unfold fetchInstrumentEnrichmentBulk fetchInstrumentEnrichmentBulkWithDiagnostics
  refine Calls.ensures_bind (Calls.ensures_bind ?_)
  refine (ensures_cachedRecords hrequested [] hempty).mono ?_
  rintro result ⟨rows, missing, rfl, hcompletes, -, honly, hfound⟩
  change Calls.Ensures _ _ (ite _ _ _)
  split_ifs with hnone hmissing
  · refine ⟨rows, rfl, fun id hid => ?_⟩
    have habsurd := hmem id hid
    rw [hnone] at habsurd
    cases habsurd
  · refine ⟨rows, rfl, fun id hid => ?_⟩
    rcases hfound id (hmem id hid) with hmiss | hrow
    · rw [show missing = [] from hmissing] at hmiss
      cases hmiss
    · exact hrow
  · obtain ⟨payload, hpayload, hrecords⟩ := henriches.records missing hmissing
    apply Calls.ensures_bind
    refine Calls.ensures_call trivial fun (answer : Option JsonObject) hanswer => ?_
    have hanswer : answer = some payload := hanswer.trans hpayload
    rw [hanswer]
    change Calls.Ensures _ _ (withFetchedInstrumentEnrichment texts env portfolioId asOf rows
      payload)
    unfold withFetchedInstrumentEnrichment
    rw [hrecords]
    have hmissingTidy : ∀ id ∈ missing, Tidy id := fun id hid => hrequested id (honly hid)
    refine (ensures_fetchedRecords henriches hmissingTidy hcompletes.correct 0).mono ?_
    rintro result ⟨rows', rfl, hcompletes', hfetched⟩
    refine ⟨rows', rfl, fun id hid => ?_⟩
    rcases hfound id (hmem id hid) with hmiss | hrow
    · exact hfetched id hmiss
    · exact hcompletes'.keeps id hrow

end Enrichment

/-! ## Steady hydrations -/

/-- The texts that are looked up are trimmed, and none is blank. -/
structure TidyInput (input : HydrationInput) : Prop where
  asOf : Tidy input.asOf
  baseCurrency : Tidy input.simulateRequest.portfolioSnapshot.baseCurrency
  trades : ∀ trade ∈ input.simulateRequest.proposedTrades, Tidy trade.instrumentId

/-- The base currency of a request that is being hydrated. -/
def TidyBase (request : ProposalSimulateRequest) : Prop :=
  Tidy request.portfolioSnapshot.baseCurrency

section Hydrations

variable {texts : ClassificationTexts} {env : SourceEnvironment}
  {source : SourceRequest → Option JsonObject} {row : String → Option JsonObject}
  {portfolioId asOf instrumentId currency : String} {context context' : HydrationContext}
  {before : ProposalSimulateRequest} {instrumentRow latestPriceRow : JsonObject}

theorem steady_translated {A : Type} (result : Except TranslationError A) :
    Calls.Steady (cacheRules env source row) (uncached source) (translated result) :=
  Calls.steady_ofExcept _

theorem steady_appendFxRateIfMissing (hcurrency : Tidy currency)
    (hbase : Tidy before.portfolioSnapshot.baseCurrency) :
    Calls.Steady (cacheRules env source row) (uncached source)
      (appendFxRateIfMissing texts env portfolioId asOf before currency) := by
  unfold appendFxRateIfMissing
  split_ifs
  · exact Calls.steady_pure before
  · refine (steady_fetchJsonWithCache (.fx portfolioId asOf hcurrency hbase)).bind ?_
    intro payload _
    exact (steady_translated _).bind fun rate _ => Calls.steady_pure _

theorem steady_appendTradeInstrument (hbase : Tidy before.portfolioSnapshot.baseCurrency) :
    Calls.Steady (cacheRules env source row) (uncached source)
      (appendTradeInstrument texts env portfolioId asOf context before instrumentId instrumentRow
        latestPriceRow) := by
  unfold appendTradeInstrument
  by_cases hcurrency : tradeInstrumentCurrency texts instrumentRow latestPriceRow = ""
  · rw [if_pos hcurrency]
    exact Calls.steady_pure before
  · rw [if_neg hcurrency]
    refine (steady_translated _).bind fun priced hpriced => ?_
    refine (steady_translated _).bind fun shelved hshelved => ?_
    obtain ⟨price, rfl, -⟩ := appendPriceIfMissing_eq_ok (mapError_eq_ok.mp hpriced)
    obtain ⟨entry, rfl, -⟩ := appendShelfEntryIfMissing_eq_ok (mapError_eq_ok.mp hshelved)
    have htidy : Tidy (tradeInstrumentCurrency texts instrumentRow latestPriceRow) := by
      unfold tradeInstrumentCurrency at hcurrency ⊢
      exact tidy_normalizedText hcurrency
    exact steady_appendFxRateIfMissing htidy hbase

theorem steady_enrichMissingTradeInstrument (hid : Tidy instrumentId)
    (hbase : Tidy before.portfolioSnapshot.baseCurrency) :
    Calls.Steady (cacheRules env source row) (uncached source)
      (enrichMissingTradeInstrument texts env portfolioId asOf context before instrumentId) := by
  unfold enrichMissingTradeInstrument fetchTradeInstrumentRow fetchTradePriceRow
  refine Calls.Steady.bind ((steady_fetchJsonWithCache (.instrument portfolioId asOf hid)).bind
    fun payload _ => Calls.steady_pure _) fun instrumentRow _ => ?_
  cases instrumentRow with
  | none => exact Calls.steady_pure before
  | some instrumentRow =>
    refine Calls.Steady.bind ((steady_fetchJsonWithCache (.price portfolioId asOf hid)).bind
      fun payload _ => Calls.steady_pure _) fun latestPriceRow _ => ?_
    cases latestPriceRow with
    | none => exact Calls.steady_pure before
    | some latestPriceRow =>
      dsimp only
      exact steady_appendTradeInstrument hbase

theorem steady_fetchOptionalClassificationTaxonomy (hasOf : Tidy asOf) :
    Calls.Steady (cacheRules env source row) (uncached source)
      (fetchOptionalClassificationTaxonomy texts env asOf) := by
  unfold fetchOptionalClassificationTaxonomy fetchClassificationTaxonomy
  refine Calls.Steady.orElse ?_ _
  exact Calls.Steady.bind ((steady_fetchJsonWithCache (.taxonomy hasOf)).bind
    fun payload _ => Calls.steady_pure _) fun taxonomy _ => Calls.steady_pure _

/-- Only the record of the instrument is read from a context. -/
theorem enrichMissingTradeInstrument_congr
    (hrow : Dict.get? context.enrichmentByInstrumentId instrumentId =
      Dict.get? context'.enrichmentByInstrumentId instrumentId)
    (htaxonomy : context.classificationTaxonomy = context'.classificationTaxonomy) :
    enrichMissingTradeInstrument texts env portfolioId asOf context before instrumentId =
      enrichMissingTradeInstrument texts env portfolioId asOf context' before instrumentId := by
  unfold enrichMissingTradeInstrument appendTradeInstrument
  rw [hrow, htaxonomy]

/-- The contexts that instruments are looked up in. -/
def IsContext (texts : ClassificationTexts) (env : SourceEnvironment)
    (source : SourceRequest → Option JsonObject) (row : String → Option JsonObject) (asOf : String)
    (ids : List String) (context : HydrationContext) : Prop :=
  (∀ id ∈ ids, Dict.get? context.enrichmentByInstrumentId id = row id) ∧
    (fetchOptionalClassificationTaxonomy texts env asOf).eval (uncached source) =
      .ok context.classificationTaxonomy

theorem ensures_context (henriches : EnrichesPointwise texts.toPayloadTexts env source row)
    {ids : List String} (hids : ∀ id ∈ ids, Tidy id) (hasOf : Tidy asOf) :
    Calls.Ensures (cacheRules env source row)
      (fun result => ∃ context, result = .ok context ∧
        IsContext texts env source row asOf ids context)
      (buildTradeDraftHydrationContext texts env portfolioId asOf ids) := by
  unfold buildTradeDraftHydrationContext
  apply Calls.ensures_bind
  refine (ensures_fetchInstrumentEnrichmentBulk henriches hids).mono ?_
  rintro result ⟨rows, rfl, hrows⟩
  change Calls.Ensures _ _ (fetchOptionalClassificationTaxonomy texts env asOf >>= _)
  apply Calls.ensures_bind
  refine (steady_fetchOptionalClassificationTaxonomy hasOf).ensures.mono ?_
  rintro result rfl
  unfold IsContext fetchOptionalClassificationTaxonomy
  rw [Calls.eval_orElse]
  exact ⟨_, rfl, hrows, rfl⟩

/-- A hydration has one result, whatever the caches hold. -/
theorem steady_hydration (henriches : EnrichesPointwise texts.toPayloadTexts env source row)
    {input : HydrationInput} (htidy : TidyInput input) :
    Calls.Steady (cacheRules env source row) (uncached source)
      (enrichStatefulSimulateRequestForTradeDrafts texts env input) := by
  unfold enrichStatefulSimulateRequestForTradeDrafts
  by_cases hnone : missingTradeInstrumentIds input.simulateRequest = []
  · rw [if_pos hnone]
    exact Calls.steady_pure _
  rw [if_neg hnone]
  have hids : ∀ id ∈ missingTradeInstrumentIds input.simulateRequest, Tidy id := by
    intro id hid
    obtain ⟨trade, htrade, rfl⟩ := List.mem_map.mp (mem_missingTradeInstrumentIds.mp hid).1
    exact htidy.trades trade htrade
  refine Calls.steady_bind_of_same (ensures_context henriches hids htidy.asOf)
    (fun call _ => uncached_allowed call) ?_ ?_
  · rintro context context' ⟨hrows, htaxonomy⟩ ⟨hrows', htaxonomy'⟩
    refine Calls.foldM_congr (fun before id hid => ?_) _
    refine enrichMissingTradeInstrument_congr ((hrows id hid).trans (hrows' id hid).symm) ?_
    exact Except.ok.inj (htaxonomy.symm.trans htaxonomy')
  · intro context _
    have hsteps : ∀ request, ∀ id ∈ missingTradeInstrumentIds input.simulateRequest,
        TidyBase request → Calls.Steady (cacheRules env source row) (uncached source)
          (enrichMissingTradeInstrument texts env input.portfolioId input.asOf context request
            id) := by
      intro request id hid hbase
      exact steady_enrichMissingTradeInstrument (hids id hid) hbase
    have hkeeps : ∀ request, ∀ id ∈ missingTradeInstrumentIds input.simulateRequest, ∀ next,
        TidyBase request → (enrichMissingTradeInstrument texts env input.portfolioId input.asOf
          context request id).eval (uncached source) = .ok next → TidyBase next := by
      intro request id _ next hbase hnext
      obtain ⟨additions, rfl, -⟩ := fillsGaps_step hnext
      exact hbase
    exact Calls.Steady.foldM hsteps hkeeps htidy.baseCurrency

end Hydrations

/-- Hydrations that take turns with the caches come to what they come to without any, and each of
them can be brought to its end at any time. -/
theorem hydrations_share_caches (texts : ClassificationTexts) (env : SourceEnvironment)
    (source : SourceRequest → Option JsonObject) (row : String → Option JsonObject)
    (henriches : EnrichesPointwise texts.toPayloadTexts env source row) (runtime : CacheRuntime)
    (inputs : ℕ → HydrationInput) (htidy : ∀ i, TidyInput (inputs i)) (schedule : List ℕ)
    (i : ℕ) :
    let start : Calls.Pool SourceCaches SourceCall.Answer SourceReadError ProposalSimulateRequest :=
      ⟨{}, fun i => enrichStatefulSimulateRequestForTradeDrafts texts env (inputs i)⟩
    let plain := (enrichStatefulSimulateRequestForTradeDrafts texts env (inputs i)).eval
      (uncached source)
    let pool := start.turns (serveCall runtime source) schedule
    (∀ result, pool.programs i = .done result → result = plain) ∧
      ∃ n, (pool.turns (serveCall runtime source) (List.replicate n i)).programs i =
        .done plain := by
  intro start plain pool
  have hsound : SoundCaches env source row start.state := by
    intro name item hitem
    cases hitem
  have hsteady : ∀ j, Calls.Ensures (cacheRules env source row)
      (· = (start.programs j).eval (uncached source)) (start.programs j) :=
    fun j => (steady_hydration henriches (htidy j)).ensures
  obtain ⟨hstate, hprograms⟩ := Calls.Pool.turns_ensures (serveCall_serves runtime) hsound hsteady
    schedule
  constructor
  · intro result hdone
    have hensures := hprograms i
    rw [hdone] at hensures
    exact hensures
  · obtain ⟨n, result, hdone⟩ := Calls.Pool.exists_turns_done (serveCall runtime source) pool i
    obtain ⟨-, hlater⟩ := Calls.Pool.turns_ensures (serveCall_serves runtime) hstate hprograms
      (List.replicate n i)
    have hensures := hlater i
    rw [hdone] at hensures
    exact ⟨n, hdone.trans (congrArg _ hensures)⟩

namespace HydrationSample

def runtime : CacheRuntime where
  now tick := tick
  ttlSeconds _ := 15
  maxSize _ := 128

theorem tidyInput : TidyInput input where
  asOf := by decide +kernel
  baseCurrency := by decide +kernel
  trades := by decide +kernel

theorem enrichesPointwise : EnrichesPointwise texts.toPayloadTexts env source row where
  records ids _ := by
    refine ⟨[("records", .arr ((ids.map Json.str).filterMap record))], ?_, ?_⟩
    · simp [source, SourceEnvironment.instrumentEnrichmentRequest,
        SourceEnvironment.instrumentRequest, SourceEnvironment.priceRequest,
        SourceEnvironment.fxRequest, enrichment, Json.ofTexts, JsonObject.get]
    · rw [List.filterMap_map, List.map_filterMap]
      rfl
  named id found hid hfound := by
    obtain rfl := Option.some.inj hfound
    have htruthy : (Json.str id).truthy = true := by simp [Json.truthy, hid.2]
    change Text.strip (if (Json.str id).truthy then id else "") = id
    rw [if_pos htruthy, hid.1]

end HydrationSample

open HydrationSample in
theorem hydrations_share_caches_two :
    let start : Calls.Pool SourceCaches SourceCall.Answer SourceReadError ProposalSimulateRequest :=
      ⟨{}, fun _ => enrichStatefulSimulateRequestForTradeDrafts texts env input⟩
    let plain := (enrichStatefulSimulateRequestForTradeDrafts texts env input).eval
      (uncached source)
    let pool := start.turns (serveCall runtime source) [0, 1, 1, 0, 0, 1]
    (∀ result, pool.programs 1 = .done result → result = plain) ∧
      ∃ n, (pool.turns (serveCall runtime source) (List.replicate n 1)).programs 1 =
        .done plain :=
  hydrations_share_caches texts env source row enrichesPointwise runtime (fun _ => input)
    (fun _ => tidyInput) [0, 1, 1, 0, 0, 1] 1

end LotusAdvise.LotusCore

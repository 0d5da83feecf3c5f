import LotusAdvise.LotusCore.PayloadTranslation

/-! # Source completeness

Before a payload is translated, a report counts for each collection the rows that were received,
accepted and rejected, and the references that occur more than once. A rejection in a required
collection blocks the translation. The rows are validated in walks of their own.
-/

namespace LotusAdvise.LotusCore

inductive SourceCompletenessStatus where
  | complete
  | degraded
  | incomplete
deriving DecidableEq

structure SourceCollectionCompleteness where
  sourceCollection : String
  required : Bool
  receivedCount : ℕ
  acceptedCount : ℕ
  rejectedCount : ℕ
  duplicateCount : ℕ
  rejectionReasons : Dict String ℕ
  affectedRefs : List String
  status : SourceCompletenessStatus

structure SourceCompletenessReport where
  portfolioId : String
  asOf : String
  status : SourceCompletenessStatus
  collections : List SourceCollectionCompleteness

def SourceCompletenessReport.HasRequiredRejections (report : SourceCompletenessReport) : Prop :=
  ∃ collection ∈ report.collections, collection.required = true ∧ 0 < collection.rejectedCount

instance (report : SourceCompletenessReport) : Decidable report.HasRequiredRejections :=
  inferInstanceAs (Decidable (∃ collection ∈ report.collections, _))

/-! ## The tracker of a collection -/

def maxAffectedRefs : ℕ := 20

structure CollectionTracker where
  sourceCollection : String
  required : Bool
  receivedCount : ℕ := 0
  acceptedCount : ℕ := 0
  rejectedCount : ℕ := 0
  duplicateCount : ℕ := 0
  rejectionReasons : Dict String ℕ := []
  affectedRefs : List String := []

def rowRef (index : ℕ) : String := "row:" ++ toString index

namespace CollectionTracker

variable (tracker : CollectionTracker)

def addRefs (reason : String) (refs : List String) : CollectionTracker :=
  { tracker with
    affectedRefs := tracker.affectedRefs ++ (refs.map fun ref => ref ++ ":" ++ reason).take
      (maxAffectedRefs - tracker.affectedRefs.length) }

def reject (reason ref : String) : CollectionTracker :=
  addRefs { tracker with
    rejectedCount := tracker.rejectedCount + 1
    rejectionReasons := Dict.set tracker.rejectionReasons reason
      ((Dict.get? tracker.rejectionReasons reason).getD 0 + 1) } reason [ref]

def accept : CollectionTracker := { tracker with acceptedCount := tracker.acceptedCount + 1 }

def receive : CollectionTracker := { tracker with receivedCount := tracker.receivedCount + 1 }

def status : SourceCompletenessStatus :=
  if tracker.required = true ∧ tracker.rejectedCount ≠ 0 then .incomplete
  else if tracker.rejectedCount ≠ 0 ∨ tracker.duplicateCount ≠ 0 then .degraded
  else .complete

def toSummary : SourceCollectionCompleteness where
  sourceCollection := tracker.sourceCollection
  required := tracker.required
  receivedCount := tracker.receivedCount
  acceptedCount := tracker.acceptedCount
  rejectedCount := tracker.rejectedCount
  duplicateCount := tracker.duplicateCount
  rejectionReasons := tracker.rejectionReasons.insertionSort fun a b => a.1 ≤ b.1
  affectedRefs := tracker.affectedRefs
  status := tracker.status

end CollectionTracker

/-- `Counter(values)`. -/
def counter (values : List String) : Dict String ℕ :=
  values.foldl (fun counts value => Dict.set counts value ((Dict.get? counts value).getD 0 + 1)) []

def duplicateCountOf (values : List String) : ℕ :=
  (((counter values).filter fun item => 1 < item.2).map fun item => item.2 - 1).sum

def duplicatesOf (values : List String) : List String :=
  ((counter values).filter fun item => 1 < item.2).map Prod.fst

/-- What a walk over a collection has come to: its tracker and the references it accepted. -/
abbrev Walk := CollectionTracker × List String

/-- The references that were accepted more than once are counted at the end. -/
def countDuplicates (reason : String) (walk : Walk) : CollectionTracker :=
  if duplicateCountOf walk.2 = 0 then walk.1
  else { walk.1 with duplicateCount := duplicateCountOf walk.2 }.addRefs reason
    (duplicatesOf walk.2)

/-- The rows of a payload, or a rejection. -/
def sourceRows (payload : JsonObject) (key : String) (tracker : CollectionTracker) :
    CollectionTracker × List Json :=
  match payload.get key with
  | .arr rows => (tracker, rows)
  | _ => (tracker.reject "COLLECTION_NOT_LIST" key, [])

/-- The same with the rows counted as received. -/
def receivedRows (payload : JsonObject) (key : String) (tracker : CollectionTracker) :
    CollectionTracker × List Json :=
  ({ (sourceRows payload key tracker).1 with
    receivedCount := (sourceRows payload key tracker).2.length },
    (sourceRows payload key tracker).2)

/-! ## Rows -/

def validRequiredDecimal : Option ExtendedDecimal → Bool
  | some (.finite _) => true
  | _ => false

def validNonZeroDecimal : Option ExtendedDecimal → Bool
  | some (.finite x) => x ≠ 0
  | _ => false

def validPositiveDecimal : Option ExtendedDecimal → Bool
  | some (.finite x) => 0 < x
  | _ => false

section Report

variable (texts : PayloadTexts)

def hasValidPositionFxInputs (row valuation : JsonObject) (portfolioBaseCurrency : String) : Bool :=
  if texts.currencyOf row = "" ∨ texts.currencyOf row = portfolioBaseCurrency then true
  else validNonZeroDecimal (texts.decimalOrNone (valuation.get "market_value_local"))

def positionRejectionReason (row : JsonObject) (portfolioBaseCurrency : String) : Option String :=
  if ¬ validRequiredDecimal (texts.decimalOrNone (row.get "quantity")) then some "INVALID_QUANTITY"
  else if texts.currencyOf row = "" then some "MISSING_CURRENCY"
  else match valuationOf? row with
  | none => some "MISSING_VALUATION"
  | some valuation =>
    if ¬ validRequiredDecimal (texts.decimalOrNone (valuation.get "market_value")) then
      some "INVALID_MARKET_VALUE"
    else if ¬ validPositiveDecimal (texts.decimalOrNone (valuation.get "market_price")) then
      some "INVALID_MARKET_PRICE"
    else if ¬ hasValidPositionFxInputs texts row valuation portfolioBaseCurrency then
      some "INVALID_FX_SOURCE_VALUE"
    else none

structure PositionRowCompleteness where
  instrumentId : Option String := none
  rejectionReason : Option String := none
  affectedRef : Option String := none

def positionRowCompleteness (row : JsonObject) (index : ℕ) (portfolioBaseCurrency : String) :
    PositionRowCompleteness :=
  if texts.IsCashAssetClass (row.get "asset_class") then {}
  else if texts.instrumentIdOf row = "" then
    { rejectionReason := some "MISSING_SECURITY_ID", affectedRef := some (rowRef index) }
  else
    { instrumentId := some (texts.instrumentIdOf row)
      rejectionReason := positionRejectionReason texts row portfolioBaseCurrency
      affectedRef := (positionRejectionReason texts row portfolioBaseCurrency).map fun _ =>
        texts.instrumentIdOf row }

/-- A row that is no object is rejected. -/
def requireMappingRow (walk : Walk) (entry : Json × ℕ) (step : JsonObject → Walk) : Walk :=
  match asMapping? entry.1 with
  | none => (walk.1.reject "NON_OBJECT_ROW" (rowRef entry.2), walk.2)
  | some row => step row

def positionStep (portfolioBaseCurrency : String) (walk : Walk) (entry : Json × ℕ) : Walk :=
  requireMappingRow walk entry fun row =>
    match positionRowCompleteness texts row entry.2 portfolioBaseCurrency with
    | ⟨_, some reason, affectedRef⟩ =>
      (walk.1.reject reason (affectedRef.getD (rowRef entry.2)), walk.2)
    | ⟨instrumentId, none, _⟩ => (walk.1.accept, walk.2 ++ instrumentId.toList)

def positionsCompleteness (positionsPayload : JsonObject) (portfolioBaseCurrency : String) :
    SourceCollectionCompleteness :=
  let received := receivedRows positionsPayload "positions"
    ⟨"POSITIONS", true, 0, 0, 0, 0, [], []⟩
  (countDuplicates "DUPLICATE_INSTRUMENT" (received.2.zipIdx.foldl
    (positionStep texts portfolioBaseCurrency) (received.1, []))).toSummary

def cashStep (walk : Walk) (entry : Json × ℕ) : Walk :=
  requireMappingRow walk entry fun row =>
    if texts.accountCurrencyOf row = "" then
      (walk.1.reject "MISSING_CURRENCY" (rowRef entry.2), walk.2)
    else if ¬ validRequiredDecimal (texts.decimalOrNone (row.get "balance_account_currency")) then
      (walk.1.reject "INVALID_CASH_AMOUNT" (texts.accountCurrencyOf row),
        walk.2 ++ [texts.accountCurrencyOf row])
    else (walk.1.accept, walk.2 ++ [texts.accountCurrencyOf row])

def cashCompleteness (cashPayload : JsonObject) : SourceCollectionCompleteness :=
  let received := receivedRows cashPayload "cash_accounts"
    ⟨"CASH_BALANCES", true, 0, 0, 0, 0, [], []⟩
  (countDuplicates "DUPLICATE_CURRENCY" (received.2.zipIdx.foldl (cashStep texts)
    (received.1, []))).toSummary

/-- The rows that need a price, with the places at which they stand. -/
def priceRows (rows : List Json) : List (JsonObject × ℕ) :=
  rows.zipIdx.filterMap fun entry => (asMapping? entry.1).bind fun row =>
    if texts.IsCashAssetClass (row.get "asset_class") then none else some (row, entry.2)

/-- The instrument of a row, or the place at which it stands. -/
def instrumentRef (row : JsonObject) (index : ℕ) : String :=
  if texts.instrumentIdOf row = "" then rowRef index else texts.instrumentIdOf row

def priceRejection (row : JsonObject) : Option String :=
  match valuationOf? row with
  | none => some "MISSING_PRICE_VALUATION"
  | some valuation =>
    if ¬ validPositiveDecimal (texts.decimalOrNone (valuation.get "market_price")) then
      some "INVALID_MARKET_PRICE"
    else if texts.currencyOf row = "" then some "MISSING_PRICE_CURRENCY"
    else none

def priceStep (tracker : CollectionTracker) (entry : JsonObject × ℕ) : CollectionTracker :=
  match priceRejection texts entry.1 with
  | none => tracker.accept
  | some reason => tracker.reject reason (instrumentRef texts entry.1 entry.2)

def pricesCompleteness (positionsPayload : JsonObject) : SourceCollectionCompleteness :=
  let source := sourceRows positionsPayload "positions" ⟨"PRICES", true, 0, 0, 0, 0, [], []⟩
  ((priceRows texts source.2).foldl (priceStep texts)
    { source.1 with receivedCount := (priceRows texts source.2).length }).toSummary

/-- A row whose two values give a rate, if the first is valid and the second not zero. -/
def recordFx (portfolioBaseCurrency currency ref : String) (numerator denominator : Bool)
    (walk : Walk) : Walk :=
  if ¬ numerator then (walk.1.receive.reject "INVALID_FX_SOURCE_VALUE" ref, walk.2)
  else if ¬ denominator then (walk.1.receive.reject "INVALID_FX_SOURCE_VALUE" ref, walk.2)
  else (walk.1.receive.accept, walk.2 ++ [pairOf currency portfolioBaseCurrency])

/-- A value of the valuation of a row, if it has one. -/
def valuationDecimal (row : JsonObject) (key : String) : Option ExtendedDecimal :=
  (valuationOf? row).bind fun valuation => texts.decimalOrNone (valuation.get key)

def positionFxStep (portfolioBaseCurrency : String) (walk : Walk) (entry : Json × ℕ) : Walk :=
  match asMapping? entry.1 with
  | none => walk
  | some row =>
    if texts.IsCashAssetClass (row.get "asset_class") then walk
    else if texts.currencyOf row = "" ∨ texts.currencyOf row = portfolioBaseCurrency then walk
    else recordFx portfolioBaseCurrency (texts.currencyOf row) (instrumentRef texts row entry.2)
      (validRequiredDecimal (valuationDecimal texts row "market_value"))
      (validNonZeroDecimal (valuationDecimal texts row "market_value_local")) walk

def cashFxStep (portfolioBaseCurrency : String) (walk : Walk) (entry : Json × ℕ) : Walk :=
  match asMapping? entry.1 with
  | none => walk
  | some row =>
    if texts.accountCurrencyOf row = "" ∨ texts.accountCurrencyOf row = portfolioBaseCurrency then
      walk
    else recordFx portfolioBaseCurrency (texts.accountCurrencyOf row) (texts.accountCurrencyOf row)
      (validRequiredDecimal (texts.decimalOrNone (row.get "balance_portfolio_currency")))
      (validNonZeroDecimal (texts.decimalOrNone (row.get "balance_account_currency"))) walk

/-- A walk over the rows of a payload that goes on from another. -/
def walkRows (payload : JsonObject) (key : String) (step : Walk → Json × ℕ → Walk) (walk : Walk) :
    Walk :=
  (sourceRows payload key walk.1).2.zipIdx.foldl step ((sourceRows payload key walk.1).1, walk.2)

def fxCompleteness (positionsPayload cashPayload : JsonObject) (portfolioBaseCurrency : String) :
    SourceCollectionCompleteness :=
  (countDuplicates "DUPLICATE_FX_PAIR"
    (walkRows cashPayload "cash_accounts" (cashFxStep texts portfolioBaseCurrency)
      (walkRows positionsPayload "positions" (positionFxStep texts portfolioBaseCurrency)
        (⟨"FX_RATES", true, 0, 0, 0, 0, [], []⟩, [])))).toSummary

/-! ## Collections that are not required -/

/-- `sorted(_held_security_ids(positions_payload))`. -/
def heldSecurityIds (positionsPayload : JsonObject) : List String :=
  (Dict.firstOccurrences (((texts.nonCashRows positionsPayload).map texts.instrumentIdOf).filter
    (· ≠ ""))).insertionSort (· ≤ ·)

def malformedEnrichment (malformedRecordCount : ℕ) (tracker : CollectionTracker) :
    CollectionTracker :=
  if malformedRecordCount = 0 then tracker
  else { tracker with
    rejectedCount := tracker.rejectedCount + malformedRecordCount
    rejectionReasons := Dict.set tracker.rejectionReasons "MALFORMED_ENRICHMENT"
      malformedRecordCount }.addRefs "MALFORMED_ENRICHMENT"
        ((List.range malformedRecordCount).map fun index => "record:" ++ toString index)

def instrumentEnrichmentCompleteness (requestedInstrumentIds : List String)
    (enrichmentByInstrumentId : Dict String JsonObject) (malformedRecordCount : ℕ) :
    SourceCollectionCompleteness :=
  (requestedInstrumentIds.foldl (fun tracker instrumentId =>
      if instrumentId ∈ enrichmentByInstrumentId.map Prod.fst then tracker.accept
      else tracker.reject "MISSING_ENRICHMENT" instrumentId)
    (malformedEnrichment malformedRecordCount
      ⟨"INSTRUMENT_ENRICHMENT", false, requestedInstrumentIds.length, 0, 0, 0, [], []⟩)).toSummary

structure ClassificationTaxonomy where
  labelsByDimension : Dict String (Dict String String)

def classificationTaxonomyCompleteness (taxonomy : Option ClassificationTaxonomy)
    (unavailable : Bool) : SourceCollectionCompleteness :=
  let tracker : CollectionTracker := ⟨"CLASSIFICATION_TAXONOMY", false, 1, 0, 0, 0, [], []⟩
  (if unavailable then tracker.reject "CLASSIFICATION_TAXONOMY_UNAVAILABLE" "taxonomy"
    else if (taxonomy.map ClassificationTaxonomy.labelsByDimension).getD [] = [] then
      tracker.reject "EMPTY_CLASSIFICATION_TAXONOMY" "taxonomy"
    else tracker.accept).toSummary

def overallStatus (collections : List SourceCollectionCompleteness) : SourceCompletenessStatus :=
  if ∃ collection ∈ collections, collection.required = true ∧ collection.rejectedCount ≠ 0 then
    .incomplete
  else if ∃ collection ∈ collections,
    collection.rejectedCount ≠ 0 ∨ collection.duplicateCount ≠ 0 then .degraded
  else .complete

/-- What the report is built from beside the payloads. -/
structure CompletenessContext where
  portfolioId : String
  resolvedAsOf : String
  enrichmentByInstrumentId : Dict String JsonObject
  classificationTaxonomy : Option ClassificationTaxonomy
  classificationTaxonomyUnavailable : Bool
  enrichmentMalformedRecordCount : ℕ

def sourceCollections (context : CompletenessContext) (portfolioBaseCurrency : String)
    (positionsPayload cashPayload : JsonObject) : List SourceCollectionCompleteness :=
  [positionsCompleteness texts positionsPayload portfolioBaseCurrency,
    cashCompleteness texts cashPayload,
    pricesCompleteness texts positionsPayload,
    fxCompleteness texts positionsPayload cashPayload portfolioBaseCurrency,
    instrumentEnrichmentCompleteness (heldSecurityIds texts positionsPayload)
      context.enrichmentByInstrumentId context.enrichmentMalformedRecordCount,
    classificationTaxonomyCompleteness context.classificationTaxonomy
      context.classificationTaxonomyUnavailable]

def buildLotusCoreSourceCompleteness (context : CompletenessContext)
    (portfolioBaseCurrency : String) (positionsPayload cashPayload : JsonObject) :
    SourceCompletenessReport where
  portfolioId := context.portfolioId
  asOf := context.resolvedAsOf
  status := overallStatus (sourceCollections texts context portfolioBaseCurrency positionsPayload
    cashPayload)
  collections := sourceCollections texts context portfolioBaseCurrency positionsPayload cashPayload

end Report

/-! ## What is not rejected -/

namespace CollectionTracker

variable {tracker : CollectionTracker} {reason ref : String} {refs : List String}

@[simp] theorem rejectedCount_addRefs :
    (tracker.addRefs reason refs).rejectedCount = tracker.rejectedCount := rfl

@[simp] theorem rejectedCount_reject :
    (tracker.reject reason ref).rejectedCount = tracker.rejectedCount + 1 := rfl

@[simp] theorem rejectedCount_accept : tracker.accept.rejectedCount = tracker.rejectedCount := rfl

@[simp] theorem rejectedCount_receive : tracker.receive.rejectedCount = tracker.rejectedCount := rfl

end CollectionTracker

@[simp] theorem rejectedCount_countDuplicates {reason : String} {walk : Walk} :
    (countDuplicates reason walk).rejectedCount = walk.1.rejectedCount := by
  unfold countDuplicates
  split_ifs <;> rfl

/-- An item is accepted, or counted as rejected. -/
def AcceptsOrCounts {σ : Type} (count : σ → ℕ) (before after : σ) (accepted : Prop) : Prop :=
  (accepted ∧ count after = count before) ∨ count after = count before + 1

/-- A walk that has rejected nothing started from nothing rejected and accepted every item. -/
theorem forall_accepted_of_foldl {σ α : Type} {count : σ → ℕ} {step : σ → α → σ}
    {Accepts : α → Prop} (hstep : ∀ s a, AcceptsOrCounts count s (step s a) (Accepts a))
    {items : List α} {s : σ} (h : count (items.foldl step s) = 0) :
    count s = 0 ∧ ∀ a ∈ items, Accepts a := by
  induction items generalizing s with
  | nil => exact ⟨h, fun _ ha => absurd ha List.not_mem_nil⟩
  | cons a items ih =>
    obtain ⟨hnext, hitems⟩ := ih h
    rcases hstep s a with ⟨haccepts, hsame⟩ | hmore
    · exact ⟨hsame ▸ hnext, List.forall_mem_cons.mpr ⟨haccepts, hitems⟩⟩
    · rw [hmore] at hnext
      cases hnext

/-- The rows of a collection that was not rejected as a whole. -/
theorem sourceRows_of_not_rejected {payload : JsonObject} {key : String}
    {tracker : CollectionTracker}
    (h : (sourceRows payload key tracker).1.rejectedCount = 0) :
    payload.get key = .arr (sourceRows payload key tracker).2 ∧ tracker.rejectedCount = 0 := by
  unfold sourceRows at h ⊢
  split at h
  · next rows hrows => exact ⟨hrows, h⟩
  · cases h

section Accepted

variable {texts : PayloadTexts} {portfolioBaseCurrency : String}

theorem asMapping?_eq_some {value : Json} {row : JsonObject} :
    asMapping? value = some row ↔ value = .obj row := by
  cases value <;> simp [asMapping?]

theorem validRequiredDecimal_iff {value : Option ExtendedDecimal} :
    validRequiredDecimal value = true ↔ ∃ x, value = some (.finite x) := by
  unfold validRequiredDecimal
  split <;> simp_all

theorem validNonZeroDecimal_iff {value : Option ExtendedDecimal} :
    validNonZeroDecimal value = true ↔ ∃ x, value = some (.finite x) ∧ x ≠ 0 := by
  unfold validNonZeroDecimal
  split <;> simp_all

theorem validPositiveDecimal_iff {value : Option ExtendedDecimal} :
    validPositiveDecimal value = true ↔ ∃ x, value = some (.finite x) ∧ 0 < x := by
  unfold validPositiveDecimal
  split <;> simp_all

/-- The rows of a list whose items are all accepted are all objects. -/
theorem exists_rows {Accepts : JsonObject → Prop} {items : List Json}
    (h : ∀ item ∈ items, ∃ row, item = .obj row ∧ Accepts row) :
    ∃ rows : List JsonObject, items = rows.map Json.obj ∧ ∀ row ∈ rows, Accepts row := by
  induction items with
  | nil => exact ⟨[], rfl, fun _ h => absurd h List.not_mem_nil⟩
  | cons item items ih =>
    obtain ⟨⟨row, rfl, hrow⟩, hitems⟩ := List.forall_mem_cons.mp h
    obtain ⟨rows, rfl, hrows⟩ := ih hitems
    exact ⟨row :: rows, rfl, List.forall_mem_cons.mpr ⟨hrow, hrows⟩⟩

theorem mem_mappingRows {payload : JsonObject} {key : String} {items : List Json} {row : JsonObject}
    (h : payload.get key = .arr items) : row ∈ mappingRows payload key ↔ .obj row ∈ items := by
  have hrows : mappingRows payload key = items.filterMap asMapping? := by
    unfold mappingRows
    rw [h]
  rw [hrows, List.mem_filterMap]
  constructor
  · rintro ⟨item, hitem, hrow⟩
    rwa [← asMapping?_eq_some.mp hrow]
  · exact fun hitem => ⟨_, hitem, rfl⟩

theorem mappingRows_of_rows {payload : JsonObject} {key : String} {rows : List JsonObject}
    (h : payload.get key = .arr (rows.map Json.obj)) : mappingRows payload key = rows := by
  have hrows : mappingRows payload key = (rows.map Json.obj).filterMap asMapping? := by
    unfold mappingRows
    rw [h]
  rw [hrows, List.filterMap_map]
  exact List.filterMap_some

/-- A walk over objects that has rejected nothing has accepted all of them. -/
theorem rows_of_walk {Accepts : JsonObject → Prop} {payload : JsonObject} {key : String}
    {tracker : CollectionTracker} {step : Walk → Json × ℕ → Walk}
    (hstep : ∀ walk entry, AcceptsOrCounts (fun walk : Walk => walk.1.rejectedCount) walk
      (step walk entry) (∃ row, entry.1 = .obj row ∧ Accepts row))
    (h : ((receivedRows payload key tracker).2.zipIdx.foldl step
      ((receivedRows payload key tracker).1, [])).1.rejectedCount = 0) :
    payload.get key = .arr ((mappingRows payload key).map Json.obj) ∧
      ∀ row ∈ mappingRows payload key, Accepts row := by
  obtain ⟨hstart, hentries⟩ := forall_accepted_of_foldl hstep h
  obtain ⟨hrows, -⟩ := sourceRows_of_not_rejected hstart
  have hitems : ∀ item ∈ (sourceRows payload key tracker).2,
      ∃ row, item = .obj row ∧ Accepts row := by
    intro item hitem
    rw [← List.zipIdx_map_fst 0 (sourceRows payload key tracker).2] at hitem
    obtain ⟨entry, hentry, rfl⟩ := List.mem_map.mp hitem
    exact hentries entry hentry
  obtain ⟨rows, hitems, haccepts⟩ := exists_rows hitems
  rw [hitems] at hrows
  rw [mappingRows_of_rows hrows]
  exact ⟨hrows, haccepts⟩

/-- A row of a position whose values are all valid. -/
structure ValidPosition (texts : PayloadTexts) (portfolioBaseCurrency : String)
    (row valuation : JsonObject) (quantity marketValue price : ℚ) : Prop where
  instrumentId_ne : texts.instrumentIdOf row ≠ ""
  currency_ne : texts.currencyOf row ≠ ""
  valuation_eq : valuationOf? row = some valuation
  quantity_eq : texts.decimalOrNone (row.get "quantity") = some (.finite quantity)
  marketValue_eq : texts.decimalOrNone (valuation.get "market_value") = some (.finite marketValue)
  price_eq : texts.decimalOrNone (valuation.get "market_price") = some (.finite price)
  price_pos : 0 < price
  local_eq : texts.currencyOf row ≠ portfolioBaseCurrency →
    ∃ x, texts.decimalOrNone (valuation.get "market_value_local") = some (.finite x) ∧ x ≠ 0

theorem validPosition_of_not_rejected {row : JsonObject} (hid : texts.instrumentIdOf row ≠ "")
    (h : positionRejectionReason texts row portfolioBaseCurrency = none) :
    ∃ valuation quantity marketValue price,
      ValidPosition texts portfolioBaseCurrency row valuation quantity marketValue price := by
  unfold positionRejectionReason at h
  split_ifs at h with hquantity hcurrency
  rcases hvaluation : valuationOf? row with _ | valuation
  · rw [hvaluation] at h
    cases h
  rw [hvaluation] at h
  dsimp only at h
  split_ifs at h with hvalue hprice hfx
  obtain ⟨quantity, hquantity⟩ := validRequiredDecimal_iff.mp hquantity
  obtain ⟨marketValue, hvalue⟩ := validRequiredDecimal_iff.mp hvalue
  obtain ⟨price, hprice, hpos⟩ := validPositiveDecimal_iff.mp hprice
  refine ⟨valuation, quantity, marketValue, price, hid, hcurrency, hvaluation, hquantity, hvalue,
    hprice, hpos, fun hother => validNonZeroDecimal_iff.mp ?_⟩
  have hnot : ¬ (texts.currencyOf row = "" ∨ texts.currencyOf row = portfolioBaseCurrency) :=
    fun h => h.elim hcurrency hother
  rwa [hasValidPositionFxInputs, if_neg hnot] at hfx

/-- What a row of a position is accepted for. -/
def AcceptsPosition (texts : PayloadTexts) (portfolioBaseCurrency : String) (row : JsonObject) :
    Prop :=
  texts.IsCashAssetClass (row.get "asset_class") ∨
    texts.instrumentIdOf row ≠ "" ∧ positionRejectionReason texts row portfolioBaseCurrency = none

theorem positionStep_accepts_or_counts (walk : Walk) (entry : Json × ℕ) :
    AcceptsOrCounts (fun walk : Walk => walk.1.rejectedCount) walk
      (positionStep texts portfolioBaseCurrency walk entry)
      (∃ row, entry.1 = .obj row ∧ AcceptsPosition texts portfolioBaseCurrency row) := by
  unfold positionStep requireMappingRow
  rcases hrow : asMapping? entry.1 with _ | row
  · exact .inr rfl
  have hobj := asMapping?_eq_some.mp hrow
  dsimp only
  unfold positionRowCompleteness
  by_cases hcash : texts.IsCashAssetClass (row.get "asset_class")
  · rw [if_pos hcash]
    exact .inl ⟨⟨row, hobj, .inl hcash⟩, rfl⟩
  rw [if_neg hcash]
  by_cases hid : texts.instrumentIdOf row = ""
  · rw [if_pos hid]
    exact .inr rfl
  rw [if_neg hid]
  rcases hreason : positionRejectionReason texts row portfolioBaseCurrency with _ | reason
  · exact .inl ⟨⟨row, hobj, .inr ⟨hid, hreason⟩⟩, rfl⟩
  · exact .inr rfl

theorem accepted_positions {positionsPayload : JsonObject}
    (h : (positionsCompleteness texts positionsPayload portfolioBaseCurrency).rejectedCount = 0) :
    positionsPayload.get "positions" =
        .arr ((mappingRows positionsPayload "positions").map Json.obj) ∧
      ∀ row ∈ texts.nonCashRows positionsPayload, ∃ valuation quantity marketValue price,
        ValidPosition texts portfolioBaseCurrency row valuation quantity marketValue price := by
  obtain ⟨hobjects, haccepts⟩ := rows_of_walk positionStep_accepts_or_counts
    (rejectedCount_countDuplicates.symm.trans h)
  refine ⟨hobjects, fun row hrow => ?_⟩
  obtain ⟨hmem, hcash⟩ := List.mem_filter.mp hrow
  obtain ⟨hid, hreason⟩ := (haccepts row hmem).resolve_left (of_decide_eq_true hcash)
  exact validPosition_of_not_rejected hid hreason

/-- What a row of a cash account is accepted for. -/
def AcceptsCash (texts : PayloadTexts) (account : JsonObject) : Prop :=
  texts.accountCurrencyOf account ≠ "" ∧
    ∃ amount, texts.decimalOrNone (account.get "balance_account_currency") = some (.finite amount)

theorem cashStep_accepts_or_counts (walk : Walk) (entry : Json × ℕ) :
    AcceptsOrCounts (fun walk : Walk => walk.1.rejectedCount) walk (cashStep texts walk entry)
      (∃ row, entry.1 = .obj row ∧ AcceptsCash texts row) := by
  unfold cashStep requireMappingRow
  rcases hrow : asMapping? entry.1 with _ | row
  · exact .inr rfl
  have hobj := asMapping?_eq_some.mp hrow
  dsimp only
  split_ifs with hcurrency hamount
  · exact .inr rfl
  · exact .inl ⟨⟨row, hobj, hcurrency, validRequiredDecimal_iff.mp hamount⟩, rfl⟩
  · exact .inr rfl

theorem accepted_cash {cashPayload : JsonObject}
    (h : (cashCompleteness texts cashPayload).rejectedCount = 0) :
    cashPayload.get "cash_accounts" =
        .arr ((mappingRows cashPayload "cash_accounts").map Json.obj) ∧
      ∀ account ∈ mappingRows cashPayload "cash_accounts", AcceptsCash texts account :=
  rows_of_walk cashStep_accepts_or_counts (rejectedCount_countDuplicates.symm.trans h)

/-- The two values of an account in another currency. -/
def AcceptsCashFx (texts : PayloadTexts) (portfolioBaseCurrency : String) (account : JsonObject) :
    Prop :=
  texts.accountCurrencyOf account = "" ∨ texts.accountCurrencyOf account = portfolioBaseCurrency ∨
    (∃ x, texts.decimalOrNone (account.get "balance_portfolio_currency") = some (.finite x)) ∧
    ∃ y, texts.decimalOrNone (account.get "balance_account_currency") = some (.finite y) ∧ y ≠ 0

theorem cashFxStep_accepts_or_counts (walk : Walk) (entry : Json × ℕ) :
    AcceptsOrCounts (fun walk : Walk => walk.1.rejectedCount) walk
      (cashFxStep texts portfolioBaseCurrency walk entry)
      (∀ row, entry.1 = .obj row → AcceptsCashFx texts portfolioBaseCurrency row) := by
  unfold cashFxStep
  rcases hrow : asMapping? entry.1 with _ | row
  · refine .inl ⟨fun row hobj => ?_, rfl⟩
    rw [asMapping?_eq_some.mpr hobj] at hrow
    cases hrow
  have honly : ∀ row', entry.1 = .obj row' → row' = row := by
    intro row' hobj
    rw [asMapping?_eq_some.mpr hobj] at hrow
    exact Option.some.inj hrow
  dsimp only
  split_ifs with hsame
  · refine .inl ⟨fun row' hobj => ?_, rfl⟩
    rw [honly row' hobj]
    exact hsame.imp_right .inl
  unfold recordFx
  split_ifs with hnumerator hdenominator
  · refine .inl ⟨fun row' hobj => ?_, rfl⟩
    rw [honly row' hobj]
    exact .inr (.inr ⟨validRequiredDecimal_iff.mp hnumerator,
      validNonZeroDecimal_iff.mp hdenominator⟩)
  · exact .inr rfl
  · exact .inr rfl

theorem accepted_cashFx {positionsPayload cashPayload : JsonObject}
    (h : (fxCompleteness texts positionsPayload cashPayload portfolioBaseCurrency).rejectedCount =
      0) {account : JsonObject} (haccount : account ∈ mappingRows cashPayload "cash_accounts") :
    AcceptsCashFx texts portfolioBaseCurrency account := by
  have hwalk := rejectedCount_countDuplicates.symm.trans h
  obtain ⟨hstart, hentries⟩ := forall_accepted_of_foldl cashFxStep_accepts_or_counts hwalk
  obtain ⟨hrows, -⟩ := sourceRows_of_not_rejected hstart
  have hitem := (mem_mappingRows hrows).mp haccount
  rw [← List.zipIdx_map_fst 0 (sourceRows cashPayload "cash_accounts" _).2] at hitem
  obtain ⟨entry, hentry, hobj⟩ := List.mem_map.mp hitem
  exact hentries entry hentry account hobj

/-! ## What is required -/

theorem required_countDuplicates {reason : String} {walk : Walk} :
    (countDuplicates reason walk).required = walk.1.required := by
  unfold countDuplicates
  split_ifs <;> rfl

theorem required_sourceRows {payload : JsonObject} {key : String} {tracker : CollectionTracker} :
    (sourceRows payload key tracker).1.required = tracker.required := by
  unfold sourceRows
  split <;> rfl

/-- Steps that keep what is required keep it over a walk. -/
theorem required_foldl {step : Walk → Json × ℕ → Walk}
    (hstep : ∀ walk entry, (step walk entry).1.required = walk.1.required)
    (entries : List (Json × ℕ)) (walk : Walk) :
    (entries.foldl step walk).1.required = walk.1.required := by
  induction entries generalizing walk with
  | nil => rfl
  | cons entry entries ih => exact (ih _).trans (hstep walk entry)

theorem required_positionsCompleteness {positionsPayload : JsonObject} :
    (positionsCompleteness texts positionsPayload portfolioBaseCurrency).required = true := by
  refine required_countDuplicates.trans ((required_foldl ?_ _ _).trans required_sourceRows)
  intro walk entry
  unfold positionStep requireMappingRow
  split
  · rfl
  · dsimp only
    split <;> rfl

theorem required_cashCompleteness {cashPayload : JsonObject} :
    (cashCompleteness texts cashPayload).required = true := by
  refine required_countDuplicates.trans ((required_foldl ?_ _ _).trans required_sourceRows)
  intro walk entry
  unfold cashStep requireMappingRow
  split
  · rfl
  · dsimp only
    split_ifs <;> rfl

theorem required_recordFx {currency ref : String} {numerator denominator : Bool} {walk : Walk} :
    (recordFx portfolioBaseCurrency currency ref numerator denominator walk).1.required =
      walk.1.required := by
  unfold recordFx
  split_ifs <;> rfl

theorem required_walkRows {payload : JsonObject} {key : String} {step : Walk → Json × ℕ → Walk}
    (hstep : ∀ walk entry, (step walk entry).1.required = walk.1.required) (walk : Walk) :
    (walkRows payload key step walk).1.required = walk.1.required :=
  (required_foldl hstep _ _).trans required_sourceRows

theorem required_fxCompleteness {positionsPayload cashPayload : JsonObject} :
    (fxCompleteness texts positionsPayload cashPayload portfolioBaseCurrency).required = true := by
  refine required_countDuplicates.trans ((required_walkRows ?_ _).trans (required_walkRows ?_ _))
  · intro walk entry
    unfold cashFxStep
    split
    · rfl
    · split_ifs
      · rfl
      · exact required_recordFx
  · intro walk entry
    unfold positionFxStep
    split
    · rfl
    · split_ifs
      · rfl
      · rfl
      · exact required_recordFx

end Accepted

/-! ## What is counted -/

section Tallies

/-- The collections of a payload that are no list: none or one. -/
def unlisted (payload : JsonObject) (key : String) : ℕ :=
  match payload.get key with
  | .arr _ => 0
  | _ => 1

/-- Of the rows received, and of `more` that were not, each is accepted or rejected once. Every
rejection has its reason, and what is not complete is referred to. -/
structure SourceCollectionCompleteness.Accounts (collection : SourceCollectionCompleteness)
    (more : ℕ) : Prop where
  counted : collection.acceptedCount + collection.rejectedCount = collection.receivedCount + more
  reasons : (collection.rejectionReasons.map Prod.snd).sum = collection.rejectedCount
  distinct : (collection.rejectionReasons.map Prod.fst).Nodup
  few : collection.affectedRefs.length ≤ maxAffectedRefs
  affected : collection.affectedRefs = [] ↔ collection.status = .complete

/-- The same of a tracker on its way. -/
structure CollectionTracker.Tallied (received total : ℕ) (tracker : CollectionTracker) : Prop where
  received : tracker.receivedCount = received
  counted : tracker.acceptedCount + tracker.rejectedCount = total
  reasons : (tracker.rejectionReasons.map Prod.snd).sum = tracker.rejectedCount
  distinct : (tracker.rejectionReasons.map Prod.fst).Nodup
  few : tracker.affectedRefs.length ≤ maxAffectedRefs
  affected : tracker.affectedRefs = [] ↔ tracker.rejectedCount = 0 ∧ tracker.duplicateCount = 0

namespace CollectionTracker

variable {tracker : CollectionTracker} {received total : ℕ} {reason ref : String}
  {refs : List String}

theorem status_eq_complete :
    tracker.status = .complete ↔ tracker.rejectedCount = 0 ∧ tracker.duplicateCount = 0 := by
  unfold status
  split_ifs with hrequired hdegraded
  · exact iff_of_false (by simp) fun hnone => hrequired.2 hnone.1
  · exact iff_of_false (by simp) fun hnone => hdegraded.elim (· hnone.1) (· hnone.2)
  · exact iff_of_true rfl (not_or.mp hdegraded |>.imp not_not.mp not_not.mp)

theorem status_eq_incomplete :
    tracker.status = .incomplete ↔ tracker.required = true ∧ tracker.rejectedCount ≠ 0 := by
  unfold status
  split_ifs with hrequired
  · exact iff_of_true rfl hrequired
  · exact iff_of_false (by simp) hrequired
  · exact iff_of_false (by simp) hrequired

theorem Tallied.accounts {more : ℕ} (h : tracker.Tallied received (received + more)) :
    tracker.toSummary.Accounts more where
  counted := h.counted.trans (by rw [← h.received]; rfl)
  reasons :=
    ((List.perm_insertionSort _ tracker.rejectionReasons).map Prod.snd).sum_eq.trans h.reasons
  distinct :=
    ((List.perm_insertionSort _ tracker.rejectionReasons).map Prod.fst).nodup_iff.mpr h.distinct
  few := h.few
  affected := h.affected.trans status_eq_complete.symm

theorem length_addRefs_le (h : tracker.affectedRefs.length ≤ maxAffectedRefs) :
    (tracker.addRefs reason refs).affectedRefs.length ≤ maxAffectedRefs := by
  rw [addRefs, List.length_append, List.length_take]
  omega

theorem affectedRefs_addRefs_ne_nil (h : refs ≠ []) :
    (tracker.addRefs reason refs).affectedRefs ≠ [] := by
  cases hrefs : tracker.affectedRefs with
  | nil => simp [addRefs, hrefs, maxAffectedRefs, h]
  | cons first rest => simp [addRefs, hrefs]

/-- One more occurrence of a reason. -/
theorem sum_values_set {d : Dict String ℕ} (hn : (d.map Prod.fst).Nodup) (key : String) :
    ((Dict.set d key ((Dict.get? d key).getD 0 + 1)).map Prod.snd).sum =
      (d.map Prod.snd).sum + 1 := by
  by_cases hkey : key ∈ d.map Prod.fst
  · obtain ⟨⟨_, n⟩, hitem, rfl⟩ := List.mem_map.mp hkey
    obtain ⟨before, after, rfl⟩ := List.append_of_mem hitem
    rw [Dict.get?_of_mem hn hitem, Option.getD_some]
    rw [List.map_append, List.map_cons] at hn
    obtain ⟨-, hafter, hdisjoint⟩ := List.nodup_append.mp hn
    have hbefore := fun hmem => hdisjoint _ hmem _ List.mem_cons_self rfl
    rw [Dict.set_append_cons hbefore (List.nodup_cons.mp hafter).1]
    simp only [List.map_append, List.map_cons, List.sum_append, List.sum_cons]
    omega
  · rw [Dict.set_of_notMem hkey, Dict.get?_eq_none.mpr hkey, Option.getD_none, List.map_append,
      List.sum_append]
    rfl

theorem Tallied.accept (h : tracker.Tallied received total) :
    tracker.accept.Tallied received (total + 1) :=
  { h with
    counted := by
      rw [← h.counted]
      exact Nat.add_right_comm _ _ _ }

theorem Tallied.reject (h : tracker.Tallied received total) :
    (tracker.reject reason ref).Tallied received (total + 1) where
  received := h.received
  counted := congrArg (· + 1) h.counted
  reasons := (sum_values_set h.distinct reason).trans (congrArg (· + 1) h.reasons)
  distinct := Dict.nodup_keys_set h.distinct
  few := length_addRefs_le h.few
  affected := iff_of_false (affectedRefs_addRefs_ne_nil (List.cons_ne_nil _ _))
    fun hnone => Nat.succ_ne_zero _ hnone.1

theorem Tallied.receive (h : tracker.Tallied received total) :
    tracker.receive.Tallied (received + 1) total :=
  { h with received := congrArg (· + 1) h.received }

theorem tallied_start (name : String) (required : Bool) (received : ℕ) :
    Tallied received 0 ⟨name, required, received, 0, 0, 0, [], []⟩ where
  received := rfl
  counted := rfl
  reasons := rfl
  distinct := List.nodup_nil
  few := Nat.zero_le _
  affected := iff_of_true rfl ⟨rfl, rfl⟩

/-- Steps of which each accepts or rejects one item. -/
theorem Tallied.foldl {σ α : Type} (f : σ → CollectionTracker) (step : σ → α → σ)
    (hstep : ∀ s a total, (f s).Tallied received total →
      (f (step s a)).Tallied received (total + 1))
    (items : List α) {s : σ} (h : (f s).Tallied received total) :
    (f (items.foldl step s)).Tallied received (total + items.length) := by
  induction items generalizing s total with
  | nil => exact h
  | cons a items ih =>
    rw [List.length_cons, Nat.add_comm items.length, ← Nat.add_assoc]
    exact ih (hstep s a total h)

end CollectionTracker

open CollectionTracker

variable {texts : PayloadTexts} {portfolioBaseCurrency : String} {tracker : CollectionTracker}
  {received total : ℕ} {walk : Walk}

theorem duplicatesOf_ne_nil {values : List String} (h : duplicateCountOf values ≠ 0) :
    duplicatesOf values ≠ [] := by
  intro hnone
  rw [duplicatesOf, List.map_eq_nil_iff] at hnone
  exact h (by rw [duplicateCountOf, hnone]; rfl)

theorem tallied_countDuplicates {reason : String} (h : walk.1.Tallied received total) :
    (countDuplicates reason walk).Tallied received total := by
  unfold countDuplicates
  split_ifs with hduplicates
  · exact h
  · exact { h with
      few := length_addRefs_le h.few
      affected := iff_of_false (affectedRefs_addRefs_ne_nil (duplicatesOf_ne_nil hduplicates))
        fun hcounts => hduplicates hcounts.2 }

theorem tallied_sourceRows (payload : JsonObject) (key : String)
    (h : tracker.Tallied received total) :
    (sourceRows payload key tracker).1.Tallied received (total + unlisted payload key) := by
  unfold sourceRows unlisted
  split
  · exact h
  · exact h.reject

theorem CollectionTracker.Tallied.withReceived (h : tracker.Tallied received total) (n : ℕ) :
    { tracker with receivedCount := n }.Tallied n total :=
  { h with received := rfl }

/-- Each of the rows that were received is accepted or rejected by the walk. -/
theorem tallied_rows {payload : JsonObject} {name key : String}
    {step : Walk → Json × ℕ → Walk}
    (hstep : ∀ walk entry received total, walk.1.Tallied received total →
      (step walk entry).1.Tallied received (total + 1)) :
    let rows := receivedRows payload key ⟨name, true, 0, 0, 0, 0, [], []⟩
    (rows.2.zipIdx.foldl step (rows.1, [])).1.Tallied rows.2.length
      (rows.2.length + unlisted payload key) := by
  intro rows
  have hstart : rows.1.Tallied rows.2.length (0 + unlisted payload key) :=
    (tallied_sourceRows payload key (tallied_start name true 0)).withReceived _
  have hwalk : (rows.2.zipIdx.foldl step (rows.1, [])).1.Tallied rows.2.length
      (0 + unlisted payload key + rows.2.zipIdx.length) :=
    Tallied.foldl Prod.fst step (fun walk entry => hstep walk entry rows.2.length) rows.2.zipIdx
      hstart
  rwa [List.length_zipIdx, Nat.zero_add, Nat.add_comm] at hwalk

theorem accounts_positionsCompleteness (positionsPayload : JsonObject) :
    (positionsCompleteness texts positionsPayload portfolioBaseCurrency).Accounts
      (unlisted positionsPayload "positions") := by
  refine (tallied_countDuplicates (tallied_rows fun walk entry received total h => ?_)).accounts
  unfold positionStep requireMappingRow
  split
  · exact h.reject
  · dsimp only
    split
    · exact h.reject
    · exact h.accept

theorem accounts_cashCompleteness (cashPayload : JsonObject) :
    (cashCompleteness texts cashPayload).Accounts (unlisted cashPayload "cash_accounts") := by
  refine (tallied_countDuplicates (tallied_rows fun walk entry received total h => ?_)).accounts
  unfold cashStep requireMappingRow
  split
  · exact h.reject
  · dsimp only
    split_ifs
    · exact h.reject
    · exact h.accept
    · exact h.reject

theorem accounts_pricesCompleteness (positionsPayload : JsonObject) :
    (pricesCompleteness texts positionsPayload).Accounts
      (unlisted positionsPayload "positions") := by
  have hsource := tallied_sourceRows positionsPayload "positions" (tallied_start "PRICES" true 0)
  set source := sourceRows positionsPayload "positions" ⟨"PRICES", true, 0, 0, 0, 0, [], []⟩
  have hwalk := Tallied.foldl id (priceStep texts) (fun tracker entry total h => ?_)
    (priceRows texts source.2) (hsource.withReceived (priceRows texts source.2).length)
  · rw [Nat.zero_add, Nat.add_comm] at hwalk
    exact hwalk.accounts
  · unfold priceStep
    split
    · exact h.accept
    · exact h.reject

/-- A walk that receives what it accepts or rejects, but for `more`. -/
def Receives (more : ℕ) (walk : Walk) : Prop :=
  ∃ received, walk.1.Tallied received (received + more)

theorem receives_recordFx {more : ℕ} {currency ref : String} {numerator denominator : Bool}
    (h : Receives more walk) :
    Receives more (recordFx portfolioBaseCurrency currency ref numerator denominator walk) := by
  obtain ⟨received, h⟩ := h
  refine ⟨received + 1, ?_⟩
  rw [Nat.add_right_comm]
  unfold recordFx
  split_ifs
  · exact h.receive.accept
  · exact h.receive.reject
  · exact h.receive.reject

theorem receives_walkRows {more : ℕ} (payload : JsonObject) (key : String)
    (step : Walk → Json × ℕ → Walk)
    (hstep : ∀ walk entry, Receives (more + unlisted payload key) walk →
      Receives (more + unlisted payload key) (step walk entry)) (h : Receives more walk) :
    Receives (more + unlisted payload key) (walkRows payload key step walk) := by
  have hstart : Receives (more + unlisted payload key)
      ((sourceRows payload key walk.1).1, walk.2) := by
    obtain ⟨received, h⟩ := h
    exact ⟨received, Nat.add_assoc received more _ ▸ tallied_sourceRows payload key h⟩
  exact List.foldlRecOn _ step hstart fun walk h entry _ => hstep walk entry h

theorem accounts_fxCompleteness (positionsPayload cashPayload : JsonObject) :
    (fxCompleteness texts positionsPayload cashPayload portfolioBaseCurrency).Accounts
      (unlisted positionsPayload "positions" + unlisted cashPayload "cash_accounts") := by
  have hstart : Receives 0 (⟨"FX_RATES", true, 0, 0, 0, 0, [], []⟩, []) :=
    ⟨0, tallied_start "FX_RATES" true 0⟩
  have hpositions := receives_walkRows positionsPayload "positions"
    (positionFxStep texts portfolioBaseCurrency) (fun walk entry h => ?_) hstart
  · have hcash := receives_walkRows cashPayload "cash_accounts"
      (cashFxStep texts portfolioBaseCurrency) (fun walk entry h => ?_) hpositions
    · obtain ⟨received, hwalk⟩ := hcash
      rw [Nat.zero_add] at hwalk
      exact (tallied_countDuplicates hwalk).accounts
    · unfold cashFxStep
      split
      · exact h
      · split_ifs
        · exact h
        · exact receives_recordFx h
  · unfold positionFxStep
    split
    · exact h
    · split_ifs
      · exact h
      · exact h
      · exact receives_recordFx h

theorem tallied_malformedEnrichment (received count : ℕ) :
    (malformedEnrichment count ⟨"INSTRUMENT_ENRICHMENT", false, received, 0, 0, 0, [], []⟩).Tallied
      received count := by
  unfold malformedEnrichment
  split_ifs with hcount
  · subst hcount
    exact tallied_start _ _ _
  · have hrange : ((List.range count).map fun index => "record:" ++ toString index) ≠ [] := by
      simpa using hcount
    exact {
      received := rfl
      counted := (Nat.zero_add _).trans (Nat.zero_add count)
      reasons := (Nat.add_zero count).trans (Nat.zero_add count).symm
      distinct := List.nodup_singleton _
      few := length_addRefs_le (Nat.zero_le _)
      affected := iff_of_false (affectedRefs_addRefs_ne_nil hrange)
        fun hnone => hcount ((Nat.zero_add count).symm.trans hnone.1) }

theorem accounts_instrumentEnrichmentCompleteness (requestedInstrumentIds : List String)
    (enrichmentByInstrumentId : Dict String JsonObject) (count : ℕ) :
    (instrumentEnrichmentCompleteness requestedInstrumentIds enrichmentByInstrumentId
      count).Accounts count := by
  have hwalk := Tallied.foldl id (fun tracker instrumentId =>
      if instrumentId ∈ enrichmentByInstrumentId.map Prod.fst then tracker.accept
      else tracker.reject "MISSING_ENRICHMENT" instrumentId)
    (fun tracker instrumentId total h => ?_) requestedInstrumentIds
    (tallied_malformedEnrichment requestedInstrumentIds.length count)
  · rw [Nat.add_comm] at hwalk
    exact hwalk.accounts
  · split_ifs
    · exact h.accept
    · exact h.reject

theorem accounts_classificationTaxonomyCompleteness (taxonomy : Option ClassificationTaxonomy)
    (unavailable : Bool) :
    (classificationTaxonomyCompleteness taxonomy unavailable).Accounts 0 := by
  have hstart := tallied_start "CLASSIFICATION_TAXONOMY" false 1
  unfold classificationTaxonomyCompleteness
  dsimp only
  split_ifs
  · exact hstart.reject.accounts
  · exact hstart.reject.accounts
  · exact hstart.accept.accounts

theorem overallStatus_eq {collections : List SourceCollectionCompleteness}
    (h : ∀ collection ∈ collections, ∃ tracker, collection = CollectionTracker.toSummary tracker) :
    (overallStatus collections = .incomplete ↔
      ∃ collection ∈ collections, collection.status = .incomplete) ∧
    (overallStatus collections = .complete ↔
      ∀ collection ∈ collections, collection.status = .complete) := by
  have hincomplete : ∀ collection ∈ collections, collection.status = .incomplete ↔
      collection.required = true ∧ collection.rejectedCount ≠ 0 := by
    intro collection hcollection
    obtain ⟨tracker, rfl⟩ := h collection hcollection
    exact status_eq_incomplete
  have hcomplete : ∀ collection ∈ collections, collection.status = .complete ↔
      collection.rejectedCount = 0 ∧ collection.duplicateCount = 0 := by
    intro collection hcollection
    obtain ⟨tracker, rfl⟩ := h collection hcollection
    exact status_eq_complete
  rw [show (∃ collection ∈ collections, collection.status = .incomplete) ↔
    ∃ collection ∈ collections, collection.required = true ∧ collection.rejectedCount ≠ 0 from
      exists_congr fun collection => and_congr_right (hincomplete collection),
    forall₂_congr hcomplete]
  unfold overallStatus
  split_ifs with hrequired hdegraded
  · refine ⟨iff_of_true rfl hrequired, iff_of_false (by simp) fun hall => ?_⟩
    obtain ⟨collection, hcollection, -, hrejected⟩ := hrequired
    exact hrejected (hall collection hcollection).1
  · refine ⟨iff_of_false (by simp) hrequired, iff_of_false (by simp) fun hall => ?_⟩
    obtain ⟨collection, hcollection, hcounts⟩ := hdegraded
    exact hcounts.elim (· (hall collection hcollection).1) (· (hall collection hcollection).2)
  · refine ⟨iff_of_false (by simp) hrequired, iff_of_true rfl fun collection hcollection => ?_⟩
    exact (not_or.mp fun hcounts => hdegraded ⟨collection, hcollection, hcounts⟩).imp
      not_not.mp not_not.mp

/-- Every collection of a report accounts for its rows, and the report has the worst of their
statuses. -/
theorem source_completeness_accounts (texts : PayloadTexts) (context : CompletenessContext)
    (portfolioBaseCurrency : String) (positionsPayload cashPayload : JsonObject) :
    let report := buildLotusCoreSourceCompleteness texts context portfolioBaseCurrency
      positionsPayload cashPayload
    List.Forall₂ SourceCollectionCompleteness.Accounts report.collections
      [unlisted positionsPayload "positions", unlisted cashPayload "cash_accounts",
        unlisted positionsPayload "positions",
        unlisted positionsPayload "positions" + unlisted cashPayload "cash_accounts",
        context.enrichmentMalformedRecordCount, 0] ∧
    (report.status = .incomplete ↔
      ∃ collection ∈ report.collections, collection.status = .incomplete) ∧
    (report.status = .complete ↔
      ∀ collection ∈ report.collections, collection.affectedRefs = []) := by
  intro report
  have haccounts : List.Forall₂ SourceCollectionCompleteness.Accounts report.collections _ :=
    .cons (accounts_positionsCompleteness positionsPayload)
      (.cons (accounts_cashCompleteness cashPayload)
      (.cons (accounts_pricesCompleteness positionsPayload)
      (.cons (accounts_fxCompleteness positionsPayload cashPayload)
      (.cons (accounts_instrumentEnrichmentCompleteness _ _ _)
      (.cons (accounts_classificationTaxonomyCompleteness _ _) .nil)))))
  have hsummary : ∀ collection ∈ report.collections,
      ∃ tracker, collection = CollectionTracker.toSummary tracker := by
    change ∀ collection ∈ sourceCollections _ _ _ _ _, _
    unfold sourceCollections
    simp only [List.forall_mem_cons]
    exact ⟨⟨_, rfl⟩, ⟨_, rfl⟩, ⟨_, rfl⟩, ⟨_, rfl⟩, ⟨_, rfl⟩, ⟨_, rfl⟩, fun _ h => nomatch h⟩
  obtain ⟨hincomplete, hcomplete⟩ := overallStatus_eq hsummary
  refine ⟨haccounts, hincomplete, hcomplete.trans (forall₂_congr fun collection hcollection => ?_)⟩
  obtain ⟨index, hindex, rfl⟩ := List.getElem_of_mem hcollection
  exact (haccounts.get hindex (haccounts.length_eq ▸ hindex)).affected.symm

end Tallies

end LotusAdvise.LotusCore

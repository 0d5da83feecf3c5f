import LotusAdvise.Advisory.ExecutablePlan
import LotusAdvise.Advisory.Review

/-! # What a ready simulation has simulated

A trade that is dropped leaves a trace: a missing price or shelf entry in the diagnostics, a
failure, or a demand for review. None of these is taken back, so that a ready simulation has
kept every trade.
-/

namespace LotusAdvise.Advisory

section Diagnostics

variable {diagnostics diagnostics' diagnostics'' : DiagnosticsData}

/-- Nothing that is missing is forgotten. -/
structure DiagnosticsData.Grows (diagnostics diagnostics' : DiagnosticsData) : Prop where
  priceMissing : diagnostics.dataQuality.priceMissing ⊆ diagnostics'.dataQuality.priceMissing
  shelfMissing : diagnostics.dataQuality.shelfMissing ⊆ diagnostics'.dataQuality.shelfMissing

namespace DiagnosticsData.Grows

theorem of_same (h : diagnostics'.dataQuality.priceMissing = diagnostics.dataQuality.priceMissing)
    (h' : diagnostics'.dataQuality.shelfMissing = diagnostics.dataQuality.shelfMissing) :
    diagnostics.Grows diagnostics' := by
  constructor
  · rw [h]
    exact List.Subset.refl _
  · rw [h']
    exact List.Subset.refl _

theorem refl : diagnostics.Grows diagnostics := .of_same rfl rfl

theorem trans (h : diagnostics.Grows diagnostics') (h' : diagnostics'.Grows diagnostics'') :
    diagnostics.Grows diagnostics'' where
  priceMissing := List.Subset.trans h.priceMissing h'.priceMissing
  shelfMissing := List.Subset.trans h.shelfMissing h'.shelfMissing

theorem recordPriceMissing (instrumentIds : List String) :
    diagnostics.Grows (diagnostics.recordPriceMissing instrumentIds) where
  priceMissing := List.subset_append_left _ _
  shelfMissing := List.Subset.refl _

theorem recordShelfMissing (instrumentId : String) :
    diagnostics.Grows (diagnostics.recordShelfMissing instrumentId) where
  priceMissing := List.Subset.refl _
  shelfMissing := List.subset_append_left _ _

theorem warnOnce (warning : String) : diagnostics.Grows (diagnostics.warnOnce warning) := by
  unfold DiagnosticsData.warnOnce
  split
  · exact .refl
  · exact .of_same rfl rfl

theorem recordMissingFxPair (pair : String) :
    diagnostics.Grows (Advisory.recordMissingFxPair diagnostics pair) := by
  unfold Advisory.recordMissingFxPair
  dsimp only
  split <;> split <;> exact .of_same rfl rfl

theorem recordMissingData (portfolio : PortfolioSnapshot) (marketData : MarketDataSnapshot)
    (mode : ValuationMode) :
    diagnostics.Grows (Advisory.recordMissingData portfolio marketData mode diagnostics) :=
  (Grows.recordPriceMissing _).trans (.of_same rfl rfl)

end DiagnosticsData.Grows

end Diagnostics

section Funding

variable (marketData : MarketDataSnapshot) (options : EngineOptions)

theorem grows_search (targetCurrency : String) (fxNeeded : ℚ) (smallestDeficit : Option FundingDeficit)
    (portfolio : PortfolioSnapshot) (diagnostics : DiagnosticsData) (candidates : List String) :
    diagnostics.Grows (selectFundingSource marketData targetCurrency fxNeeded smallestDeficit
      portfolio diagnostics candidates).diagnostics := by
  induction candidates generalizing smallestDeficit portfolio diagnostics with
  | nil => exact .refl
  | cons fundingCurrency candidates ih =>
    unfold selectFundingSource
    split
    · exact (DiagnosticsData.Grows.recordMissingFxPair _).trans (ih _ _ _)
    · dsimp only
      split
      · exact .refl
      · exact ih _ _ _

/-- A currency without funds is a failure, or demands a review. -/
def FundingState.Accounted (s : FundingState) : Prop :=
  s.unfundedCurrencies = [] ∨ s.hardFailures ≠ [] ∨ s.forcePendingReview = true

theorem recordUnfunded_accounted (s : FundingState) (targetCurrency : String)
    (deficit : Option FundingDeficit) (plan : FundingPlanEntry) :
    let s' := s.recordUnfundedTargetCurrency options targetCurrency deficit plan
    s.diagnostics.Grows s'.diagnostics ∧ s'.Accounted := by
  unfold FundingState.recordUnfundedTargetCurrency FundingState.recordMissingFxFundingFailure
  dsimp only
  split
  · split
    · exact ⟨.of_same rfl rfl, .inr (.inl (by simp))⟩
    · have hplan : s.diagnostics.Grows { s.diagnostics with
          fundingPlan := s.diagnostics.fundingPlan ++ [plan] } := .of_same rfl rfl
      exact ⟨hplan.trans (.warnOnce _), .inr (.inr rfl)⟩
  · exact ⟨.of_same rfl rfl, .inr (.inl (by simp))⟩

theorem fundTargetCurrency_accounted (s : FundingState) (targetCurrency : String) (required : ℚ)
    (hs : s.Accounted) :
    s.diagnostics.Grows (fundTargetCurrency marketData options s targetCurrency required).diagnostics ∧
      (fundTargetCurrency marketData options s targetCurrency required).Accounted := by
  unfold fundTargetCurrency
  dsimp only
  split
  · exact ⟨.of_same rfl rfl, hs⟩
  · have hsearch := grows_search marketData targetCurrency
    split
    · obtain ⟨hgrows, haccounted⟩ := recordUnfunded_accounted options _ targetCurrency _ _
      exact ⟨(hsearch _ _ _ _ _).trans hgrows, haccounted⟩
    · exact ⟨(hsearch _ _ _ _ _).trans (.of_same rfl rfl), hs⟩

theorem autoFunding_accounted (portfolio : PortfolioSnapshot) (buys : List SecurityTradeIntent)
    (diagnostics : DiagnosticsData) :
    diagnostics.Grows (buildAutoFundingPlan marketData options portfolio buys diagnostics).diagnostics ∧
      (buildAutoFundingPlan marketData options portfolio buys diagnostics).Accounted := by
  have hstart : FundingState.Accounted { portfolio, diagnostics } := .inl rfl
  unfold buildAutoFundingPlan
  split
  · refine List.foldlRecOn (motive := fun s : FundingState =>
      diagnostics.Grows s.diagnostics ∧ s.Accounted) _ _ ⟨.refl, hstart⟩ ?_
    rintro s ⟨hgrows, haccounted⟩ target -
    obtain ⟨hstep, haccounted⟩ :=
      fundTargetCurrency_accounted marketData options s target.1 target.2 haccounted
    exact ⟨hgrows.trans hstep, haccounted⟩
  · exact ⟨.refl, hstart⟩

end Funding

section Trades

/-- An intent stands for a proposed trade, at the price of its instrument. -/
structure SecurityTradeIntent.Simulates (marketData : MarketDataSnapshot) (trade : ProposedTrade)
    (number : ℕ) (intent : SecurityTradeIntent) : Prop where
  intentId : intent.intentId = tradeIntentId number
  instrumentId : intent.instrumentId = trade.instrumentId
  side : intent.side = trade.side
  size : ∃ price, priceFor marketData trade.instrumentId = some price ∧
    intent.notional.currency = price.currency ∧
    resolveTradeNotional trade price = some (intent.quantity, intent.notional.amount)

variable (marketData : MarketDataSnapshot) (shelf : List ShelfEntry) (options : EngineOptions)
  (baseCurrency : String)

/-- Nothing is missing and nothing has failed. -/
structure PlanState.Clean (s : PlanState) : Prop where
  priceMissing : s.diagnostics.dataQuality.priceMissing = []
  shelfMissing : s.diagnostics.dataQuality.shelfMissing = []
  hardFailures : s.hardFailures = []

/-- A phase of a plan takes nothing back. -/
structure PlanState.Grows (s s' : PlanState) : Prop where
  diagnostics : s.diagnostics.Grows s'.diagnostics
  hardFailures : s.hardFailures ⊆ s'.hardFailures

variable {s s' : PlanState}

theorem PlanState.Clean.of_grows (h : s'.Clean) (hgrows : s.Grows s') : s.Clean where
  priceMissing := List.subset_nil.mp (h.priceMissing ▸ hgrows.diagnostics.priceMissing)
  shelfMissing := List.subset_nil.mp (h.shelfMissing ▸ hgrows.diagnostics.shelfMissing)
  hardFailures := List.subset_nil.mp (h.hardFailures ▸ hgrows.hardFailures)

theorem PlanState.grows_fail (s : PlanState) (failure : String) : s.Grows (s.fail failure) where
  diagnostics := .of_same rfl rfl
  hardFailures := List.subset_append_left _ _

theorem PlanState.not_clean_fail (s : PlanState) (failure : String) : ¬ (s.fail failure).Clean :=
  fun h => List.append_ne_nil_of_right_ne_nil _ (List.cons_ne_nil _ _) h.hardFailures

/-- A trade that leaves the plan clean has been kept. -/
theorem securityTradeIntentForTrade_kept (trade : ProposedTrade) (number : ℕ) (s : PlanState) :
    let built := securityTradeIntentForTrade marketData shelf options baseCurrency trade
      (tradeIntentId number) s
    s.Grows built.2 ∧
      (built.2.Clean → ∃ intent, built.1 = some intent ∧ intent.Simulates marketData trade number) := by
  unfold securityTradeIntentForTrade buildSupportedSecurityTradeIntent
  dsimp only
  split
  · refine ⟨⟨.recordShelfMissing _, List.Subset.refl _⟩, fun h => ?_⟩
    exact absurd h.shelfMissing (List.append_ne_nil_of_right_ne_nil _ (List.cons_ne_nil _ _))
  split
  · split
    · refine ⟨⟨.recordPriceMissing _, List.Subset.refl _⟩, fun h => ?_⟩
      exact absurd h.priceMissing (List.append_ne_nil_of_right_ne_nil _ (List.cons_ne_nil _ _))
    · next price hprice =>
      split
      · exact ⟨s.grows_fail _, fun h => absurd h (s.not_clean_fail _)⟩
      · next quantity amount hresolved =>
        refine ⟨⟨.of_same rfl rfl, List.Subset.refl _⟩, fun _ => ⟨_, rfl, ?_⟩⟩
        exact ⟨rfl, rfl, rfl, price, hprice, rfl, hresolved⟩
  · exact ⟨s.grows_fail _, fun h => absurd h (s.not_clean_fail _)⟩

/-- A plan that is clean after its trades has kept all of them. -/
theorem buildSecurityTradeIntents_kept (index : ℕ) (trades : List ProposedTrade) (s : PlanState) :
    let built := buildSecurityTradeIntents marketData shelf options baseCurrency index trades s
    s.Grows built.2 ∧
      (built.2.Clean → List.Forall₂ (fun numbered intent => intent.Simulates marketData numbered.1
        numbered.2) (trades.zipIdx (index + 1)) built.1) := by
  induction trades generalizing index s with
  | nil => exact ⟨⟨.refl, List.Subset.refl _⟩, fun _ => .nil⟩
  | cons trade trades ih =>
    dsimp only [buildSecurityTradeIntents]
    obtain ⟨hfirst, hkept⟩ := securityTradeIntentForTrade_kept marketData shelf options baseCurrency
      trade (index + 1) s
    obtain ⟨hrest, htrades⟩ := ih (index + 1) (securityTradeIntentForTrade marketData shelf options
      baseCurrency trade (tradeIntentId (index + 1)) s).2
    refine ⟨⟨hfirst.diagnostics.trans hrest.diagnostics,
      List.Subset.trans hfirst.hardFailures hrest.hardFailures⟩, fun h => ?_⟩
    obtain ⟨intent, hbuilt, hsimulates⟩ := hkept (h.of_grows hrest)
    have hbuilt' : (securityTradeIntentForTrade marketData shelf options baseCurrency trade
        ("oi_" ++ (index + 1).repr) s).1 = some intent := hbuilt
    rw [hbuilt', List.zipIdx_cons]
    exact .cons hsimulates (htrades h)

end Trades

section Simulation

def ProposalOrderIntent.securityTrade? : ProposalOrderIntent → Option SecurityTradeIntent
  | securityTrade intent => some intent
  | _ => none

def ProposalOrderIntent.cashFlow? : ProposalOrderIntent → Option CashFlowIntent
  | cashFlow intent => some intent
  | _ => none

variable (request : ProposalSimulateRequest)

/-- The result has one intent for each proposed trade and for each proposed cash flow, all that is
held or traded has a price, and nothing is negative at the end. -/
structure EverythingSimulated : Prop where
  trades : ∃ simulated, List.Forall₂
      (fun numbered intent => SecurityTradeIntent.Simulates request.marketDataSnapshot numbered.1
        numbered.2 intent) (request.proposedTrades.zipIdx 1) simulated ∧
    ((runProposalSimulation request).intents.filterMap ProposalOrderIntent.securityTrade?).Perm
      simulated
  cashFlows : (runProposalSimulation request).intents.filterMap ProposalOrderIntent.cashFlow? =
    request.proposedCashFlows.mapIdx fun index cashFlow => cashFlowIntent cashFlow index
  held : ∀ position ∈ request.portfolioSnapshot.positions,
    (priceFor request.marketDataSnapshot position.instrumentId).isSome
  heldAfter : ∀ position ∈ (runProposalSimulation request).afterSimulated.positions,
    (priceFor request.marketDataSnapshot position.instrumentId).isSome
  traded : ∀ trade ∈ request.proposedTrades,
    (priceFor request.marketDataSnapshot trade.instrumentId).isSome
  cash : ∀ balance ∈ (runProposalSimulation request).afterSimulated.cashBalances, 0 ≤ balance.amount
  positions : ∀ position ∈ (runProposalSimulation request).afterSimulated.positions,
    0 ≤ position.quantity

variable {request} {diagnostics : DiagnosticsData} {intent : SecurityTradeIntent}

theorem finalStatus_ready {finalStatus : ProposalStatus} {plan : SimulationIntentPlan}
    (h : finalStatusAfterPendingReview finalStatus plan = .ready) :
    plan.forcePendingReview = false := by
  unfold finalStatusAfterPendingReview at h
  split at h
  · cases h
  · next hpending => exact Bool.eq_false_iff.mpr fun hforce => hpending ⟨hforce, h⟩

/-- A ready simulation lacks no data, and its plan has not failed and needs no review. -/
theorem clean_of_ready (hprices : request.options.blockOnMissingPrices = true)
    (h : (runProposalSimulation request).status = .ready) :
    (simulatedDiagnostics request).dataQuality.priceMissing = [] ∧
      (simulatedDiagnostics request).dataQuality.shelfMissing = [] ∧
      (simulatedPlan request).hardFailures = [] ∧
      (simulatedPlan request).forcePendingReview = false := by
  have hnot : (simulatedReview request).finalStatus ≠ .blocked := by
    intro hblocked
    cases hblocked.symm.trans h
  obtain ⟨hrules, hfailures⟩ := passed_of_review hnot
  have hquality := hrules (evaluateDataQuality request.options (simulatedDiagnostics request))
    (by simp [evaluateRules])
  have hcount : dataQualityCount request.options (simulatedDiagnostics request) = 0 := by
    unfold evaluateDataQuality at hquality
    dsimp only at hquality
    split at hquality
    · cases hquality rfl
    · next hzero => exact Nat.eq_zero_of_not_pos hzero
  unfold dataQualityCount at hcount
  rw [if_pos hprices] at hcount
  refine ⟨List.length_eq_zero_iff.mp (by omega), List.length_eq_zero_iff.mp (by omega), hfailures, ?_⟩
  have hready : (simulatedReview request).finalStatus = .ready := h
  unfold simulatedReview evaluateSimulationReview at hready
  dsimp only at hready
  split at hready <;> exact finalStatus_ready hready

/-- The plan after its trades, which the later phases take nothing back of. -/
theorem grows_of_trades (hfailures : (buildSimulationIntentPlan request diagnostics).hardFailures = []) :
    (plannedSecurityTrades request diagnostics).2.diagnostics.Grows
        (buildSimulationIntentPlan request diagnostics).diagnostics ∧
      (plannedSecurityTrades request diagnostics).2.hardFailures = [] ∧
      (plannedFunding request diagnostics).hardFailures = [] := by
  have hfunding := (autoFunding_accounted request.marketDataSnapshot request.options
    (planAfterSells request diagnostics).portfolio (buyIntents request diagnostics)
    (planAfterSells request diagnostics).diagnostics).1
  have happended : (planAfterSells request diagnostics).hardFailures ++
      (plannedFunding request diagnostics).hardFailures = [] := hfailures
  obtain ⟨htrades, hfunded⟩ := List.append_eq_nil_iff.mp happended
  refine ⟨hfunding.trans ?_, htrades, hfunded⟩
  change (plannedFunding request diagnostics).diagnostics.Grows
    (planAfterBuys request diagnostics).diagnostics
  unfold planAfterBuys applyExecutableBuyIntents
  dsimp only
  split
  · exact .warnOnce _
  · exact .refl

theorem grows_planAfterCashFlows (request : ProposalSimulateRequest) (diagnostics : DiagnosticsData) :
    diagnostics.Grows (planAfterCashFlows request diagnostics).diagnostics := by
  refine List.foldlRecOn (motive := fun s : PlanState => diagnostics.Grows s.diagnostics) _ _ .refl ?_
  intro s hs cashFlow _
  refine hs.trans ?_
  unfold applyCashFlow recordNegativeCashFailureIfNeeded
  split <;> exact .of_same rfl rfl

theorem grows_simulatedDiagnostics :
    (simulatedPlan request).diagnostics.Grows (simulatedDiagnostics request) := by
  unfold simulatedDiagnostics
  split
  · exact .refl
  · exact .recordMissingData _ _ _

/-- What links a buy changes nothing that the trade asks for. -/
theorem SecurityTradeIntent.Simulates.link {marketData : MarketDataSnapshot} {trade : ProposedTrade}
    {number : ℕ} (h : intent.Simulates marketData trade number) (fxIds : Dict String String)
    (sells : List SecurityTradeIntent) (includeSells : Bool) :
    (linkBuyIntent fxIds sells includeSells intent).Simulates marketData trade number := by
  obtain ⟨dependencies, heq, -⟩ := exists_linkBuyIntent_eq fxIds sells includeSells intent
  rw [heq]
  exact { h with }

theorem intents_of_kind :
    (buildSimulationIntentPlan request diagnostics).intents.filterMap ProposalOrderIntent.cashFlow? =
        buildCashFlowIntents request.proposedCashFlows ∧
      (buildSimulationIntentPlan request diagnostics).intents.filterMap
          ProposalOrderIntent.securityTrade? =
        sellIntents request diagnostics ++ linkedBuyIntents request diagnostics := by
  have hcash : ∀ intents : List CashFlowIntent,
      (intents.map ProposalOrderIntent.cashFlow).filterMap ProposalOrderIntent.cashFlow? = intents ∧
        (intents.map ProposalOrderIntent.cashFlow).filterMap ProposalOrderIntent.securityTrade? = [] := by
    intro intents
    induction intents with
    | nil => exact ⟨rfl, rfl⟩
    | cons intent intents ih => exact ⟨congrArg (intent :: ·) ih.1, ih.2⟩
  have hfx : ∀ intents : List FxSpotIntent,
      (intents.map ProposalOrderIntent.fxSpot).filterMap ProposalOrderIntent.cashFlow? = [] ∧
        (intents.map ProposalOrderIntent.fxSpot).filterMap ProposalOrderIntent.securityTrade? = [] := by
    intro intents
    induction intents with
    | nil => exact ⟨rfl, rfl⟩
    | cons intent intents ih => exact ih
  have htrade : ∀ intents : List SecurityTradeIntent,
      (intents.map ProposalOrderIntent.securityTrade).filterMap ProposalOrderIntent.cashFlow? = [] ∧
        (intents.map ProposalOrderIntent.securityTrade).filterMap ProposalOrderIntent.securityTrade? =
          intents := by
    intro intents
    induction intents with
    | nil => exact ⟨rfl, rfl⟩
    | cons intent intents ih => exact ⟨ih.1, congrArg (intent :: ·) ih.2⟩
  rw [intents_eq]
  simp only [List.filterMap_append, hcash, hfx, htrade, List.nil_append, List.append_nil, and_self]

/-- With every currency funded, the trades of the plan are the planned ones, up to their order and
the dependencies of the buys. -/
theorem securityTrades_perm (hfunded : (plannedFunding request diagnostics).unfundedCurrencies = []) :
    ((buildSimulationIntentPlan request diagnostics).intents.filterMap
        ProposalOrderIntent.securityTrade?).Perm
      ((plannedSecurityTrades request diagnostics).1.map fun intent =>
        if intent.side = .buy then linkBuyIntent (plannedFunding request diagnostics).fxByCurrency
          (sellIntents request diagnostics)
          (request.options.linkBuyToSameCurrencySellDependency.getD false) intent
        else intent) := by
  rw [intents_of_kind.2]
  generalize hlink : (fun intent : SecurityTradeIntent => if intent.side = .buy then
    linkBuyIntent (plannedFunding request diagnostics).fxByCurrency (sellIntents request diagnostics)
      (request.options.linkBuyToSameCurrencySellDependency.getD false) intent else intent) = link
  have hsells : sellIntents request diagnostics = (sellIntents request diagnostics).map link := by
    have hkept : ∀ intent ∈ sellIntents request diagnostics, link intent = id intent := by
      intro intent hmem
      rw [← hlink]
      exact if_neg (by rw [(mem_sellIntents.mp hmem).2]; decide)
    rw [List.map_congr_left hkept, List.map_id]
  have hbuys : linkedBuyIntents request diagnostics = (buyIntents request diagnostics).map link := by
    have hall : executableBuyIntents (plannedFunding request diagnostics).unfundedCurrencies
        (buyIntents request diagnostics) = buyIntents request diagnostics := by
      rw [executableBuyIntents, hfunded]
      simp
    rw [linkedBuyIntents, hall]
    refine List.map_congr_left fun intent hmem => ?_
    rw [← hlink]
    exact (if_pos (mem_buyIntents.mp hmem).2).symm
  have hsides : ∀ intent : SecurityTradeIntent, decide (intent.side = .buy) =
      !decide (intent.side = .sell) := by
    intro intent
    cases intent.side <;> rfl
  rw [hsells, hbuys, ← List.map_append]
  apply List.Perm.map
  rw [sellIntents, buyIntents, sortedSecurityIntentsByInstrument, sortedSecurityIntentsByInstrument]
  refine ((List.perm_insertionSort _ _).append (List.perm_insertionSort _ _)).trans ?_
  simp only [hsides]
  exact List.filter_append_perm _ _

/-- The summaries of a state are those of the positions of its portfolio. -/
theorem instrumentIds_buildSimulatedState (portfolio : PortfolioSnapshot)
    (marketData : MarketDataSnapshot) (shelf : List ShelfEntry) (mode : ValuationMode) :
    (buildSimulatedState portfolio marketData shelf mode).positions.map PositionSummary.instrumentId =
      portfolio.positions.map Position.instrumentId := by
  have hvalue : ∀ position, (valuePosition marketData portfolio.baseCurrency mode
      position).instrumentId = position.instrumentId := by
    intro position
    unfold valuePosition trustSnapshotPositionValue
    dsimp only
    split
    · split <;> rfl
    · rfl
  change (allocatedPositions portfolio marketData shelf mode).map _ = _
  rw [allocatedPositions, positionSummaries, List.map_map, List.map_map]
  exact List.map_congr_left fun position _ => hvalue position

/-- If no price is recorded as missing, then the positions of a valued portfolio have prices. -/
theorem priced_of_recordMissingData {portfolio : PortfolioSnapshot} {marketData : MarketDataSnapshot}
    {mode : ValuationMode} {diagnostics diagnostics' : DiagnosticsData}
    (hgrows : (recordMissingData portfolio marketData mode diagnostics).Grows diagnostics')
    (hnone : diagnostics'.dataQuality.priceMissing = []) {instrumentId : String}
    (h : instrumentId ∈ portfolio.positions.map Position.instrumentId) :
    (priceFor marketData instrumentId).isSome := by
  obtain ⟨position, hposition, rfl⟩ := List.mem_map.mp h
  by_contra hmissing
  have hrecorded : position.instrumentId ∈
      (recordMissingData portfolio marketData mode diagnostics).dataQuality.priceMissing := by
    refine List.mem_append_right _ (List.mem_map_of_mem (List.mem_filter.mpr ⟨hposition, ?_⟩))
    simpa using hmissing
  have hmem := hgrows.priceMissing hrecorded
  rw [hnone] at hmem
  cases hmem

/-- A ready simulation has simulated everything. -/
theorem everything_simulated_of_ready (request : ProposalSimulateRequest)
    (hprices : request.options.blockOnMissingPrices = true)
    (hready : (runProposalSimulation request).status = .ready) : EverythingSimulated request := by
  obtain ⟨hprice, hshelf, hfailures, hreview⟩ := clean_of_ready hprices hready
  obtain ⟨hpositions, hcash, -⟩ := nonneg_of_not_blocked (by rw [hready]; decide)
  obtain ⟨hlater, htrades, hfunded⟩ := grows_of_trades hfailures
  have hgrows := hlater.trans grows_simulatedDiagnostics
  obtain ⟨hbuilt, hkept⟩ := buildSecurityTradeIntents_kept request.marketDataSnapshot
    request.shelfEntries request.options request.portfolioSnapshot.baseCurrency 0
    request.proposedTrades (planAfterCashFlows request (recordMissingData request.portfolioSnapshot
      request.marketDataSnapshot request.options.valuationMode {}))
  have hsimulated := hkept ⟨List.subset_nil.mp (hprice ▸ hgrows.priceMissing),
    List.subset_nil.mp (hshelf ▸ hgrows.shelfMissing), htrades⟩
  have hunfunded : (plannedFunding request (recordMissingData request.portfolioSnapshot
      request.marketDataSnapshot request.options.valuationMode {})).unfundedCurrencies = [] := by
    rcases (autoFunding_accounted _ _ _ _ _).2 with hnone | hfailed | hforced
    · exact hnone
    · exact absurd hfunded hfailed
    · cases hreview.symm.trans hforced
  have hstart := ((grows_planAfterCashFlows request _).trans hbuilt.diagnostics).trans hgrows
  refine ⟨⟨_, ?_, securityTrades_perm hunfunded⟩, intents_of_kind.1, ?_, ?_, ?_, hcash, hpositions⟩
  · rw [List.forall₂_map_right_iff]
    refine hsimulated.imp fun numbered intent h => ?_
    split
    · exact h.link _ _ _
    · exact h
  · intro position hposition
    exact priced_of_recordMissingData hstart hprice (List.mem_map_of_mem hposition)
  · intro position hposition
    have hmem : position.instrumentId ∈
        (simulatedAfter request).positions.map PositionSummary.instrumentId :=
      List.mem_map_of_mem hposition
    unfold simulatedAfter at hmem
    split at hmem
    · rw [simulatedBefore, instrumentIds_buildSimulatedState] at hmem
      exact priced_of_recordMissingData hstart hprice hmem
    · next hintents =>
      rw [instrumentIds_buildSimulatedState] at hmem
      unfold simulatedDiagnostics at hprice
      rw [if_neg hintents] at hprice
      exact priced_of_recordMissingData .refl hprice hmem
  · intro trade htrade
    rw [← List.zipIdx_map_fst 1 request.proposedTrades] at htrade
    obtain ⟨numbered, hnumbered, rfl⟩ := List.mem_map.mp htrade
    obtain ⟨i, hi, rfl⟩ := List.getElem_of_mem hnumbered
    obtain ⟨price, hfound, -⟩ := ((List.forall₂_iff_get.mp hsimulated).2 i hi
      (hsimulated.length_eq ▸ hi)).size
    rw [List.get_eq_getElem] at hfound
    rw [hfound]
    rfl

theorem FundedSample.everything_simulated_funded :
    FundedSample.request.proposedTrades.length = 2 ∧ EverythingSimulated FundedSample.request :=
  ⟨rfl, everything_simulated_of_ready FundedSample.request rfl (by decide +kernel)⟩

end Simulation

end LotusAdvise.Advisory

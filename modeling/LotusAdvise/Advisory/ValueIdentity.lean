import LotusAdvise.Advisory.ExecutablePlan
import LotusAdvise.Advisory.Review

/-! # The value of a plan

A plan changes the value of a portfolio by its cash flows and by what its currency trades gain
or lose against the rates into the base currency. A security trade is priced as it is valued:
it changes nothing.
-/

namespace LotusAdvise.Advisory

section Orders

variable (marketData : MarketDataSnapshot) (baseCcy : String)

/-- What a currency trade gains against the rates into the base currency. -/
def FxSpotIntent.gain (intent : FxSpotIntent) : ℚ :=
  intent.buyAmount * rateOrZero marketData baseCcy intent.buyCurrency -
    intent.sellAmountEstimated * rateOrZero marketData baseCcy intent.sellCurrency

def ProposalOrderIntent.fxSpot? : ProposalOrderIntent → Option FxSpotIntent
  | fxSpot intent => some intent
  | cashFlow _ => none
  | securityTrade _ => none

/-- What an order adds to the value of a portfolio. -/
def ProposalOrderIntent.value (intent : ProposalOrderIntent) : ℚ :=
  intent.quantityTotal (valuePerUnit marketData baseCcy) +
    intent.cashTotal (rateOrZero marketData baseCcy)

variable {marketData} {baseCcy}

theorem SecurityTradeIntent.PricedAt.value_eq_zero {intent : SecurityTradeIntent} {price : Price}
    (h : intent.PricedAt marketData price) (hprice : price.price ≠ 0) :
    (ProposalOrderIntent.securityTrade intent).value marketData baseCcy = 0 := by
  unfold ProposalOrderIntent.value ProposalOrderIntent.quantityTotal ProposalOrderIntent.cashTotal
    valuePerUnit
  dsimp only
  rw [h.found, h.amount hprice, h.currency]
  cases intent.side with
  | buy =>
    dsimp only [Option.map_some, Option.getD_some]
    ring
  | sell =>
    dsimp only [Option.map_some, Option.getD_some]
    ring

theorem value_of_changed {intents : List ProposalOrderIntent}
    {portfolio portfolio' : PortfolioSnapshot} (h : Changed intents portfolio portfolio') :
    totalValue portfolio' marketData .calculated = totalValue portfolio marketData .calculated +
      (intents.map (ProposalOrderIntent.value marketData portfolio.baseCurrency)).sum := by
  unfold ProposalOrderIntent.value
  rw [totalValue_calculated, totalValue_calculated, h.baseCurrency, h.cashTotal, h.quantityTotal,
    List.sum_map_add]
  ring

end Orders

section Plans

variable (request : ProposalSimulateRequest) (diagnostics : DiagnosticsData)
  (marketData : MarketDataSnapshot) (baseCcy : String)

/-- The security trades of a plan add nothing. -/
theorem value_securityTrade_eq_zero {intent : SecurityTradeIntent}
    (hprices : ∀ price ∈ request.marketDataSnapshot.prices, price.price ≠ 0)
    (h : intent ∈ sellIntents request diagnostics ++ linkedBuyIntents request diagnostics) :
    (ProposalOrderIntent.securityTrade intent).value request.marketDataSnapshot baseCcy = 0 := by
  have hplanned : ∀ trade ∈ (plannedSecurityTrades request diagnostics).1,
      (ProposalOrderIntent.securityTrade trade).value request.marketDataSnapshot baseCcy = 0 := by
    intro trade htrade
    obtain ⟨⟨price, hpriced⟩, -⟩ := (planned_spec request diagnostics).2.1 trade htrade
    exact hpriced.value_eq_zero (hprices price (List.mem_of_find?_eq_some hpriced.found))
  rcases List.mem_append.mp h with h | h
  · exact hplanned intent (mem_sellIntents.mp h).1
  · obtain ⟨buy, hbuy, dependencies, rfl, -⟩ := exists_of_mem_linkedBuyIntents h
    exact hplanned buy (mem_buyIntents.mp hbuy).1

theorem value_cashFlows : ((buildCashFlowIntents request.proposedCashFlows).map
    fun intent => (ProposalOrderIntent.cashFlow intent).value marketData baseCcy) =
      request.proposedCashFlows.map fun cashFlow =>
        cashFlow.amount * rateOrZero marketData baseCcy cashFlow.currency := by
  apply List.ext_getElem
  · simp [buildCashFlowIntents]
  · intro n _ _
    simp [buildCashFlowIntents, cashFlowIntent, ProposalOrderIntent.value,
      ProposalOrderIntent.quantityTotal, ProposalOrderIntent.cashTotal]

theorem fxSpot?_plan : (buildSimulationIntentPlan request diagnostics).intents.filterMap
    ProposalOrderIntent.fxSpot? =
      (plannedFunding request diagnostics).fxIntents.insertionSort fun a b => a.pair ≤ b.pair := by
  have hcash : ∀ intents : List CashFlowIntent,
      (intents.map ProposalOrderIntent.cashFlow).filterMap ProposalOrderIntent.fxSpot? = [] := by
    intro intents
    rw [List.filterMap_map, List.filterMap_eq_nil_iff]
    exact fun _ _ => rfl
  have htrade : ∀ intents : List SecurityTradeIntent,
      (intents.map ProposalOrderIntent.securityTrade).filterMap ProposalOrderIntent.fxSpot? = [] := by
    intro intents
    rw [List.filterMap_map, List.filterMap_eq_nil_iff]
    exact fun _ _ => rfl
  rw [intents_eq, List.filterMap_append, List.filterMap_append, List.filterMap_append, hcash, htrade,
    htrade, List.nil_append, List.nil_append, List.append_nil, List.filterMap_map]
  exact List.filterMap_some

/-- The orders of a plan add its cash flows and what its currency trades gain. -/
theorem value_plan (hprices : ∀ price ∈ request.marketDataSnapshot.prices, price.price ≠ 0) :
    ((buildSimulationIntentPlan request diagnostics).intents.map
      (ProposalOrderIntent.value request.marketDataSnapshot baseCcy)).sum =
      (request.proposedCashFlows.map fun cashFlow => cashFlow.amount *
        rateOrZero request.marketDataSnapshot baseCcy cashFlow.currency).sum +
      (((buildSimulationIntentPlan request diagnostics).intents.filterMap
        ProposalOrderIntent.fxSpot?).map
          (FxSpotIntent.gain request.marketDataSnapshot baseCcy)).sum := by
  have htrades : ∀ intents : List SecurityTradeIntent,
      (∀ intent ∈ intents,
        intent ∈ sellIntents request diagnostics ++ linkedBuyIntents request diagnostics) →
      (intents.map fun intent => (ProposalOrderIntent.securityTrade intent).value
        request.marketDataSnapshot baseCcy).sum = 0 := by
    intro intents h
    apply List.sum_eq_zero
    intro value hvalue
    obtain ⟨intent, hintent, rfl⟩ := List.mem_map.mp hvalue
    exact value_securityTrade_eq_zero request diagnostics baseCcy hprices (h intent hintent)
  have hsells := htrades (sellIntents request diagnostics) fun _ => List.mem_append_left _
  have hbuys := htrades (linkedBuyIntents request diagnostics) fun _ => List.mem_append_right _
  have hfx : ∀ intent, (ProposalOrderIntent.fxSpot intent).value request.marketDataSnapshot baseCcy =
      intent.gain request.marketDataSnapshot baseCcy := fun _ => zero_add _
  have hcash := value_cashFlows request request.marketDataSnapshot baseCcy
  rw [fxSpot?_plan, intents_eq]
  simp only [List.map_append, List.sum_append, List.map_map, Function.comp_def, hfx, hcash, hsells,
    hbuys, zero_add, add_zero]

theorem intents_eq_nil (h : (buildSimulationIntentPlan request diagnostics).intents = []) :
    request.proposedCashFlows = [] := by
  rw [intents_eq, List.append_eq_nil_iff, List.map_eq_nil_iff] at h
  exact List.mapIdx_eq_nil_iff.mp h.1

end Plans

section Identity

variable (request : ProposalSimulateRequest)

/-- The value after a plan is the value before it, with the cash flows and what the currency trades
gain. -/
theorem value_identity (hmode : request.options.valuationMode = .calculated)
    (hprices : ∀ price ∈ request.marketDataSnapshot.prices, price.price ≠ 0) :
    (runProposalSimulation request).afterSimulated.totalValue.amount -
        (runProposalSimulation request).before.totalValue.amount =
      (request.proposedCashFlows.map fun cashFlow => cashFlow.amount *
        rateOrZero request.marketDataSnapshot request.portfolioSnapshot.baseCurrency
          cashFlow.currency).sum +
      (((runProposalSimulation request).intents.filterMap ProposalOrderIntent.fxSpot?).map
        (FxSpotIntent.gain request.marketDataSnapshot
          request.portfolioSnapshot.baseCurrency)).sum := by
  have hbefore : (runProposalSimulation request).before.totalValue.amount =
      totalValue request.portfolioSnapshot request.marketDataSnapshot .calculated := by
    rw [← hmode]
    rfl
  have hafter : (runProposalSimulation request).afterSimulated = simulatedAfter request := rfl
  have hintents : (runProposalSimulation request).intents = (simulatedPlan request).intents := rfl
  rw [hbefore, hafter, hintents]
  unfold simulatedAfter
  split
  · next hnil =>
    have hcash := intents_eq_nil request _ hnil
    rw [hnil, hcash]
    change totalValue _ _ request.options.valuationMode - _ = _
    rw [hmode, sub_self]
    simp
  · have hchanged := @value_of_changed request.marketDataSnapshot _ _ _
      (changed_plan request (recordMissingData request.portfolioSnapshot
        request.marketDataSnapshot request.options.valuationMode {}))
    change totalValue (simulatedPlan request).afterPortfolio _ _ - _ = _
    unfold simulatedPlan
    rw [hchanged, value_plan request _ _ hprices, add_sub_cancel_left]

end Identity

namespace FundedSample

theorem value_identity_funded : -1000 = (request.proposedCashFlows.map fun cashFlow =>
      cashFlow.amount * rateOrZero request.marketDataSnapshot "USD" cashFlow.currency).sum ∧
    (runProposalSimulation request).afterSimulated.totalValue.amount -
        (runProposalSimulation request).before.totalValue.amount =
      (request.proposedCashFlows.map fun cashFlow => cashFlow.amount *
        rateOrZero request.marketDataSnapshot "USD" cashFlow.currency).sum +
      (((runProposalSimulation request).intents.filterMap ProposalOrderIntent.fxSpot?).map
        (FxSpotIntent.gain request.marketDataSnapshot "USD")).sum :=
  ⟨by decide +kernel, value_identity request rfl (by decide +kernel)⟩

end FundedSample

end LotusAdvise.Advisory

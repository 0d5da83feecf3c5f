import LotusAdvise.Advisory.FundingLedger
import LotusAdvise.Advisory.Review
import LotusAdvise.Foundations.Balance

/-! # Solvent plans

The orders of a plan that is not blocked can be executed one after another without negative
cash. The cash flows are checked one by one, the sells only add, what is sold for funding is
there before anything is bought, and the buys end with what the rules have seen.
-/

namespace LotusAdvise.Advisory

section CashFlows

variable {options : EngineOptions} {s : PlanState} {currency : String}

theorem applyCashFlow_spec {cashFlow : ProposedCashFlow}
    (hblock : options.proposalBlockNegativeCash = true)
    (h : (applyCashFlow options s cashFlow).hardFailures = []) :
    s.hardFailures = [] ∧ 0 ≤ (applyCashFlow options s cashFlow).portfolio.cash cashFlow.currency := by
  rw [applyCashFlow_portfolio]
  unfold applyCashFlow recordNegativeCashFailureIfNeeded at h
  split at h
  · exact absurd h (by simp [PlanState.fail])
  · next hnegative =>
    refine ⟨h, ?_⟩
    rw [PortfolioSnapshot.cash, RowKind.amountOf_eq_find]
    rw [hblock, cashFlowCreatesNegativeBalance] at hnegative
    change ¬ (_ ∧ Option.any _ ((applyProposalCashFlow s.portfolio cashFlow).cashBalances.find? _) = _)
      at hnegative
    change 0 ≤ (Option.map _ ((applyProposalCashFlow s.portfolio cashFlow).cashBalances.find?
      fun entry => entry.currency = cashFlow.currency)).getD 0
    cases hfind : (applyProposalCashFlow s.portfolio cashFlow).cashBalances.find?
      fun entry => entry.currency = cashFlow.currency with
    | none => exact le_refl 0
    | some entry =>
      rw [hfind] at hnegative
      simpa [cashRows] using hnegative

/-- What a cash flow adds to the cash of a currency. -/
def ProposedCashFlow.delta (cashFlow : ProposedCashFlow) (currency : String) : ℚ :=
  if currency = cashFlow.currency then cashFlow.amount else 0

theorem cashFlow_deltas (cashFlows : List ProposedCashFlow) :
    ((buildCashFlowIntents cashFlows).map .cashFlow).map
        (fun intent : ProposalOrderIntent => intent.cashDelta currency) =
      cashFlows.map fun cashFlow => cashFlow.delta currency := by
  apply List.ext_getElem
  · simp [buildCashFlowIntents]
  · intro n _ _
    simp [buildCashFlowIntents, cashFlowIntent, ProposalOrderIntent.cashDelta,
      ProposedCashFlow.delta]

theorem cash_applyCashFlow (cashFlow : ProposedCashFlow) :
    (applyCashFlow options s cashFlow).portfolio.cash currency =
      s.portfolio.cash currency + cashFlow.delta currency := by
  rw [applyCashFlow_portfolio]
  exact RowKind.amountOf_addTo

theorem failures_cashFlows (cashFlows : List ProposedCashFlow)
    (hblock : options.proposalBlockNegativeCash = true)
    (h : (cashFlows.foldl (applyCashFlow options) s).hardFailures = []) : s.hardFailures = [] := by
  induction cashFlows generalizing s with
  | nil => exact h
  | cons cashFlow cashFlows ih => exact (applyCashFlow_spec hblock (ih h)).1

/-- Cash flows that do not fail keep the cash solvent. -/
theorem solvent_cashFlows (cashFlows : List ProposedCashFlow)
    (hblock : options.proposalBlockNegativeCash = true)
    (h : (cashFlows.foldl (applyCashFlow options) s).hardFailures = [])
    (hcash : 0 ≤ s.portfolio.cash currency) :
    Solvent (s.portfolio.cash currency)
      (cashFlows.map fun cashFlow => cashFlow.delta currency) := by
  induction cashFlows generalizing s with
  | nil => exact hcash
  | cons cashFlow cashFlows ih =>
    rw [List.foldl_cons] at h
    have hnext : 0 ≤ (applyCashFlow options s cashFlow).portfolio.cash currency := by
      by_cases hcurrency : currency = cashFlow.currency
      · rw [hcurrency]
        exact (applyCashFlow_spec hblock (failures_cashFlows cashFlows hblock h)).2
      · rw [cash_applyCashFlow, ProposedCashFlow.delta, if_neg hcurrency, add_zero]
        exact hcash
    have hrest := ih h hnext
    rw [cash_applyCashFlow] at hrest
    exact ⟨hcash, hrest⟩

end CashFlows

section Failures

variable (marketData : MarketDataSnapshot) (shelf : List ShelfEntry) (options : EngineOptions)
  (baseCurrency : String)

theorem failures_securityTrade (trade : ProposedTrade) (intentId : String) (s : PlanState) :
    s.hardFailures <+: (securityTradeIntentForTrade marketData shelf options baseCurrency trade
      intentId s).2.hardFailures := by
  unfold securityTradeIntentForTrade
  split
  · exact List.prefix_refl _
  · split
    · unfold buildSupportedSecurityTradeIntent
      split
      · exact List.prefix_refl _
      · split
        · exact List.prefix_append _ _
        · exact List.prefix_refl _
    · exact List.prefix_append _ _

theorem failures_securityTrades (index : ℕ) (trades : List ProposedTrade) (s : PlanState) :
    s.hardFailures <+: (buildSecurityTradeIntents marketData shelf options baseCurrency index trades
      s).2.hardFailures := by
  induction trades generalizing index s with
  | nil => exact List.prefix_refl _
  | cons trade trades ih =>
    exact (failures_securityTrade marketData shelf options baseCurrency trade _ s).trans (ih _ _)

/-- A plan without failures had none after its cash flows. -/
theorem failures_planAfterCashFlows {request : ProposalSimulateRequest}
    {diagnostics : DiagnosticsData}
    (h : (buildSimulationIntentPlan request diagnostics).hardFailures = []) :
    (planAfterCashFlows request diagnostics).hardFailures = [] := by
  have hsells : (planAfterSells request diagnostics).hardFailures = [] :=
    (List.append_eq_nil_iff.mp h).1
  have hprefix := failures_securityTrades request.marketDataSnapshot request.shelfEntries
    request.options request.portfolioSnapshot.baseCurrency 0 request.proposedTrades
    (planAfterCashFlows request diagnostics)
  have hplanned : (buildSecurityTradeIntents request.marketDataSnapshot request.shelfEntries
    request.options request.portfolioSnapshot.baseCurrency 0 request.proposedTrades
    (planAfterCashFlows request diagnostics)).2.hardFailures = [] := hsells
  rw [hplanned] at hprefix
  exact List.prefix_nil.mp hprefix

end Failures

section Funding

namespace FundingState

/-- The currency has been sold as far as it was there, and never bought. -/
def OnlySold (s : FundingState) (start : ℚ) (currency : String) : Prop :=
  s.cash currency = start - s.sold currency ∧ 0 ≤ s.cash currency

/-- The currency was bought for what was required, after it had been sold as far as it was there;
whatever was sold since then is missing. -/
def Bought (s : FundingState) (start required : ℚ) (currency : String) : Prop :=
  currency ∉ s.unfundedCurrencies ∧ ∃ soldBefore ≤ start, ∃ units : ℕ,
    s.sold currency = soldBefore + units * minorUnit currency ∧
    s.cash currency ≤ required + minorUnit currency / 2 - units * minorUnit currency

variable {s s' : FundingState} {target currency : String} {start required : ℚ}

theorem OnlySold.step_target (hs : s.OnlySold start currency)
    (h : s.CashStep currency required currency s') (hunfunded : currency ∉ s.unfundedCurrencies) :
    s'.OnlySold start currency ∨ s'.Bought start required currency := by
  cases h with
  | kept _ cash sold =>
    left
    rw [OnlySold, cash, sold]
    exact hs
  | sold other => exact absurd rfl other
  | bought _ needed cash sold unfunded =>
    right
    refine ⟨unfunded ▸ hunfunded, s.sold currency, by linarith [hs.1, hs.2], 0, ?_, ?_⟩
    · rw [sold, Nat.cast_zero, zero_mul, add_zero]
    · have hround := (abs_le.mp (Decimal.abs_quantize_sub_le (currencyMinorUnits currency)
        (required - s.cash currency))).2
      rw [cash, Nat.cast_zero, zero_mul, sub_zero]
      unfold quantizeAmountForCurrency minorUnit
      linarith

theorem OnlySold.step (hs : s.OnlySold start currency)
    (h : s.CashStep target required currency s') (hother : currency ≠ target) :
    s'.OnlySold start currency := by
  have hnonneg := h.nonneg hs.2
  cases h with
  | kept _ cash sold =>
    rw [OnlySold, cash, sold]
    exact hs
  | sold _ units _ cash sold =>
    refine ⟨?_, hnonneg⟩
    rw [cash, sold, hs.1]
    ring
  | bought target => exact absurd target hother

theorem Bought.step {required' : ℚ} (hs : s.Bought start required currency)
    (h : s.CashStep target required' currency s') (hother : currency ≠ target)
    (hunfunded : currency ∈ s'.unfundedCurrencies → currency ∈ s.unfundedCurrencies) :
    s'.Bought start required currency := by
  obtain ⟨hnot, soldBefore, hbefore, units, hsold, hcash⟩ := hs
  refine ⟨fun hmem => hnot (hunfunded hmem), soldBefore, hbefore, ?_⟩
  cases h with
  | kept _ cash sold => exact ⟨units, by rw [sold, hsold], by rw [cash]; exact hcash⟩
  | sold _ more _ cash sold =>
    refine ⟨units + more, ?_, ?_⟩
    · rw [sold, hsold, Nat.cast_add]
      ring
    · rw [cash, Nat.cast_add]
      linarith
  | bought target => exact absurd target hother

end FundingState

open FundingState

variable (marketData : MarketDataSnapshot) (options : EngineOptions) {currency : String}
  {start required : ℚ}

/-- Funded one after another, each currency has only been sold, or was bought once. -/
theorem onlySold_or_bought (targets : List (String × ℚ)) (s : FundingState)
    (hnodup : (targets.map Prod.fst).Nodup)
    (hrequired : ∀ target ∈ targets, target.1 = currency → target.2 = required)
    (hs : s.OnlySold start currency ∨ s.Bought start required currency)
    (hlater : currency ∈ targets.map Prod.fst →
      s.OnlySold start currency ∧ currency ∉ s.unfundedCurrencies) :
    (targets.foldl (fun s target => fundTargetCurrency marketData options s target.1 target.2)
        s).OnlySold start currency ∨
      (targets.foldl (fun s target => fundTargetCurrency marketData options s target.1 target.2)
        s).Bought start required currency := by
  induction targets generalizing s with
  | nil => exact hs
  | cons target targets ih =>
    rw [List.map_cons, List.nodup_cons] at hnodup
    have hstep := fundTargetCurrency_spec marketData options s target.1 target.2
    have hcash := cashStep_of_step hstep currency
    rw [List.foldl_cons]
    by_cases htarget : currency = target.1
    · obtain ⟨hsold, hunfunded⟩ := hlater (by rw [htarget]; exact List.mem_cons_self)
      rw [← htarget, hrequired target List.mem_cons_self htarget.symm] at hcash
      refine ih _ hnodup.2 (fun other h => hrequired other (.tail _ h)) ?_ ?_
      · rw [← htarget, hrequired target List.mem_cons_self htarget.symm]
        exact hsold.step_target hcash hunfunded
      · intro hmem
        rw [htarget] at hmem
        exact absurd hmem hnodup.1
    · have hunfunded : currency ∈ (fundTargetCurrency marketData options s target.1
          target.2).unfundedCurrencies → currency ∈ s.unfundedCurrencies :=
        fun hmem => (mem_unfunded_of_step hstep hmem).resolve_right htarget
      refine ih _ hnodup.2 (fun other h => hrequired other (.tail _ h)) ?_ ?_
      · exact hs.imp (fun h => h.step hcash htarget) fun h => h.step hcash htarget hunfunded
      · intro hmem
        obtain ⟨hsold, hnot⟩ := hlater (List.mem_cons_of_mem _ hmem)
        exact ⟨hsold.step hcash htarget, fun h => hnot (hunfunded h)⟩

/-- If the buys of a currency can be paid in the end, no more of it was sold than there was before
the funding. -/
theorem sold_le_of_covered (portfolio : PortfolioSnapshot) (buys : List SecurityTradeIntent)
    (diagnostics : DiagnosticsData) (hcash : 0 ≤ portfolio.cash currency)
    (hend : currency ∉ (buildAutoFundingPlan marketData options portfolio buys
        diagnostics).unfundedCurrencies → requiredBy (buysIn buys currency) ≤
      (buildAutoFundingPlan marketData options portfolio buys diagnostics).cash currency) :
    (buildAutoFundingPlan marketData options portfolio buys diagnostics).sold currency ≤
      portfolio.cash currency := by
  have hstart : FundingState.OnlySold { portfolio, diagnostics } (portfolio.cash currency)
      currency := ⟨(sub_zero _).symm, hcash⟩
  unfold buildAutoFundingPlan at hend ⊢
  split at hend
  · next hauto =>
    rw [if_pos hauto]
    have hrequired : ∀ target ∈ fundingTargets buys, target.1 = currency →
        target.2 = requiredBy (buysIn buys currency) := by
      rintro ⟨name, required⟩ htarget rfl
      exact required_of_mem htarget
    have hspec := onlySold_or_bought marketData options (fundingTargets buys) _
      nodup_fundingTargets hrequired (.inl hstart) fun _ => ⟨hstart, List.not_mem_nil⟩
    rcases hspec with hsold | ⟨hunfunded, soldBefore, hbefore, units, hsold, hcash⟩
    · linarith [hsold.1, hsold.2]
    · have hcovered := hend hunfunded
      have hunit := minorUnit_pos currency
      have hunits : units = 0 := by
        by_contra hne
        have : (1 : ℚ) ≤ units := by exact_mod_cast Nat.one_le_iff_ne_zero.mpr hne
        nlinarith
      rw [hsold, hunits, Nat.cast_zero, zero_mul, add_zero]
      exact hbefore
  · next hauto =>
    rw [if_neg hauto]
    exact hcash

/-- What is bought and sold for funding is not negative. -/
theorem funding_nonneg (portfolio : PortfolioSnapshot) (buys : List SecurityTradeIntent)
    (diagnostics : DiagnosticsData) : ∀ intent ∈ (buildAutoFundingPlan marketData options portfolio
      buys diagnostics).fxIntents, 0 ≤ intent.buyAmount ∧ 0 ≤ intent.sellAmountEstimated := by
  unfold buildAutoFundingPlan
  split
  · refine List.foldlRecOn (motive := fun s : FundingState => ∀ intent ∈ s.fxIntents,
      0 ≤ intent.buyAmount ∧ 0 ≤ intent.sellAmountEstimated) _ _ (fun _ h => by cases h) ?_
    intro s hs target _ intent hintent
    cases fundTargetCurrency_spec marketData options s target.1 target.2 with
    | enough _ _ fxIntents => exact hs intent (fxIntents ▸ hintent)
    | unfunded _ fxIntents => exact hs intent (fxIntents ▸ hintent)
    | bought selected bought needed _ funds intent_eq _ fxIntents =>
      rw [fxIntents] at hintent
      rcases List.mem_append.mp hintent with h | h
      · exact hs intent h
      · obtain ⟨units, hunits⟩ := exists_units_sellRequired funds (sub_pos.mpr needed).le
        have hsell : 0 ≤ selected.sellRequired := by
          rw [hunits]
          exact mul_nonneg (Nat.cast_nonneg _) (minorUnit_pos _).le
        rw [List.mem_singleton.mp h, intent_eq]
        exact ⟨Decimal.quantize_nonneg (sub_pos.mpr needed).le, hsell⟩
  · intro _ h
    cases h

end Funding

section Plans

variable {request : ProposalSimulateRequest} {diagnostics : DiagnosticsData} {currency : String}

/-- The sells of a plan add to the cash, and its buys take from it. -/
theorem cashDelta_of_planned {intent : SecurityTradeIntent}
    (hprices : ∀ price ∈ request.marketDataSnapshot.prices, 0 < price.price)
    (h : intent ∈ (plannedSecurityTrades request diagnostics).1) :
    (intent.side = .sell → 0 ≤ intent.cashDelta currency) ∧
      (intent.side = .buy → intent.cashDelta currency ≤ 0) := by
  obtain ⟨⟨price, hpriced⟩, -⟩ := (planned_spec request diagnostics).2.1 intent h
  have hamount := hpriced.amount_pos (hprices price (List.mem_of_find?_eq_some hpriced.found))
  unfold SecurityTradeIntent.cashDelta
  constructor
  · intro hside
    rw [hside]
    split
    · exact hamount.le
    · exact le_refl 0
  · intro hside
    rw [hside]
    split
    · exact neg_nonpos.mpr hamount.le
    · exact le_refl 0

/-- The cash after the buys is what the funding leaves, less what the funded buys cost. -/
theorem cash_planAfterBuys (hfunded : currency ∉
      (plannedFunding request diagnostics).unfundedCurrencies) :
    (planAfterBuys request diagnostics).portfolio.cash currency =
      (plannedFunding request diagnostics).cash currency -
        requiredBy (buysIn (buyIntents request diagnostics) currency) := by
  have hbuys : ∀ intent ∈ executableBuyIntents (plannedFunding request diagnostics).unfundedCurrencies
      (buyIntents request diagnostics), intent.side = .buy :=
    fun intent h => (mem_buyIntents.mp (List.mem_filter.mp h).1).2
  have hexecutable : buysIn (executableBuyIntents (plannedFunding request diagnostics).unfundedCurrencies
      (buyIntents request diagnostics)) currency = buysIn (buyIntents request diagnostics) currency := by
    unfold buysIn executableBuyIntents
    rw [List.filter_filter]
    refine List.filter_congr fun intent _ => ?_
    by_cases h : intent.notional.currency = currency
    · simp [h, hfunded]
    · simp [h]
  rw [← hexecutable]
  exact cash_applyBuys hbuys _

/-- The cash of each currency stays solvent, if it is solvent in the end. -/
theorem solvent_plan (hprices : ∀ price ∈ request.marketDataSnapshot.prices, 0 < price.price)
    (hblock : request.options.proposalBlockNegativeCash = true)
    (hfailures : (buildSimulationIntentPlan request diagnostics).hardFailures = [])
    (hcash : 0 ≤ request.portfolioSnapshot.cash currency)
    (hend : 0 ≤ (buildSimulationIntentPlan request diagnostics).afterPortfolio.cash currency) :
    Solvent (request.portfolioSnapshot.cash currency)
      ((buildSimulationIntentPlan request diagnostics).intents.map
        fun intent => intent.cashDelta currency) := by
  have hcashFlows := solvent_cashFlows request.proposedCashFlows hblock
    (failures_planAfterCashFlows hfailures) hcash
  rw [← cashFlow_deltas] at hcashFlows
  have hsells : Solvent ((planAfterCashFlows request diagnostics).portfolio.cash currency)
      (((sellIntents request diagnostics).map ProposalOrderIntent.securityTrade).map
        fun intent => intent.cashDelta currency) := by
    apply solvent_of_nonneg
    · rw [← (changed_planCashFlows request diagnostics).cash_eq]
      exact hcashFlows.end_nonneg
    · intro delta hdelta
      rw [List.map_map] at hdelta
      obtain ⟨sell, hsell, rfl⟩ := List.mem_map.mp hdelta
      obtain ⟨hplanned, hside⟩ := mem_sellIntents.mp hsell
      exact (cashDelta_of_planned hprices hplanned).1 hside
  have hafterSells := hsells.end_nonneg
  rw [(changed_planSells request diagnostics).cash_eq] at hafterSells
  have hsold : (plannedFunding request diagnostics).sold currency ≤
      (planAfterSells request diagnostics).portfolio.cash currency := by
    refine sold_le_of_covered _ _ _ _ _ hafterSells fun hfunded => ?_
    have hafter : 0 ≤ (planAfterBuys request diagnostics).portfolio.cash currency := hend
    rw [cash_planAfterBuys hfunded] at hafter
    exact sub_nonneg.mp hafter
  rw [intents_eq, List.map_append, List.map_append, List.map_append, solvent_append, solvent_append,
    solvent_append, (changed_planCashFlows request diagnostics).cash_eq,
    (changed_planSells request diagnostics).cash_eq,
    (changed_planFunding request diagnostics).cash_eq]
  refine ⟨hcashFlows, hsells, ?_, ?_⟩
  · rw [List.map_map]
    apply solvent_of_spent _ fun intent => intent.sold currency
    · have hperm := (List.perm_insertionSort (fun a b : FxSpotIntent => a.pair ≤ b.pair)
        (plannedFunding request diagnostics).fxIntents).map fun intent => intent.sold currency
      rw [hperm.sum_eq]
      exact hsold
    · intro intent hintent
      rw [List.mem_insertionSort] at hintent
      obtain ⟨hbuy, hsell⟩ := funding_nonneg _ _ _ _ _ intent hintent
      have hbought : 0 ≤ intent.bought currency := by
        unfold FxSpotIntent.bought
        split
        · exact hbuy
        · exact le_refl 0
      have hsold : 0 ≤ intent.sold currency := by
        unfold FxSpotIntent.sold
        split
        · exact hsell
        · exact le_refl 0
      refine ⟨hsold, ?_⟩
      change -intent.sold currency ≤ intent.cashDelta currency
      rw [intent.cashDelta_eq]
      linarith
  · apply solvent_of_nonpos
    · rw [(changed_planBuys request diagnostics).cash_eq]
      exact hend
    · intro delta hdelta
      rw [List.map_map] at hdelta
      obtain ⟨intent, hintent, rfl⟩ := List.mem_map.mp hdelta
      obtain ⟨buy, hbuy, dependencies, rfl, -⟩ := exists_of_mem_linkedBuyIntents hintent
      obtain ⟨hplanned, hside⟩ := mem_buyIntents.mp hbuy
      exact (cashDelta_of_planned hprices hplanned).2 hside

end Plans

section Simulation

variable (request : ProposalSimulateRequest)

theorem nonneg_of_allocatedPositions {portfolio : PortfolioSnapshot} {marketData : MarketDataSnapshot}
    {shelf : List ShelfEntry} {mode : ValuationMode}
    (h : ∀ position ∈ (buildSimulatedState portfolio marketData shelf mode).positions,
      0 ≤ position.quantity) : ∀ position ∈ portfolio.positions, 0 ≤ position.quantity := by
  intro position hposition
  have hquantity : (valuePosition marketData portfolio.baseCurrency mode position).quantity =
      position.quantity := by
    unfold valuePosition trustSnapshotPositionValue
    split
    · dsimp only
      split <;> rfl
    · rfl
  have hsummary := h _ (List.mem_map_of_mem (List.mem_map_of_mem hposition))
  exact hquantity ▸ hsummary

/-- The orders of a plan that is not blocked can be executed one after another: cash is never
negative, and no position is in the end. -/
theorem plans_solvent (hprices : ∀ price ∈ request.marketDataSnapshot.prices, 0 < price.price)
    (hcash : ∀ balance ∈ request.portfolioSnapshot.cashBalances, 0 ≤ balance.amount)
    (hblock : request.options.proposalBlockNegativeCash = true)
    (hstatus : (runProposalSimulation request).status ≠ .blocked) :
    (∀ earlier, earlier <+: (runProposalSimulation request).intents →
      ∀ balance ∈ (executeIntents request.portfolioSnapshot earlier).cashBalances,
        0 ≤ balance.amount) ∧
      ∀ position ∈ (executeIntents request.portfolioSnapshot
        (runProposalSimulation request).intents).positions, 0 ≤ position.quantity := by
  obtain ⟨hpositions, hbalances, hfailures⟩ := nonneg_of_not_blocked hstatus
  have hintents : (runProposalSimulation request).intents = (simulatedPlan request).intents := rfl
  rw [hintents]
  by_cases hnil : (simulatedPlan request).intents = []
  · rw [simulatedAfter, if_pos hnil] at hpositions
    rw [hnil]
    refine ⟨fun earlier hearlier => ?_, nonneg_of_allocatedPositions hpositions⟩
    rw [List.prefix_nil.mp hearlier]
    exact hcash
  · rw [simulatedAfter, if_neg hnil] at hpositions hbalances
    have hplan : Changed (simulatedPlan request).intents request.portfolioSnapshot
      (simulatedPlan request).afterPortfolio := changed_plan _ _
    rw [PortfolioSnapshot.cash_nonneg_iff] at hcash
    have hend := PortfolioSnapshot.cash_nonneg_iff.mp hbalances
    constructor
    · intro earlier hearlier
      have hexecuted := changed_foldl earlier request.portfolioSnapshot
      rw [PortfolioSnapshot.cash_nonneg_iff]
      intro currency i
      rw [executeIntents, hexecuted.cash]
      split
      · next hi =>
        have hsolvent := solvent_plan hprices hblock hfailures (hcash currency 0) (hend currency 0)
        rw [hi]
        exact solvent_iff_prefixes.mp hsolvent _ (hearlier.map _)
      · rw [add_zero]
        exact hcash currency i
    · have hexecuted := changed_foldl (simulatedPlan request).intents request.portfolioSnapshot
      rw [PortfolioSnapshot.quantity_nonneg_iff]
      intro instrumentId i
      rw [executeIntents, hexecuted.positions, ← hplan.positions]
      have hafter := nonneg_of_allocatedPositions hpositions
      exact PortfolioSnapshot.quantity_nonneg_iff.mp hafter instrumentId i

end Simulation

namespace FundedSample

theorem plans_solvent_funded :
    (∀ earlier, earlier <+: (runProposalSimulation request).intents →
      ∀ balance ∈ (executeIntents request.portfolioSnapshot earlier).cashBalances,
        0 ≤ balance.amount) ∧
      ∀ position ∈ (executeIntents request.portfolioSnapshot
        (runProposalSimulation request).intents).positions, 0 ≤ position.quantity :=
  plans_solvent request (by decide +kernel) (by decide +kernel) rfl (by decide +kernel)

end FundedSample

end LotusAdvise.Advisory

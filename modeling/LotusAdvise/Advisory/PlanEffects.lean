import LotusAdvise.Advisory.IntentPlan

/-! # What the phases of a plan do

Each phase changes the first rows of currencies and instruments by the deltas of its orders,
and the value of the cash by their amounts at the rates of their currencies.
-/

namespace LotusAdvise.Advisory

open PortfolioSnapshot

/-- The portfolio after a phase: each row, and each weighted sum of the rows, has changed by what
the orders add. -/
structure Changed (intents : List ProposalOrderIntent) (portfolio portfolio' : PortfolioSnapshot) :
    Prop where
  baseCurrency : portfolio'.baseCurrency = portfolio.baseCurrency
  cash : ∀ currency i, cashRows.cell portfolio'.cashBalances currency i =
    cashRows.cell portfolio.cashBalances currency i +
      if i = 0 then (intents.map fun intent => intent.cashDelta currency).sum else 0
  positions : ∀ instrumentId i, positionRows.cell portfolio'.positions instrumentId i =
    positionRows.cell portfolio.positions instrumentId i +
      if i = 0 then (intents.map fun intent => intent.quantityDelta instrumentId).sum else 0
  cashTotal : ∀ weight : String → ℚ, cashRows.total weight portfolio'.cashBalances =
    cashRows.total weight portfolio.cashBalances +
      (intents.map fun intent => intent.cashTotal weight).sum
  quantityTotal : ∀ weight : String → ℚ, positionRows.total weight portfolio'.positions =
    positionRows.total weight portfolio.positions +
      (intents.map fun intent => intent.quantityTotal weight).sum

section Changes

variable {intents intents' : List ProposalOrderIntent}
  {portfolio portfolio' portfolio'' : PortfolioSnapshot}

theorem Changed.of_same (h : portfolio.SameRows portfolio') : Changed [] portfolio portfolio' where
  baseCurrency := h.baseCurrency
  cash currency i := by simp [h.cells]
  positions instrumentId i := by simp [h.positions]
  cashTotal weight := by simp [h.totals]
  quantityTotal weight := by simp [h.positions]

theorem Changed.trans (h : Changed intents portfolio portfolio')
    (h' : Changed intents' portfolio' portfolio'') :
    Changed (intents ++ intents') portfolio portfolio'' where
  baseCurrency := h'.baseCurrency.trans h.baseCurrency
  cash currency i := by
    rw [h'.cash, h.cash, List.map_append, List.sum_append, add_assoc]
    by_cases hi : i = 0 <;> simp [hi]
  positions instrumentId i := by
    rw [h'.positions, h.positions, List.map_append, List.sum_append, add_assoc]
    by_cases hi : i = 0 <;> simp [hi]
  cashTotal weight := by
    rw [h'.cashTotal, h.cashTotal, List.map_append, List.sum_append, add_assoc]
  quantityTotal weight := by
    rw [h'.quantityTotal, h.quantityTotal, List.map_append, List.sum_append, add_assoc]

theorem Changed.cash_eq (h : Changed intents portfolio portfolio') (currency : String) :
    portfolio.cash currency + (intents.map fun intent => intent.cashDelta currency).sum =
      portfolio'.cash currency := by
  have hcash := h.cash currency 0
  rw [if_pos rfl] at hcash
  exact hcash.symm

theorem changed_applyTo (intent : ProposalOrderIntent) :
    Changed [intent] portfolio (intent.applyTo portfolio) where
  baseCurrency := by
    cases intent with
    | cashFlow | fxSpot => rfl
    | securityTrade intent =>
      change (applySecurityTradeToPortfolio portfolio intent).baseCurrency = _
      unfold applySecurityTradeToPortfolio
      split <;> rfl
  cash currency i := by simp [cashCell_applyTo]
  positions instrumentId i := by simp [positionCell_applyTo]
  cashTotal weight := by simp [cashTotal_applyTo]
  quantityTotal weight := by simp [quantityTotal_applyTo]

/-- Executed orders change the rows by their deltas. -/
theorem changed_foldl (intents : List ProposalOrderIntent) (portfolio : PortfolioSnapshot) :
    Changed intents portfolio
      (intents.foldl (fun portfolio intent => intent.applyTo portfolio) portfolio) := by
  induction intents generalizing portfolio with
  | nil => exact .of_same .refl
  | cons intent intents ih => exact (changed_applyTo intent).trans (ih _)

/-- The order of the orders does not matter for the change. -/
theorem Changed.perm (h : Changed intents portfolio portfolio') (hperm : intents.Perm intents') :
    Changed intents' portfolio portfolio' where
  baseCurrency := h.baseCurrency
  cash currency i := by rw [h.cash, (hperm.map _).sum_eq]
  positions instrumentId i := by rw [h.positions, (hperm.map _).sum_eq]
  cashTotal weight := by rw [h.cashTotal, (hperm.map _).sum_eq]
  quantityTotal weight := by rw [h.quantityTotal, (hperm.map _).sum_eq]

end Changes

section Phases

variable {marketData : MarketDataSnapshot} {options : EngineOptions} {portfolio : PortfolioSnapshot}

theorem applyCashFlow_portfolio (s : PlanState) (cashFlow : ProposedCashFlow) :
    (applyCashFlow options s cashFlow).portfolio = applyProposalCashFlow s.portfolio cashFlow := by
  unfold applyCashFlow recordNegativeCashFailureIfNeeded
  split <;> rfl

theorem changed_applyCashFlow (s : PlanState) (cashFlow : ProposedCashFlow) (index : ℕ) :
    Changed [.cashFlow (cashFlowIntent cashFlow index)] s.portfolio
      (applyCashFlow options s cashFlow).portfolio := by
  rw [applyCashFlow_portfolio]
  exact changed_applyTo (.cashFlow (cashFlowIntent cashFlow index))

theorem changed_cashFlows (start : ℕ) (cashFlows : List ProposedCashFlow) (s : PlanState) :
    Changed ((cashFlows.mapIdx fun index cashFlow =>
        cashFlowIntent cashFlow (start + index)).map .cashFlow) s.portfolio
      (cashFlows.foldl (applyCashFlow options) s).portfolio := by
  induction cashFlows generalizing start s with
  | nil => exact .of_same .refl
  | cons cashFlow cashFlows ih =>
    rw [List.mapIdx_cons, List.map_cons, List.foldl_cons]
    have h := (changed_applyCashFlow s cashFlow start).trans
      (ih (start + 1) (applyCashFlow options s cashFlow))
    simpa only [Nat.add_assoc, Nat.add_comm 1, List.singleton_append, Nat.add_zero] using h

theorem changed_securityTrades (trades : List SecurityTradeIntent) (portfolio : PortfolioSnapshot) :
    Changed (trades.map .securityTrade) portfolio
      (trades.foldl applySecurityTradeToPortfolio portfolio) := by
  have h := changed_foldl (trades.map .securityTrade) portfolio
  rwa [List.foldl_map] at h

theorem changed_step {s s' : FundingState} {target : String} {required : ℚ}
    (h : s.Step marketData options target required s') :
    ∃ fxIntents, s'.fxIntents = s.fxIntents ++ fxIntents ∧
      Changed (fxIntents.map .fxSpot) s.portfolio s'.portfolio := by
  cases h with
  | enough _ rows fxIntents => exact ⟨[], by rw [fxIntents, List.append_nil], .of_same rows⟩
  | unfunded rows fxIntents => exact ⟨[], by rw [fxIntents, List.append_nil], .of_same rows⟩
  | bought selected intent needed other funds intent_eq rows fxIntents =>
    have hchanged : Changed [.fxSpot intent] s.portfolio (applyFxSpotToPortfolio s.portfolio intent) :=
      changed_applyTo (.fxSpot intent)
    have h := hchanged.trans (.of_same rows)
    exact ⟨[intent], fxIntents, h⟩

theorem changed_funding (marketData : MarketDataSnapshot) (options : EngineOptions)
    (targets : List (String × ℚ)) (s : FundingState) :
    ∃ fxIntents, (targets.foldl (fun s target =>
        fundTargetCurrency marketData options s target.1 target.2) s).fxIntents =
          s.fxIntents ++ fxIntents ∧
      Changed (fxIntents.map .fxSpot) s.portfolio (targets.foldl (fun s target =>
        fundTargetCurrency marketData options s target.1 target.2) s).portfolio := by
  induction targets generalizing s with
  | nil => exact ⟨[], by rw [List.foldl_nil, List.append_nil], .of_same .refl⟩
  | cons target targets ih =>
    obtain ⟨first, hfirst, hchanged⟩ := changed_step
      (fundTargetCurrency_spec marketData options s target.1 target.2)
    obtain ⟨rest, hrest, hchanged'⟩ := ih (fundTargetCurrency marketData options s target.1 target.2)
    refine ⟨first ++ rest, ?_, ?_⟩
    · rw [List.foldl_cons, hrest, hfirst, List.append_assoc]
    · rw [List.map_append]
      exact hchanged.trans hchanged'

/-- The currency trades of a plan are what its funding changes. -/
theorem changed_autoFunding (marketData : MarketDataSnapshot) (options : EngineOptions)
    (portfolio : PortfolioSnapshot) (buys : List SecurityTradeIntent)
    (diagnostics : DiagnosticsData) :
    Changed ((buildAutoFundingPlan marketData options portfolio buys diagnostics).fxIntents.map
        .fxSpot) portfolio
      (buildAutoFundingPlan marketData options portfolio buys diagnostics).portfolio := by
  unfold buildAutoFundingPlan
  split
  · obtain ⟨fxIntents, hfx, hchanged⟩ := changed_funding marketData options (fundingTargets buys)
      { portfolio, diagnostics }
    rw [hfx, List.nil_append]
    exact hchanged
  · exact .of_same .refl

end Phases

section Trades

variable (marketData : MarketDataSnapshot) (shelf : List ShelfEntry) (options : EngineOptions)
  (baseCurrency : String)

/-- A trade of a plan has the price of its instrument. -/
structure SecurityTradeIntent.PricedAt (marketData : MarketDataSnapshot) (intent : SecurityTradeIntent)
    (price : Price) : Prop where
  found : priceFor marketData intent.instrumentId = some price
  currency : intent.notional.currency = price.currency
  amount : price.price ≠ 0 → intent.notional.amount = intent.quantity * price.price
  quantity_pos : 0 < price.price → 0 < intent.quantity
  amount_pos : 0 < price.price → 0 < intent.notional.amount
  dependencies : intent.dependencies = []

theorem resolveTradeNotional_spec {trade : ProposedTrade} {price : Price} {quantity amount : ℚ}
    (h : resolveTradeNotional trade price = some (quantity, amount)) :
    (price.price ≠ 0 → amount = quantity * price.price) ∧
      (0 < price.price → 0 < quantity ∧ 0 < amount) := by
  unfold resolveTradeNotional at h
  split at h
  · next size positive _ =>
    obtain ⟨rfl, rfl⟩ := Prod.mk.inj (Option.some.inj h)
    exact ⟨fun _ => rfl, fun hprice => ⟨positive, mul_pos positive hprice⟩⟩
  · next notional positive _ =>
    split at h
    · cases h
    · obtain ⟨rfl, rfl⟩ := Prod.mk.inj (Option.some.inj h)
      exact ⟨fun hprice => (div_mul_cancel₀ _ hprice).symm,
        fun hprice => ⟨div_pos positive hprice, positive⟩⟩

theorem buildSupported_spec (trade : ProposedTrade) (intentId : String) (s : PlanState) :
    (buildSupportedSecurityTradeIntent marketData baseCurrency trade intentId s).2.portfolio =
        s.portfolio ∧
      ∀ intent ∈ (buildSupportedSecurityTradeIntent marketData baseCurrency trade intentId s).1,
        intent.intentId = intentId ∧ ∃ price, intent.PricedAt marketData price := by
  unfold buildSupportedSecurityTradeIntent
  split
  · exact ⟨rfl, fun _ h => by cases h⟩
  · next price hprice =>
    split
    · exact ⟨rfl, fun _ h => by cases h⟩
    · next quantity amount hresolved =>
      obtain ⟨hamount, hpositive⟩ := resolveTradeNotional_spec hresolved
      refine ⟨rfl, ?_⟩
      rintro intent ⟨⟩
      exact ⟨rfl, price, hprice, rfl, hamount, fun h => (hpositive h).1, fun h => (hpositive h).2,
        rfl⟩

theorem securityTradeIntentForTrade_spec (trade : ProposedTrade) (intentId : String)
    (s : PlanState) :
    (securityTradeIntentForTrade marketData shelf options baseCurrency trade intentId s).2.portfolio =
        s.portfolio ∧
      ∀ intent ∈ (securityTradeIntentForTrade marketData shelf options baseCurrency trade intentId
          s).1,
        intent.intentId = intentId ∧ ∃ price, intent.PricedAt marketData price := by
  unfold securityTradeIntentForTrade
  split
  · exact ⟨rfl, fun _ h => by cases h⟩
  · split
    · exact buildSupported_spec marketData baseCurrency trade intentId s
    · exact ⟨rfl, fun _ h => by cases h⟩

def tradeIntentId (number : ℕ) : String := "oi_" ++ number.repr

/-- The trades of a plan are priced, and numbered in the order of the proposal. -/
theorem buildSecurityTradeIntents_spec (index : ℕ) (trades : List ProposedTrade) (s : PlanState) :
    let built := buildSecurityTradeIntents marketData shelf options baseCurrency index trades s
    built.2.portfolio = s.portfolio ∧
      (∀ intent ∈ built.1, (∃ price, intent.PricedAt marketData price) ∧
        ∃ number > index, intent.intentId = tradeIntentId number) ∧
      (built.1.map SecurityTradeIntent.intentId).Nodup := by
  induction trades generalizing index s with
  | nil => exact ⟨rfl, fun _ h => (by cases h), List.nodup_nil⟩
  | cons trade trades ih =>
    dsimp only [buildSecurityTradeIntents]
    obtain ⟨hportfolio, hfirst⟩ := securityTradeIntentForTrade_spec marketData shelf options
      baseCurrency trade ("oi_" ++ (index + 1).repr) s
    obtain ⟨hrest, hintents, hnodup⟩ := ih (index + 1)
      (securityTradeIntentForTrade marketData shelf options baseCurrency trade
        ("oi_" ++ (index + 1).repr) s).2
    refine ⟨hrest.trans hportfolio, fun intent hintent => ?_, ?_⟩
    · rcases List.mem_append.mp hintent with h | h
      · obtain ⟨hid, hpriced⟩ := hfirst intent (Option.mem_toList.mp h)
        exact ⟨hpriced, index + 1, Nat.lt_succ_self index, hid⟩
      · obtain ⟨hpriced, number, hnumber, hid⟩ := hintents intent h
        exact ⟨hpriced, number, by omega, hid⟩
    · cases hbuilt : (securityTradeIntentForTrade marketData shelf options baseCurrency trade
        ("oi_" ++ (index + 1).repr) s).1 with
      | none => exact hnodup
      | some intent =>
        rw [Option.toList_some, List.singleton_append, List.map_cons, List.nodup_cons]
        refine ⟨fun hmem => ?_, hnodup⟩
        obtain ⟨later, hlater, heq⟩ := List.mem_map.mp hmem
        obtain ⟨-, number, hnumber, hid⟩ := hintents later hlater
        rw [hid, (hfirst intent hbuilt).1] at heq
        have := Text.numbered_injective "oi_" heq
        omega

end Trades

end LotusAdvise.Advisory

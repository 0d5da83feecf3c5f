import LotusAdvise.Advisory.PlanEffects

/-! # Executing a plan

The orders of a plan have different identifiers, each comes after the orders that it depends
on, and executed in their order they lead from the portfolio to the one of the plan.
-/

namespace LotusAdvise.Advisory

section Linking

theorem exists_appendDependency_eq (intent : SecurityTradeIntent) (dependency : Option String) :
    ∃ dependencies, intent.appendDependency dependency = { intent with dependencies } ∧
      ∀ id ∈ dependencies, id ∈ intent.dependencies ∨ dependency = some id := by
  unfold SecurityTradeIntent.appendDependency
  split
  · exact ⟨intent.dependencies, rfl, fun _ h => .inl h⟩
  · split
    · exact ⟨intent.dependencies, rfl, fun _ h => .inl h⟩
    · refine ⟨_, rfl, fun id hid => ?_⟩
      rcases List.mem_append.mp hid with h | h
      · exact .inl h
      · exact .inr (congrArg some (List.mem_singleton.mp h).symm)

/-- A linked buy is the buy, with what funds it among its dependencies. -/
theorem exists_linkBuyIntent_eq (fxIds : Dict String String) (sells : List SecurityTradeIntent)
    (includeSells : Bool) (intent : SecurityTradeIntent) :
    ∃ dependencies, linkBuyIntent fxIds sells includeSells intent = { intent with dependencies } ∧
      ∀ id ∈ dependencies, id ∈ intent.dependencies ∨
        Dict.get? fxIds intent.notional.currency = some id ∨
        sellIntentIdByCurrency sells intent.notional.currency = some id := by
  obtain ⟨linked, hlinked, hfx⟩ := exists_appendDependency_eq intent
    (Dict.get? fxIds intent.notional.currency)
  unfold linkBuyIntent
  dsimp only
  split
  · obtain ⟨both, hboth, hsell⟩ := exists_appendDependency_eq { intent with dependencies := linked }
      (sellIntentIdByCurrency sells intent.notional.currency)
    refine ⟨both, by rw [hlinked, hboth], fun id hid => ?_⟩
    rcases hsell id hid with h | h
    · rcases hfx id h with h | h
      · exact .inl h
      · exact .inr (.inl h)
    · exact .inr (.inr h)
  · refine ⟨linked, hlinked, fun id hid => ?_⟩
    rcases hfx id hid with h | h
    · exact .inl h
    · exact .inr (.inl h)

/-- The last sell of a currency is one of the sells. -/
theorem mem_of_sellIntentIdByCurrency {sells : List SecurityTradeIntent} {currency id : String}
    (h : sellIntentIdByCurrency sells currency = some id) : ∃ sell ∈ sells, sell.intentId = id := by
  obtain ⟨sell, hsell, heq⟩ := List.mem_map.mp (Dict.mem_ofItems (Dict.mem_of_get? h))
  exact ⟨sell, hsell, congrArg Prod.snd heq⟩

end Linking

section Order

/-- Orders of one kind, before orders that come later in the execution. -/
theorem pairwise_rank_append {kind later : List ProposalOrderIntent} {rank : ℕ}
    (hkind : ∀ intent ∈ kind, executionRank intent = rank)
    (hlater : ∀ intent ∈ later, rank ≤ executionRank intent)
    (h : later.Pairwise fun a b => executionRank a ≤ executionRank b) :
    (kind ++ later).Pairwise fun a b => executionRank a ≤ executionRank b := by
  refine List.pairwise_append.mpr ⟨?_, h, fun a ha b hb => (hkind a ha).le.trans (hlater b hb)⟩
  refine List.pairwise_of_forall_mem_list fun a ha b hb => ?_
  rw [hkind a ha, hkind b hb]

/-- The orders of a plan come kind by kind: they are in the order of their execution already. -/
theorem orderedExecutionIntents_eq {cashFlows : List CashFlowIntent} {fxs : List FxSpotIntent}
    {sells buys : List SecurityTradeIntent} (hsells : ∀ intent ∈ sells, intent.side = .sell)
    (hbuys : ∀ intent ∈ buys, intent.side = .buy) :
    orderedExecutionIntents cashFlows sells fxs buys =
      cashFlows.map .cashFlow ++ (sells.map .securityTrade ++
        ((fxs.insertionSort fun a b => a.pair ≤ b.pair).map .fxSpot ++ buys.map .securityTrade)) := by
  have hcash : ∀ intent ∈ cashFlows.map ProposalOrderIntent.cashFlow, executionRank intent = 0 := by
    rintro _ h
    obtain ⟨intent, -, rfl⟩ := List.mem_map.mp h
    rfl
  have hsell : ∀ intent ∈ sells.map ProposalOrderIntent.securityTrade, executionRank intent = 1 := by
    rintro _ h
    obtain ⟨intent, hintent, rfl⟩ := List.mem_map.mp h
    exact if_pos (hsells intent hintent)
  have hfx : ∀ intent ∈ (fxs.insertionSort fun a b => a.pair ≤ b.pair).map
      ProposalOrderIntent.fxSpot, executionRank intent = 2 := by
    rintro _ h
    obtain ⟨intent, -, rfl⟩ := List.mem_map.mp h
    rfl
  have hbuy : ∀ intent ∈ buys.map ProposalOrderIntent.securityTrade, executionRank intent = 3 := by
    rintro _ h
    obtain ⟨intent, hintent, rfl⟩ := List.mem_map.mp h
    exact if_neg (by rw [hbuys intent hintent]; decide)
  rw [orderedExecutionIntents, sortExecutionIntents, List.append_assoc, List.append_assoc]
  apply List.Pairwise.insertionSort_eq
  have hbuys' : (buys.map ProposalOrderIntent.securityTrade).Pairwise
      fun a b => executionRank a ≤ executionRank b := by
    refine List.pairwise_of_forall_mem_list fun a ha b hb => ?_
    rw [hbuy a ha, hbuy b hb]
  refine pairwise_rank_append hcash (fun _ _ => Nat.zero_le _)
    (pairwise_rank_append hsell ?_ (pairwise_rank_append hfx ?_ hbuys'))
  · intro intent h
    rcases List.mem_append.mp h with h | h
    · rw [hfx intent h]; decide
    · rw [hbuy intent h]; decide
  · intro intent h
    rw [hbuy intent h]; decide

variable (request : ProposalSimulateRequest) (diagnostics : DiagnosticsData)

theorem planned_spec :
    (plannedSecurityTrades request diagnostics).2.portfolio =
        (planAfterCashFlows request diagnostics).portfolio ∧
      (∀ intent ∈ (plannedSecurityTrades request diagnostics).1,
        (∃ price, intent.PricedAt request.marketDataSnapshot price) ∧
          ∃ number > 0, intent.intentId = tradeIntentId number) ∧
      ((plannedSecurityTrades request diagnostics).1.map SecurityTradeIntent.intentId).Nodup :=
  buildSecurityTradeIntents_spec _ _ _ _ 0 _ _

variable {request} {diagnostics} {intent : SecurityTradeIntent}

theorem mem_sellIntents : intent ∈ sellIntents request diagnostics ↔
    intent ∈ (plannedSecurityTrades request diagnostics).1 ∧ intent.side = .sell := by
  rw [sellIntents, sortedSecurityIntentsByInstrument, List.mem_insertionSort, List.mem_filter,
    decide_eq_true_eq]

theorem mem_buyIntents : intent ∈ buyIntents request diagnostics ↔
    intent ∈ (plannedSecurityTrades request diagnostics).1 ∧ intent.side = .buy := by
  rw [buyIntents, sortedSecurityIntentsByInstrument, List.mem_insertionSort, List.mem_filter,
    decide_eq_true_eq]

/-- A buy of the plan is a planned buy, up to its dependencies. -/
theorem exists_of_mem_linkedBuyIntents (h : intent ∈ linkedBuyIntents request diagnostics) :
    ∃ buy ∈ buyIntents request diagnostics, ∃ dependencies, intent = { buy with dependencies } ∧
      ∀ id ∈ dependencies,
        Dict.get? (plannedFunding request diagnostics).fxByCurrency buy.notional.currency = some id ∨
        sellIntentIdByCurrency (sellIntents request diagnostics) buy.notional.currency = some id := by
  obtain ⟨buy, hbuy, rfl⟩ := List.mem_map.mp h
  have hbuy := (List.mem_filter.mp hbuy).1
  obtain ⟨dependencies, heq, hdependencies⟩ := exists_linkBuyIntent_eq
    (plannedFunding request diagnostics).fxByCurrency (sellIntents request diagnostics)
    (request.options.linkBuyToSameCurrencySellDependency.getD false) buy
  refine ⟨buy, hbuy, dependencies, heq, fun id hid => ?_⟩
  obtain ⟨⟨price, hpriced⟩, -⟩ := (planned_spec request diagnostics).2.1 buy (mem_buyIntents.mp hbuy).1
  rcases hdependencies id hid with h | h
  · rw [hpriced.dependencies] at h
    cases h
  · exact h

theorem intents_eq : (buildSimulationIntentPlan request diagnostics).intents =
    (buildCashFlowIntents request.proposedCashFlows).map .cashFlow ++
      ((sellIntents request diagnostics).map .securityTrade ++
        (((plannedFunding request diagnostics).fxIntents.insertionSort fun a b => a.pair ≤ b.pair).map
          .fxSpot ++ (linkedBuyIntents request diagnostics).map .securityTrade)) := by
  refine orderedExecutionIntents_eq (fun intent h => (mem_sellIntents.mp h).2) fun intent h => ?_
  obtain ⟨buy, hbuy, dependencies, rfl, -⟩ := exists_of_mem_linkedBuyIntents h
  exact (mem_buyIntents.mp hbuy).2

end Order

section Identifiers

/-- The currency trades are numbered, and what funds a currency is one of them. -/
structure FundingState.Numbered (s : FundingState) : Prop where
  ids : s.fxIntents.map FxSpotIntent.intentId =
    (List.range s.fxIntents.length).map fun n => "oi_fx_" ++ (n + 1).repr
  dependencies : ∀ intent ∈ s.fxIntents, intent.dependencies = []
  funding : ∀ currency id, Dict.get? s.fxByCurrency currency = some id →
    ∃ intent ∈ s.fxIntents, intent.intentId = id

variable {marketData : MarketDataSnapshot} {options : EngineOptions} {s s' : FundingState}
  {targetCurrency : String} {required : ℚ}

theorem FundingState.Numbered.congr (hs : s.Numbered) (hfx : s'.fxIntents = s.fxIntents)
    (hids : s'.fxByCurrency = s.fxByCurrency) : s'.Numbered where
  ids := by rw [hfx, hs.ids]
  dependencies intent h := hs.dependencies intent (hfx ▸ h)
  funding currency id h := by
    rw [hids] at h
    rw [hfx]
    exact hs.funding currency id h

theorem numbered_step (hs : s.Numbered) (h : s.Step marketData options targetCurrency required s') :
    s'.Numbered := by
  cases h with
  | enough _ _ hfx hids _ => exact hs.congr hfx hids
  | unfunded _ hfx hids _ => exact hs.congr hfx hids
  | bought selected intent _ _ _ hintent _ hfx hids _ =>
    refine ⟨?_, ?_, ?_⟩
    · rw [hfx, List.map_append, hs.ids, List.length_append, List.length_singleton,
        List.range_succ, List.map_append, hintent]
      rfl
    · intro other h
      rw [hfx] at h
      rcases List.mem_append.mp h with h | h
      · exact hs.dependencies other h
      · rw [List.mem_singleton.mp h, hintent]
        rfl
    · intro currency id h
      rw [hids, Dict.get?_set] at h
      rw [hfx]
      split at h
      · exact ⟨intent, List.mem_append_right _ List.mem_cons_self, Option.some.inj h⟩
      · obtain ⟨other, hother, hid⟩ := hs.funding currency id h
        exact ⟨other, List.mem_append_left _ hother, hid⟩

theorem numbered_funding (marketData : MarketDataSnapshot) (options : EngineOptions)
    (targets : List (String × ℚ)) (hs : s.Numbered) :
    (targets.foldl (fun s target =>
      fundTargetCurrency marketData options s target.1 target.2) s).Numbered := by
  induction targets generalizing s with
  | nil => exact hs
  | cons target targets ih =>
    exact ih (numbered_step hs (fundTargetCurrency_spec marketData options s target.1 target.2))

theorem numbered_autoFunding (marketData : MarketDataSnapshot) (options : EngineOptions)
    (portfolio : PortfolioSnapshot) (buys : List SecurityTradeIntent)
    (diagnostics : DiagnosticsData) :
    (buildAutoFundingPlan marketData options portfolio buys diagnostics).Numbered := by
  have hstart : FundingState.Numbered { portfolio, diagnostics } :=
    ⟨rfl, fun _ h => (by cases h), fun _ _ h => by cases h⟩
  unfold buildAutoFundingPlan
  split
  · exact numbered_funding marketData options (fundingTargets buys) hstart
  · exact hstart

variable (request : ProposalSimulateRequest) (diagnostics : DiagnosticsData)

theorem cashFlowIds : (buildCashFlowIntents request.proposedCashFlows).map
    CashFlowIntent.intentId = (List.range request.proposedCashFlows.length).map
      fun n => "oi_cf_" ++ (n + 1).repr := by
  apply List.ext_getElem
  · simp [buildCashFlowIntents]
  · intro n _ _
    simp [buildCashFlowIntents, cashFlowIntent]

theorem nodup_numbered (mark : String) (n : ℕ) :
    ((List.range n).map fun n => mark ++ (n + 1).repr).Nodup :=
  List.nodup_range.map fun a b h => by
    have := Text.numbered_injective mark h
    omega

theorem fundingIds : ((plannedFunding request diagnostics).fxIntents.map
    FxSpotIntent.intentId).Nodup := by
  rw [plannedFunding, (numbered_autoFunding _ _ _ _ _).ids]
  exact nodup_numbered "oi_fx_" _

/-- The identifiers of the security trades, sells first. -/
theorem tradeIds : ((sellIntents request diagnostics ++ linkedBuyIntents request diagnostics).map
    SecurityTradeIntent.intentId).Nodup := by
  have hids := (planned_spec request diagnostics).2.2
  have hlinked : (linkedBuyIntents request diagnostics).map SecurityTradeIntent.intentId =
      (executableBuyIntents (plannedFunding request diagnostics).unfundedCurrencies
        (buyIntents request diagnostics)).map SecurityTradeIntent.intentId := by
    rw [linkedBuyIntents, List.map_map]
    refine List.map_congr_left fun intent _ => ?_
    obtain ⟨dependencies, heq, -⟩ := exists_linkBuyIntent_eq
      (plannedFunding request diagnostics).fxByCurrency (sellIntents request diagnostics)
      (request.options.linkBuyToSameCurrencySellDependency.getD false) intent
    rw [Function.comp_apply, heq]
  have hinj : ∀ a ∈ (plannedSecurityTrades request diagnostics).1,
      ∀ b ∈ (plannedSecurityTrades request diagnostics).1, a.intentId = b.intentId → a = b :=
    fun a ha b hb h => List.inj_on_of_nodup_map hids ha hb h
  have hside : ∀ side, ((sortedSecurityIntentsByInstrument
      (plannedSecurityTrades request diagnostics).1 side).map SecurityTradeIntent.intentId).Nodup := by
    intro side
    have hperm := (List.perm_insertionSort (fun a b : SecurityTradeIntent =>
      a.instrumentId ≤ b.instrumentId) ((plannedSecurityTrades request diagnostics).1.filter
        fun intent => intent.side = side)).map SecurityTradeIntent.intentId
    exact hperm.nodup_iff.mpr (hids.sublist (List.filter_sublist.map _))
  rw [List.map_append, List.nodup_append, hlinked]
  refine ⟨hside .sell, (hside .buy).sublist (List.filter_sublist.map _), fun a ha b hb heq => ?_⟩
  obtain ⟨sell, hsell, rfl⟩ := List.mem_map.mp ha
  obtain ⟨buy, hbuy, rfl⟩ := List.mem_map.mp hb
  have hsell := mem_sellIntents.mp hsell
  have hbuy := mem_buyIntents.mp (List.mem_filter.mp hbuy).1
  have hsides := hsell.2
  rw [hinj sell hsell.1 buy hbuy.1 heq, hbuy.2] at hsides
  cases hsides

/-- A security trade of the plan has a number. -/
theorem exists_tradeIntentId {intent : SecurityTradeIntent}
    (h : intent ∈ sellIntents request diagnostics ++ linkedBuyIntents request diagnostics) :
    ∃ number, intent.intentId = tradeIntentId number := by
  have hplanned : ∀ trade ∈ (plannedSecurityTrades request diagnostics).1,
      ∃ number, trade.intentId = tradeIntentId number := by
    intro trade htrade
    obtain ⟨-, number, -, hid⟩ := (planned_spec request diagnostics).2.1 trade htrade
    exact ⟨number, hid⟩
  rcases List.mem_append.mp h with h | h
  · exact hplanned intent (mem_sellIntents.mp h).1
  · obtain ⟨buy, hbuy, dependencies, rfl, -⟩ := exists_of_mem_linkedBuyIntents h
    exact hplanned buy (mem_buyIntents.mp hbuy).1

theorem cash_ne_funding (m n : ℕ) : "oi_cf_" ++ m.repr ≠ "oi_fx_" ++ n.repr := by
  intro h
  have h := congrArg String.toList h
  rw [String.toList_append, String.toList_append] at h
  have h := congrArg (List.take 4) h
  rw [List.take_append_of_le_length (by decide), List.take_append_of_le_length (by decide)] at h
  exact absurd h (by decide)

/-- The orders of a plan have different identifiers. -/
theorem nodup_intentIds : ((buildSimulationIntentPlan request diagnostics).intents.map
    ProposalOrderIntent.intentId).Nodup := by
  have hperm : ((buildSimulationIntentPlan request diagnostics).intents.map
      ProposalOrderIntent.intentId).Perm
      ((buildCashFlowIntents request.proposedCashFlows).map CashFlowIntent.intentId ++
        ((sellIntents request diagnostics ++ linkedBuyIntents request diagnostics).map
          SecurityTradeIntent.intentId ++
        (plannedFunding request diagnostics).fxIntents.map FxSpotIntent.intentId)) := by
    have hfx := (List.perm_insertionSort (fun a b : FxSpotIntent => a.pair ≤ b.pair)
      (plannedFunding request diagnostics).fxIntents).map FxSpotIntent.intentId
    rw [intents_eq]
    simp only [List.map_append, List.map_map, List.append_assoc]
    exact .append_left _ (.append_left _ (List.perm_append_comm.trans (.append_left _ hfx)))
  rw [hperm.nodup_iff, List.nodup_append, List.nodup_append]
  refine ⟨?_, ⟨tradeIds request diagnostics, fundingIds request diagnostics, ?_⟩, ?_⟩
  · rw [cashFlowIds]
    exact nodup_numbered "oi_cf_" _
  · intro a ha b hb
    obtain ⟨trade, htrade, rfl⟩ := List.mem_map.mp ha
    obtain ⟨m, hm⟩ := exists_tradeIntentId request diagnostics htrade
    rw [plannedFunding, (numbered_autoFunding _ _ _ _ _).ids] at hb
    obtain ⟨n, -, rfl⟩ := List.mem_map.mp hb
    rw [hm]
    exact Text.numbered_ne (rfl : "oi_fx_".toList = "oi_".toList ++ 'f' :: ['x', '_']) rfl
      m (n + 1)
  · intro a ha b hb
    rw [cashFlowIds] at ha
    obtain ⟨m, -, rfl⟩ := List.mem_map.mp ha
    rcases List.mem_append.mp hb with hb | hb
    · obtain ⟨trade, htrade, rfl⟩ := List.mem_map.mp hb
      obtain ⟨n, hn⟩ := exists_tradeIntentId request diagnostics htrade
      rw [hn]
      apply Ne.symm
      exact Text.numbered_ne (rfl : "oi_cf_".toList = "oi_".toList ++ 'c' :: ['f', '_']) rfl
        n (m + 1)
    · rw [plannedFunding, (numbered_autoFunding _ _ _ _ _).ids] at hb
      obtain ⟨n, -, rfl⟩ := List.mem_map.mp hb
      exact cash_ne_funding (m + 1) (n + 1)

end Identifiers

section Dependencies

variable {request : ProposalSimulateRequest} {diagnostics : DiagnosticsData}

/-- What comes before an element of the second part of a list starts with the first part. -/
theorem exists_eq_append {α : Type*} {front back earlier later : List α} {a : α}
    (h : front ++ back = earlier ++ a :: later) (ha : a ∉ front) : ∃ rest, earlier = front ++ rest := by
  rcases List.append_eq_append_iff.mp h with ⟨rest, hrest, -⟩ | ⟨rest, hfront, hrest⟩
  · exact ⟨rest, hrest⟩
  · cases rest with
    | nil => exact ⟨[], by rw [hfront, List.append_nil, List.append_nil]⟩
    | cons b rest =>
      obtain ⟨rfl, -⟩ := List.cons.inj hrest
      exact absurd (hfront ▸ List.mem_append_right _ List.mem_cons_self) ha

/-- The orders of a plan that come before its buys. -/
def ordersBeforeBuys (request : ProposalSimulateRequest) (diagnostics : DiagnosticsData) :
    List ProposalOrderIntent :=
  (buildCashFlowIntents request.proposedCashFlows).map .cashFlow ++
    ((sellIntents request diagnostics).map .securityTrade ++
      ((plannedFunding request diagnostics).fxIntents.insertionSort fun a b => a.pair ≤ b.pair).map
        .fxSpot)

theorem intents_eq_append : (buildSimulationIntentPlan request diagnostics).intents =
    ordersBeforeBuys request diagnostics ++
      (linkedBuyIntents request diagnostics).map .securityTrade := by
  rw [intents_eq, ordersBeforeBuys, List.append_assoc, List.append_assoc]

theorem dependencies_of_mem_ordersBeforeBuys {intent : ProposalOrderIntent}
    (h : intent ∈ ordersBeforeBuys request diagnostics) : intent.dependencies = [] := by
  rcases List.mem_append.mp h with h | h
  · obtain ⟨cashFlow, -, rfl⟩ := List.mem_map.mp h
    rfl
  rcases List.mem_append.mp h with h | h
  · obtain ⟨sell, hsell, rfl⟩ := List.mem_map.mp h
    obtain ⟨⟨price, hpriced⟩, -⟩ :=
      (planned_spec request diagnostics).2.1 sell (mem_sellIntents.mp hsell).1
    exact hpriced.dependencies
  · obtain ⟨fx, hfx, rfl⟩ := List.mem_map.mp h
    rw [List.mem_insertionSort] at hfx
    exact (numbered_autoFunding _ _ _ _ _).dependencies fx hfx

/-- What a buy depends on comes before all buys. -/
theorem exists_dependency {intent : SecurityTradeIntent} {id : String}
    (h : intent ∈ linkedBuyIntents request diagnostics) (hid : id ∈ intent.dependencies) :
    ∃ dependency ∈ ordersBeforeBuys request diagnostics, dependency.intentId = id := by
  obtain ⟨buy, -, dependencies, rfl, hdependencies⟩ := exists_of_mem_linkedBuyIntents h
  unfold ordersBeforeBuys
  rcases hdependencies id hid with h | h
  · obtain ⟨fx, hfx, rfl⟩ := (numbered_autoFunding _ _ _ _ _).funding _ _ h
    refine ⟨.fxSpot fx, ?_, rfl⟩
    rw [List.mem_append, List.mem_append]
    exact .inr (.inr (List.mem_map_of_mem ((List.mem_insertionSort _).mpr hfx)))
  · obtain ⟨sell, hsell, rfl⟩ := mem_of_sellIntentIdByCurrency h
    refine ⟨.securityTrade sell, ?_, rfl⟩
    rw [List.mem_append, List.mem_append]
    exact .inr (.inl (List.mem_map_of_mem hsell))

theorem dependencies_earlier {earlier later : List ProposalOrderIntent} {intent : ProposalOrderIntent}
    (h : (buildSimulationIntentPlan request diagnostics).intents = earlier ++ intent :: later)
    {id : String} (hid : id ∈ intent.dependencies) :
    ∃ dependency ∈ earlier, dependency.intentId = id := by
  have hfront : intent ∉ ordersBeforeBuys request diagnostics := by
    intro hmem
    rw [dependencies_of_mem_ordersBeforeBuys hmem] at hid
    cases hid
  have hmem : intent ∈ (buildSimulationIntentPlan request diagnostics).intents := by
    rw [h]
    exact List.mem_append_right _ List.mem_cons_self
  rw [intents_eq_append] at h hmem
  obtain ⟨rest, rfl⟩ := exists_eq_append h hfront
  obtain ⟨buy, hbuy, rfl⟩ := List.mem_map.mp ((List.mem_append.mp hmem).resolve_left hfront)
  obtain ⟨dependency, hdependency, heq⟩ := exists_dependency hbuy hid
  exact ⟨dependency, List.mem_append_left _ hdependency, heq⟩

end Dependencies

section Execution

/-- The orders executed one after another. -/
def executeIntents (portfolio : PortfolioSnapshot) (intents : List ProposalOrderIntent) :
    PortfolioSnapshot :=
  intents.foldl (fun portfolio intent => intent.applyTo portfolio) portfolio

variable (request : ProposalSimulateRequest) (diagnostics : DiagnosticsData)

theorem changed_planCashFlows : Changed
    ((buildCashFlowIntents request.proposedCashFlows).map .cashFlow) request.portfolioSnapshot
    (planAfterCashFlows request diagnostics).portfolio := by
  have h := @changed_cashFlows request.options 0 request.proposedCashFlows
    { portfolio := request.portfolioSnapshot, diagnostics }
  simp only [Nat.zero_add] at h
  exact h

theorem changed_planSells : Changed ((sellIntents request diagnostics).map .securityTrade)
    (planAfterCashFlows request diagnostics).portfolio
    (planAfterSells request diagnostics).portfolio := by
  rw [← (planned_spec request diagnostics).1]
  exact changed_securityTrades _ _

theorem changed_planFunding : Changed
    (((plannedFunding request diagnostics).fxIntents.insertionSort fun a b => a.pair ≤ b.pair).map
      .fxSpot)
    (planAfterSells request diagnostics).portfolio
    (plannedFunding request diagnostics).portfolio :=
  (changed_autoFunding _ _ _ _ _).perm ((List.perm_insertionSort _ _).symm.map _)

theorem changed_planBuys : Changed ((linkedBuyIntents request diagnostics).map .securityTrade)
    (plannedFunding request diagnostics).portfolio
    (planAfterBuys request diagnostics).portfolio := by
  have h := changed_securityTrades (linkedBuyIntents request diagnostics)
    (plannedFunding request diagnostics).portfolio
  have heq : (linkedBuyIntents request diagnostics).foldl applySecurityTradeToPortfolio
      (plannedFunding request diagnostics).portfolio =
        (planAfterBuys request diagnostics).portfolio := by
    rw [linkedBuyIntents, List.foldl_map]
    refine List.foldl_ext _ _ _ fun portfolio intent _ => ?_
    obtain ⟨dependencies, heq, -⟩ := exists_linkBuyIntent_eq
      (plannedFunding request diagnostics).fxByCurrency (sellIntents request diagnostics)
      (request.options.linkBuyToSameCurrencySellDependency.getD false) intent
    rw [heq]
    rfl
  rwa [heq] at h

/-- The orders of a plan account for everything that the plan changes. -/
theorem changed_plan : Changed (buildSimulationIntentPlan request diagnostics).intents
    request.portfolioSnapshot (buildSimulationIntentPlan request diagnostics).afterPortfolio := by
  rw [intents_eq]
  exact (changed_planCashFlows request diagnostics).trans
    ((changed_planSells request diagnostics).trans
      ((changed_planFunding request diagnostics).trans (changed_planBuys request diagnostics)))

/-- A plan that can be executed order by order, and leads from the portfolio to the one of the
plan. -/
structure SimulationIntentPlan.ExecutableFrom (plan : SimulationIntentPlan)
    (portfolio : PortfolioSnapshot) : Prop where
  ids : (plan.intents.map ProposalOrderIntent.intentId).Nodup
  earlier : ∀ earlier intent later, plan.intents = earlier ++ intent :: later →
    ∀ id ∈ intent.dependencies, ∃ dependency ∈ earlier, dependency.intentId = id
  positions : ∀ instrumentId i,
    positionRows.cell (executeIntents portfolio plan.intents).positions instrumentId i =
      positionRows.cell plan.afterPortfolio.positions instrumentId i
  cash : ∀ currency i,
    cashRows.cell (executeIntents portfolio plan.intents).cashBalances currency i =
      cashRows.cell plan.afterPortfolio.cashBalances currency i

theorem plan_executable : (buildSimulationIntentPlan request diagnostics).ExecutableFrom
    request.portfolioSnapshot := by
  have hplan := changed_plan request diagnostics
  have hexecuted := changed_foldl (buildSimulationIntentPlan request diagnostics).intents
    request.portfolioSnapshot
  constructor
  · exact nodup_intentIds request diagnostics
  · intro earlier intent later h id hid
    exact dependencies_earlier h hid
  · intro instrumentId i
    rw [executeIntents, hexecuted.positions, hplan.positions]
  · intro currency i
    rw [executeIntents, hexecuted.cash, hplan.cash]

end Execution

end LotusAdvise.Advisory

import LotusAdvise.Advisory.ExecutablePlan

/-! # The cash of the funding

While the currencies of the buys are funded, cash never goes negative: a currency is sold as far
as it is there. It is bought at most once, and from then on it can only become less.
-/

namespace LotusAdvise.Advisory

section Targets

theorem nodup_eraseDups : ∀ texts : List String, texts.eraseDups.Nodup
  | [] => List.nodup_nil
  | text :: texts => by
    rw [List.eraseDups_cons, List.nodup_cons]
    refine ⟨fun h => ?_, nodup_eraseDups _⟩
    rw [List.mem_eraseDups, List.mem_filter] at h
    simp at h
termination_by texts => texts.length
decreasing_by
  have := List.length_filter_le (fun other => !other == text) texts
  simp only [List.length_cons]
  omega

theorem nodup_sortedTexts (texts : List String) : (sortedTexts texts).Nodup :=
  (List.perm_insertionSort _ _).nodup_iff.mpr (nodup_eraseDups texts)

theorem mem_sortedTexts {texts : List String} {text : String} :
    text ∈ sortedTexts texts ↔ text ∈ texts := by
  rw [sortedTexts, List.mem_insertionSort, List.mem_eraseDups]

variable {buys : List SecurityTradeIntent} {currency : String} {required : ℚ}

/-- Each currency is funded once. -/
theorem nodup_fundingTargets : ((fundingTargets buys).map Prod.fst).Nodup := by
  rw [fundingTargets, List.map_map]
  simpa only [Function.comp_def, List.map_id'] using nodup_sortedTexts _

/-- The buys of a currency. -/
def buysIn (buys : List SecurityTradeIntent) (currency : String) : List SecurityTradeIntent :=
  buys.filter fun intent => intent.notional.currency = currency

theorem required_of_mem (h : (currency, required) ∈ fundingTargets buys) :
    required = requiredBy (buysIn buys currency) := by
  obtain ⟨target, -, heq⟩ := List.mem_map.mp h
  obtain ⟨rfl, rfl⟩ := Prod.mk.inj heq
  rw [groupBuyIntentsByCurrency, Dict.getD_get?_groupBy, buysIn]

/-- A currency without a target has no buys. -/
theorem buysIn_of_notMem (h : currency ∉ (fundingTargets buys).map Prod.fst) :
    buysIn buys currency = [] := by
  rw [fundingTargets, List.map_map, List.mem_map] at h
  have hkeys : currency ∉ (groupBuyIntentsByCurrency buys).map Prod.fst := by
    intro hmem
    exact h ⟨currency, mem_sortedTexts.mpr hmem, rfl⟩
  rw [buysIn, ← Dict.getD_get?_groupBy, ← groupBuyIntentsByCurrency,
    Dict.get?_eq_none.mpr hkeys, Option.getD_none]

/-- Bought together, the buys of a currency cost what it requires. -/
theorem sum_cashDelta_buys (hbuys : ∀ intent ∈ buys, intent.side = .buy) :
    (buys.map fun intent => intent.cashDelta currency).sum = -requiredBy (buysIn buys currency) := by
  induction buys with
  | nil => simp [requiredBy, buysIn]
  | cons intent buys ih =>
    have hside := hbuys intent List.mem_cons_self
    rw [List.map_cons, List.sum_cons, ih fun other h => hbuys other (.tail _ h)]
    unfold SecurityTradeIntent.cashDelta buysIn requiredBy
    rw [hside]
    by_cases h : currency = intent.notional.currency
    · rw [if_pos h, List.filter_cons, if_pos (decide_eq_true h.symm), List.map_cons, List.sum_cons]
      ring
    · rw [if_neg h, List.filter_cons, if_neg (by simpa using Ne.symm h), zero_add]

theorem cash_applyBuys (hbuys : ∀ intent ∈ buys, intent.side = .buy)
    (portfolio : PortfolioSnapshot) :
    (buys.foldl applySecurityTradeToPortfolio portfolio).cash currency =
      portfolio.cash currency - requiredBy (buysIn buys currency) := by
  have h := (changed_securityTrades buys portfolio).cash currency 0
  have hsum : (buys.map ((fun intent : ProposalOrderIntent => intent.cashDelta currency) ∘
      .securityTrade)).sum = -requiredBy (buysIn buys currency) := sum_cashDelta_buys hbuys
  rw [if_pos rfl, List.map_map, hsum, ← sub_eq_add_neg] at h
  exact h

end Targets

section Steps

/-- What a currency trade sells of a currency. -/
def FxSpotIntent.sold (intent : FxSpotIntent) (currency : String) : ℚ :=
  if currency = intent.sellCurrency then intent.sellAmountEstimated else 0

/-- What a currency trade buys of a currency. -/
def FxSpotIntent.bought (intent : FxSpotIntent) (currency : String) : ℚ :=
  if currency = intent.buyCurrency then intent.buyAmount else 0

theorem FxSpotIntent.cashDelta_eq (intent : FxSpotIntent) (currency : String) :
    intent.cashDelta currency = intent.bought currency - intent.sold currency := by
  unfold FxSpotIntent.cashDelta FxSpotIntent.bought FxSpotIntent.sold
  by_cases h : currency = intent.sellCurrency
  · rw [if_pos h, if_pos h]
    ring
  · rw [if_neg h, if_neg h]
    ring

namespace FundingState

/-- The cash of a currency. -/
def cash (s : FundingState) (currency : String) : ℚ := s.portfolio.cash currency

/-- What has been sold of a currency. -/
def sold (s : FundingState) (currency : String) : ℚ :=
  (s.fxIntents.map fun intent => intent.sold currency).sum

/-- The smallest amount of a currency. -/
def minorUnit (currency : String) : ℚ := Decimal.unit (currencyMinorUnits currency)

/-- What the funding of a target does to the cash of a currency. -/
inductive CashStep (s : FundingState) (target : String) (required : ℚ) (currency : String)
    (s' : FundingState) : Prop
  | kept (settled : currency = target →
      required ≤ s.cash currency ∨ currency ∈ s'.unfundedCurrencies)
    (cash : s'.cash currency = s.cash currency) (sold : s'.sold currency = s.sold currency)
  | sold (other : currency ≠ target) (units : ℕ)
    (available : units * minorUnit currency ≤ s.cash currency)
    (cash : s'.cash currency = s.cash currency - units * minorUnit currency)
    (sold : s'.sold currency = s.sold currency + units * minorUnit currency)
  | bought (target : currency = target) (needed : s.cash currency < required)
    (cash : s'.cash currency = s.cash currency +
      quantizeAmountForCurrency (required - s.cash currency) currency)
    (sold : s'.sold currency = s.sold currency)
    (unfunded : s'.unfundedCurrencies = s.unfundedCurrencies)

variable {marketData : MarketDataSnapshot} {options : EngineOptions} {s s' : FundingState}
  {target : String} {required : ℚ}

/-- A source is sold a whole number of its units. -/
theorem exists_units_sellRequired {selected : FundingSelection} {portfolio : PortfolioSnapshot}
    {fxNeeded : ℚ} (h : selected.Funds marketData portfolio target fxNeeded)
    (hneeded : 0 ≤ fxNeeded) :
    ∃ units : ℕ, selected.sellRequired = units * minorUnit selected.fundingCurrency := by
  rw [h.sellRequired]
  exact Decimal.exists_units_of_nonneg (mul_nonneg hneeded (getFxRate_pos _ h.rate).le)

theorem cashStep_of_step (h : s.Step marketData options target required s') (currency : String) :
    s.CashStep target required currency s' := by
  cases h with
  | enough enough rows fxIntents _ _ =>
    refine .kept ?_ (rows.cash_eq currency) (by rw [FundingState.sold, fxIntents]; rfl)
    rintro rfl
    exact .inl enough
  | unfunded rows fxIntents _ unfunded =>
    refine .kept ?_ (rows.cash_eq currency) (by rw [FundingState.sold, fxIntents]; rfl)
    rintro rfl
    rw [unfunded]
    exact .inr (List.mem_append_right _ List.mem_cons_self)
  | bought selected intent needed other funds intent_eq rows fxIntents _ unfunded =>
    have hneeded : 0 < required - s.portfolio.cash target := sub_pos.mpr needed
    have hcash : s'.cash currency = s.cash currency + intent.cashDelta currency :=
      (rows.cash_eq currency).trans (cashCell_applyFxSpot intent)
    have hsold : s'.sold currency = s.sold currency + intent.sold currency := by
      rw [FundingState.sold, fxIntents, List.map_append, List.sum_append]
      simp [FundingState.sold]
    have hbuy : intent.buyCurrency = target := by rw [intent_eq]; rfl
    have hsell : intent.sellCurrency = selected.fundingCurrency := by rw [intent_eq]; rfl
    have hamount : intent.sellAmountEstimated = selected.sellRequired := by rw [intent_eq]; rfl
    rw [intent.cashDelta_eq] at hcash
    by_cases htarget : currency = target
    · have hzero : intent.sold currency = 0 :=
        if_neg fun h => other ((hsell.symm.trans h.symm).trans htarget)
      have hbought : intent.bought currency =
          quantizeAmountForCurrency (required - s.cash currency) currency := by
        rw [FxSpotIntent.bought, hbuy, if_pos htarget, intent_eq, htarget]
        rfl
      refine .bought htarget ?_ (by rw [hcash, hzero, sub_zero, hbought]) ?_ unfunded
      · rw [htarget]
        exact needed
      · rw [hsold, hzero, add_zero]
    have hbought : intent.bought currency = 0 := if_neg fun h => htarget (h.trans hbuy)
    rw [hbought, zero_sub, ← sub_eq_add_neg] at hcash
    by_cases hsource : currency = selected.fundingCurrency
    · obtain ⟨units, hunits⟩ := exists_units_sellRequired funds hneeded.le
      have hamount : intent.sold currency = units * minorUnit currency := by
        rw [FxSpotIntent.sold, hsell, if_pos hsource, hamount, hunits, hsource]
      refine .sold htarget units ?_ (by rw [hcash, hamount]) (by rw [hsold, hamount])
      have havailable := funds.available
      rw [hunits, ← hsource] at havailable
      exact havailable
    · have hzero : intent.sold currency = 0 := if_neg fun h => hsource (h.trans hsell)
      exact .kept (fun h => absurd h htarget) (by rw [hcash, hzero, sub_zero])
        (by rw [hsold, hzero, add_zero])

/-- Only the target of a step can become unfunded. -/
theorem mem_unfunded_of_step (h : s.Step marketData options target required s') {currency : String} :
    currency ∈ s'.unfundedCurrencies →
      currency ∈ s.unfundedCurrencies ∨ currency = target := by
  intro hmem
  cases h with
  | enough _ _ _ _ unfunded => exact .inl (unfunded ▸ hmem)
  | bought _ _ _ _ _ _ _ _ _ unfunded => exact .inl (unfunded ▸ hmem)
  | unfunded _ _ _ unfunded =>
    rw [unfunded, List.mem_append, List.mem_singleton] at hmem
    exact hmem

theorem subset_unfunded_of_step (h : s.Step marketData options target required s') :
    s.unfundedCurrencies ⊆ s'.unfundedCurrencies := by
  cases h with
  | enough _ _ _ _ unfunded => rw [unfunded]; exact List.Subset.refl _
  | bought _ _ _ _ _ _ _ _ _ unfunded => rw [unfunded]; exact List.Subset.refl _
  | unfunded _ _ _ unfunded => rw [unfunded]; exact List.subset_append_left _ _

theorem minorUnit_pos (currency : String) : 0 < minorUnit currency := Decimal.unit_pos _

/-- No funding makes cash negative. -/
theorem CashStep.nonneg {currency : String} (h : s.CashStep target required currency s')
    (hcash : 0 ≤ s.cash currency) : 0 ≤ s'.cash currency := by
  cases h with
  | kept _ cash _ => rwa [cash]
  | sold _ units available cash _ =>
    rw [cash]
    exact sub_nonneg.mpr available
  | bought _ needed cash _ _ =>
    rw [cash]
    exact add_nonneg hcash (Decimal.quantize_nonneg (sub_nonneg.mpr needed.le))

end FundingState

end Steps

end LotusAdvise.Advisory

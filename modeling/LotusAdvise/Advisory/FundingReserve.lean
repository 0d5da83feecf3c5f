import LotusAdvise.Advisory.FundingLedger
import Mathlib.Tactic.NormNum

/-! # What funding leaves for the buys

A currency that has been funded is not reserved for its buys: a later currency can be funded from
it. The buys can be paid exactly if no funding sells what an earlier one has left for them, and
if no amount is bought that has been rounded down.
-/

namespace LotusAdvise.Advisory

section Splits

variable {α : Type*} {P : List α → α → Prop} {l : List α} {y : α}

/-- What holds at each element after those before it, for one element more. -/
theorem forall_split_concat :
    (∀ earlier x later, l ++ [y] = earlier ++ x :: later → P earlier x) ↔
      (∀ earlier x later, l = earlier ++ x :: later → P earlier x) ∧ P l y := by
  constructor
  · intro h
    refine ⟨fun earlier x later heq => h earlier x (later ++ [y]) ?_, h l y [] rfl⟩
    rw [heq, List.append_assoc, List.cons_append]
  · rintro ⟨h, hlast⟩ earlier x later heq
    rcases List.eq_nil_or_concat later with rfl | ⟨later, z, rfl⟩
    · obtain ⟨hl, hx⟩ := List.append_inj' heq rfl
      obtain ⟨rfl, -⟩ := List.cons.inj hx
      exact hl ▸ hlast
    · have hsplit : l ++ [y] = (earlier ++ x :: later) ++ [z] := by simpa using heq
      exact h earlier x later (List.append_inj' hsplit rfl).1

end Splits

namespace FundingState

variable (marketData : MarketDataSnapshot) (options : EngineOptions) (s : FundingState)

/-- The currencies that have been funded have enough cash for their buys. -/
def Reserved (funded : List (String × ℚ)) : Prop :=
  ∀ target ∈ funded, target.2 ≤ s.cash target.1

/-- The funding of a target buys what is needed, from a source whose own buys can still be paid
after that. -/
structure Covers (funded : List (String × ℚ)) (target : String × ℚ) : Prop where
  rounded : target.2 - s.cash target.1 ≤
    quantizeAmountForCurrency (target.2 - s.cash target.1) target.1
  reserved : ∀ selected ∈ s.source marketData options target.1 target.2, ∀ other ∈ funded,
    other.1 = selected.fundingCurrency →
      other.2 + selected.sellRequired ≤ s.cash selected.fundingCurrency

variable {marketData} {options} {s} {s' : FundingState} {funded : List (String × ℚ)}
  {target : String × ℚ} {currency : String}

/-- A currency that is not the target loses what is sold of it. -/
theorem le_cash_iff (h : s.Step marketData options target.1 target.2 s')
    (hother : currency ≠ target.1) (required : ℚ) :
    required ≤ s'.cash currency ↔ required ≤ s.cash currency ∧
      (s.cash target.1 < target.2 → ∀ selected ∈ s.source marketData options target.1 target.2,
        currency = selected.fundingCurrency → required + selected.sellRequired ≤ s.cash currency) := by
  have hkept : s'.cash currency = s.cash currency →
      (s.cash target.1 < target.2 → ∀ selected ∈ s.source marketData options target.1 target.2,
        currency ≠ selected.fundingCurrency) →
      (required ≤ s'.cash currency ↔ required ≤ s.cash currency ∧
        (s.cash target.1 < target.2 → ∀ selected ∈ s.source marketData options target.1 target.2,
          currency = selected.fundingCurrency →
            required + selected.sellRequired ≤ s.cash currency)) := by
    intro hcash hnone
    rw [hcash, iff_self_and]
    intro _ hneeded selected hselected heq
    exact absurd heq (hnone hneeded selected hselected)
  cases h with
  | enough enough rows _ _ _ =>
    exact hkept (rows.cash_eq currency) fun hneeded => absurd enough (not_le.mpr hneeded)
  | unfunded rows _ _ _ source =>
    refine hkept (rows.cash_eq currency) fun _ selected hselected => ?_
    rw [source] at hselected
    cases hselected
  | bought selected intent needed other funds intent_eq rows _ _ _ source =>
    have hcash : s'.cash currency = s.cash currency + intent.cashDelta currency :=
      (rows.cash_eq currency).trans (cashCell_applyFxSpot intent)
    have hbought : intent.bought currency = 0 := by
      rw [intent_eq]
      exact if_neg hother
    rw [intent.cashDelta_eq, hbought, zero_sub, ← sub_eq_add_neg] at hcash
    by_cases hsource : currency = selected.fundingCurrency
    · have hsold : intent.sold currency = selected.sellRequired := by
        rw [intent_eq]
        exact if_pos hsource
      obtain ⟨units, hunits⟩ := exists_units_sellRequired funds (sub_pos.mpr needed).le
      have hnonneg : 0 ≤ selected.sellRequired := by
        rw [hunits]
        exact mul_nonneg (Nat.cast_nonneg _) (minorUnit_pos _).le
      rw [hcash, hsold, le_sub_iff_add_le, source]
      constructor
      · rintro hle
        refine ⟨by linarith, ?_⟩
        rintro - _ ⟨⟩ -
        exact hle
      · rintro ⟨-, hle⟩
        exact hle needed selected rfl hsource
    · have hsold : intent.sold currency = 0 := by
        rw [intent_eq]
        exact if_neg hsource
      refine hkept (by rw [hcash, hsold, sub_zero]) ?_
      rintro - other hother
      rw [source] at hother
      obtain rfl := Option.some.inj hother
      exact hsource

/-- The target of a funding can pay its buys if what is missing is bought. -/
theorem target_le_cash_iff (h : s.Step marketData options target.1 target.2 s')
    (hfunded : s'.unfundedCurrencies = []) : target.2 ≤ s'.cash target.1 ↔
      (s.cash target.1 < target.2 → target.2 - s.cash target.1 ≤
        quantizeAmountForCurrency (target.2 - s.cash target.1) target.1) := by
  cases cashStep_of_step h target.1 with
  | kept settled cash _ =>
    rcases settled rfl with henough | hunfunded
    · rw [cash]
      exact ⟨fun _ hneeded => absurd henough (not_le.mpr hneeded), fun _ => henough⟩
    · rw [hfunded] at hunfunded
      cases hunfunded
  | sold other => exact absurd rfl other
  | bought _ needed cash _ _ =>
    rw [cash, ← sub_le_iff_le_add']
    exact ⟨fun hle _ => hle, fun hle => hle needed⟩

/-- What one funding preserves: what was reserved stays so exactly if the funding covers its target. -/
theorem reserved_step_iff (h : s.Step marketData options target.1 target.2 s')
    (hnew : target.1 ∉ funded.map Prod.fst) (hfunded : s'.unfundedCurrencies = []) :
    s'.Reserved (funded ++ [target]) ↔
      s.Reserved funded ∧ (s.cash target.1 < target.2 → s.Covers marketData options funded target) := by
  have hother : ∀ other ∈ funded, other.1 ≠ target.1 := by
    rintro other hmem heq
    exact hnew (heq ▸ List.mem_map_of_mem hmem)
  unfold Reserved
  rw [List.forall_mem_append, List.forall_mem_singleton, target_le_cash_iff h hfunded]
  constructor
  · rintro ⟨hreserved, hrounded⟩
    refine ⟨fun other hmem => ((le_cash_iff h (hother other hmem) _).mp (hreserved other hmem)).1,
      fun hneeded => ⟨hrounded hneeded, fun selected hselected other hmem heq => ?_⟩⟩
    have hle := ((le_cash_iff h (hother other hmem) _).mp (hreserved other hmem)).2 hneeded selected
      hselected heq
    rwa [heq] at hle
  · rintro ⟨hreserved, hcovers⟩
    refine ⟨fun other hmem => (le_cash_iff h (hother other hmem) _).mpr ⟨hreserved other hmem,
      fun hneeded selected hselected heq => ?_⟩, fun hneeded => (hcovers hneeded).rounded⟩
    rw [heq]
    exact (hcovers hneeded).reserved selected hselected other hmem heq

/-- The state after the funding of some targets. -/
def after (marketData : MarketDataSnapshot) (options : EngineOptions) (s : FundingState)
    (targets : List (String × ℚ)) : FundingState :=
  targets.foldl (fun s target => fundTargetCurrency marketData options s target.1 target.2) s

/-- What a whole funding preserves. -/
theorem reserved_after_iff (targets : List (String × ℚ))
    (hnodup : (targets.map Prod.fst).Nodup)
    (hfunded : (s.after marketData options targets).unfundedCurrencies = []) :
    (s.after marketData options targets).Reserved targets ↔
      ∀ funded target later, targets = funded ++ target :: later →
        (s.after marketData options funded).cash target.1 < target.2 →
          (s.after marketData options funded).Covers marketData options funded target := by
  induction targets using List.reverseRecOn with
  | nil => simp [Reserved]
  | append_singleton targets target ih =>
    rw [List.map_append, List.map_singleton, List.nodup_append] at hnodup
    obtain ⟨hnodup, -, hnew⟩ := hnodup
    have hstep : (s.after marketData options targets).Step marketData options target.1 target.2
        (s.after marketData options (targets ++ [target])) := by
      rw [after, after, List.foldl_append]
      exact fundTargetCurrency_spec marketData options _ target.1 target.2
    have hbefore : (s.after marketData options targets).unfundedCurrencies = [] :=
      List.subset_nil.mp (hfunded ▸ subset_unfunded_of_step hstep)
    rw [reserved_step_iff hstep (fun hmem => hnew _ hmem _ List.mem_cons_self rfl) hfunded,
      ih hnodup hbefore, forall_split_concat (P := fun funded target =>
        (s.after marketData options funded).cash target.1 < target.2 →
          (s.after marketData options funded).Covers marketData options funded target)]

theorem cash_after_nonneg (targets : List (String × ℚ)) (hcash : 0 ≤ s.cash currency) :
    0 ≤ (s.after marketData options targets).cash currency := by
  refine List.foldlRecOn (motive := fun s : FundingState => 0 ≤ s.cash currency) _ _ hcash ?_
  intro s hs target _
  exact (cashStep_of_step (fundTargetCurrency_spec marketData options s target.1 target.2)
    currency).nonneg hs

end FundingState

section Buys

variable (marketData : MarketDataSnapshot) (options : EngineOptions) (portfolio : PortfolioSnapshot)
  (buys : List SecurityTradeIntent) (diagnostics : DiagnosticsData)

/-- Each funding, in the state that it starts in, covers its target. -/
def EveryFundingCovers : Prop :=
  ∀ funded target later, fundingTargets buys = funded ++ target :: later →
    (FundingState.after marketData options { portfolio, diagnostics } funded).cash target.1 <
      target.2 →
    (FundingState.after marketData options { portfolio, diagnostics } funded).Covers marketData
      options funded target

/-- The buys can be paid exactly if each funding covers its target. -/
theorem buys_covered_iff (hcash : ∀ balance ∈ portfolio.cashBalances, 0 ≤ balance.amount)
    (hbuys : ∀ intent ∈ buys, intent.side = .buy) (hauto : options.autoFunding = true)
    (hunfunded : (buildAutoFundingPlan marketData options portfolio buys
      diagnostics).unfundedCurrencies = []) :
    (∀ balance ∈ (buys.foldl applySecurityTradeToPortfolio (buildAutoFundingPlan marketData options
        portfolio buys diagnostics).portfolio).cashBalances, 0 ≤ balance.amount) ↔
      EveryFundingCovers marketData options portfolio buys diagnostics := by
  have hplan : buildAutoFundingPlan marketData options portfolio buys diagnostics =
      FundingState.after marketData options { portfolio, diagnostics } (fundingTargets buys) :=
    if_pos hauto
  have hchanged := (changed_autoFunding marketData options portfolio buys diagnostics).trans
    (changed_securityTrades buys _)
  have hfirst : ∀ currency, cashRows.cell (buys.foldl applySecurityTradeToPortfolio
      (buildAutoFundingPlan marketData options portfolio buys diagnostics).portfolio).cashBalances
        currency 0 = (FundingState.after marketData options { portfolio, diagnostics }
          (fundingTargets buys)).cash currency - requiredBy (buysIn buys currency) := by
    intro currency
    rw [← hplan]
    exact cash_applyBuys hbuys _
  rw [hplan] at hunfunded
  rw [EveryFundingCovers, ← FundingState.reserved_after_iff _ nodup_fundingTargets hunfunded,
    PortfolioSnapshot.cash_nonneg_iff]
  rw [PortfolioSnapshot.cash_nonneg_iff] at hcash
  constructor
  · intro h target htarget
    have hend := h target.1 0
    rw [hfirst, ← required_of_mem (show (target.1, target.2) ∈ fundingTargets buys from htarget)] at hend
    exact sub_nonneg.mp hend
  · intro h currency i
    rcases i with _ | i
    · rw [hfirst]
      by_cases hmem : currency ∈ (fundingTargets buys).map Prod.fst
      · obtain ⟨target, htarget, rfl⟩ := List.mem_map.mp hmem
        rw [← required_of_mem (show (target.1, target.2) ∈ fundingTargets buys from htarget)]
        exact sub_nonneg.mpr (h target htarget)
      · rw [buysIn_of_notMem hmem, requiredBy, List.map_nil, List.sum_nil, sub_zero]
        exact FundingState.cash_after_nonneg _ (hcash currency 0)
    · rw [hchanged.cash, if_neg (Nat.succ_ne_zero i), add_zero]
      exact hcash currency (i + 1)

end Buys

namespace OverdrawnSample

/-- The euros of a portfolio are just enough for the buy in euros. -/
def portfolio : PortfolioSnapshot where
  baseCurrency := "EUR"
  positions := []
  cashBalances := [⟨"EUR", 100⟩]

theorem rate_pos : (0 : ℚ) < 9 / 10 := by norm_num

def marketData : MarketDataSnapshot where
  prices := [⟨"FUND", 10, "EUR"⟩, ⟨"SHARE", 5, "USD"⟩]
  fxRates := [⟨"USD/EUR", 9 / 10, rate_pos⟩]

def buy (intentId instrumentId : String) (quantity amount : ℚ) (currency : String) :
    SecurityTradeIntent where
  intentId
  instrumentId
  side := .buy
  quantity
  notional := ⟨amount, currency⟩
  notionalBase := none
  dependencies := []

/-- The buy in dollars comes after the one in euros. -/
def buys : List SecurityTradeIntent :=
  [buy "oi_1" "FUND" 10 100 "EUR", buy "oi_2" "SHARE" 10 50 "USD"]

theorem buys_covered_iff_overdrawn :
    (∀ balance ∈ (buys.foldl applySecurityTradeToPortfolio (buildAutoFundingPlan marketData {}
        portfolio buys {}).portfolio).cashBalances, 0 ≤ balance.amount) ↔
      EveryFundingCovers marketData {} portfolio buys {} :=
  buys_covered_iff marketData {} portfolio buys {} (by decide +kernel) (by decide +kernel) rfl
    (by decide +kernel)

/-- The dollars are funded with the euros that the buy in euros needs. -/
theorem funding_overdraws :
    (∀ balance ∈ portfolio.cashBalances, 0 ≤ balance.amount) ∧
    (∀ intent ∈ buys, intent.side = .buy ∧ 0 < intent.notional.amount ∧
      quantizeAmountForCurrency intent.notional.amount intent.notional.currency =
        intent.notional.amount) ∧
    (buildAutoFundingPlan marketData {} portfolio buys {}).unfundedCurrencies = [] ∧
    (buildAutoFundingPlan marketData {} portfolio buys {}).hardFailures = [] ∧
    ¬ ∀ balance ∈ (buys.foldl applySecurityTradeToPortfolio (buildAutoFundingPlan marketData {}
      portfolio buys {}).portfolio).cashBalances, 0 ≤ balance.amount := by
  decide +kernel

end OverdrawnSample

end LotusAdvise.Advisory

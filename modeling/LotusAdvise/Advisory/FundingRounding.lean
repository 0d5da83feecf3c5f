import LotusAdvise.Advisory.FundingFailures

/-! # What rounding does to a funding

The amount that is bought is the missing one, rounded to the minor unit of its currency, and the
buys are charged what they cost. A missing amount that is rounded down is not covered.
-/

namespace LotusAdvise.Advisory

namespace FundingState

variable {marketData : MarketDataSnapshot} {options : EngineOptions} {s s' : FundingState}
  {targetCurrency : String} {required : ℚ}

/-- Currency is bought exactly if it is needed and a candidate pays. -/
theorem generated_iff :
    (∃ intent, (fundTargetCurrency marketData options s targetCurrency required).fxIntents =
        s.fxIntents ++ [intent]) ↔
      s.cash targetCurrency < required ∧ ∃ candidate ∈ s.candidates options targetCurrency,
        SourcePays marketData s.cash targetCurrency (required - s.cash targetCurrency) candidate := by
  have hcash : (s.portfolio.ensureCashBalance targetCurrency).cash = s.cash :=
    funext (PortfolioSnapshot.sameRows_ensure targetCurrency).cash_eq
  have hnone : s.source marketData options targetCurrency required = none ↔ _ :=
    selection_eq_none_iff marketData targetCurrency (required - s.cash targetCurrency) none
      (s.portfolio.ensureCashBalance targetCurrency) s.diagnostics
      (s.candidates options targetCurrency)
  rw [hcash] at hnone
  constructor
  · rintro ⟨intent, hgenerated⟩
    cases fundTargetCurrency_spec marketData options s targetCurrency required with
    | enough _ _ fxIntents _ _ =>
      rw [fxIntents, List.self_eq_append_right] at hgenerated
      cases hgenerated
    | unfunded _ fxIntents _ _ _ =>
      rw [fxIntents, List.self_eq_append_right] at hgenerated
      cases hgenerated
    | bought selected _ needed _ _ _ _ _ _ _ source =>
      refine ⟨needed, ?_⟩
      by_contra hshort
      push Not at hshort
      rw [hnone.mpr hshort] at source
      cases source
  · rintro ⟨hneeded, candidate, hmem, hpays⟩
    cases fundTargetCurrency_spec marketData options s targetCurrency required with
    | enough enough _ _ _ _ => exact absurd enough (not_le.mpr hneeded)
    | unfunded _ _ _ _ source => exact absurd hpays (hnone.mp source candidate hmem)
    | bought _ intent _ _ _ _ _ fxIntents _ _ _ => exact ⟨intent, fxIntents⟩

/-- A currency trade leaves what it could sell, and buys the rounded need. -/
theorem cash_of_generated {intent : FxSpotIntent}
    (h : (fundTargetCurrency marketData options s targetCurrency required).fxIntents =
      s.fxIntents ++ [intent]) :
    0 ≤ (fundTargetCurrency marketData options s targetCurrency required).cash intent.sellCurrency ∧
      (fundTargetCurrency marketData options s targetCurrency required).cash targetCurrency =
        s.cash targetCurrency +
          quantizeAmountForCurrency (required - s.cash targetCurrency) targetCurrency := by
  cases fundTargetCurrency_spec marketData options s targetCurrency required with
  | enough _ _ fxIntents _ _ =>
    rw [fxIntents, List.self_eq_append_right] at h
    cases h
  | unfunded _ fxIntents _ _ _ =>
    rw [fxIntents, List.self_eq_append_right] at h
    cases h
  | bought selected generated _ other funds intent_eq rows fxIntents _ _ _ =>
    rw [fxIntents, List.append_cancel_left_eq, List.singleton_inj] at h
    rw [h] at rows intent_eq
    have hcash : ∀ currency,
        (fundTargetCurrency marketData options s targetCurrency required).cash currency =
          s.cash currency + intent.bought currency - intent.sold currency := by
      intro currency
      rw [add_sub_assoc, ← intent.cashDelta_eq]
      exact (rows.cash_eq currency).trans (cashCell_applyFxSpot intent)
    have hbuy : intent.buyCurrency = targetCurrency := by rw [intent_eq]; rfl
    have hsell : intent.sellCurrency = selected.fundingCurrency := by rw [intent_eq]; rfl
    have havailable : intent.sellAmountEstimated ≤ s.cash intent.sellCurrency := by
      rw [hsell, intent_eq]
      exact funds.available
    have hne : intent.sellCurrency ≠ intent.buyCurrency := by
      rw [hsell, hbuy]
      exact other
    constructor
    · rw [hcash, FxSpotIntent.bought, if_neg hne, FxSpotIntent.sold, if_pos rfl, add_zero]
      exact sub_nonneg.mpr havailable
    · rw [hcash, ← hbuy, FxSpotIntent.bought, if_pos rfl, FxSpotIntent.sold, if_neg hne.symm,
        sub_zero, hbuy, intent_eq]
      rfl

end FundingState

section Buys

variable (marketData : MarketDataSnapshot) (options : EngineOptions) (s : FundingState)
  (targetCurrency : String) (buys : List SecurityTradeIntent)

/-- A generated currency trade covers the buys exactly if what they lack is not rounded down. -/
theorem funding_covers_buys_iff :
    (∀ intent, (fundTargetCurrency marketData options s targetCurrency
          (requiredBy buys)).fxIntents = s.fxIntents ++ [intent] →
        requiredBy buys ≤ (fundTargetCurrency marketData options s targetCurrency
            (requiredBy buys)).cash targetCurrency ∧
          0 ≤ (fundTargetCurrency marketData options s targetCurrency
            (requiredBy buys)).cash intent.sellCurrency) ↔
      (s.cash targetCurrency < requiredBy buys →
        (∃ candidate ∈ s.candidates options targetCurrency, SourcePays marketData s.cash
          targetCurrency (requiredBy buys - s.cash targetCurrency) candidate) →
        Decimal.NotLowered
          ((requiredBy buys - s.cash targetCurrency) / FundingState.minorUnit targetCurrency)) := by
  have hround : requiredBy buys ≤ s.cash targetCurrency + quantizeAmountForCurrency
      (requiredBy buys - s.cash targetCurrency) targetCurrency ↔ _ :=
    sub_le_iff_le_add'.symm.trans Decimal.le_quantize_iff
  constructor
  · intro h hneeded hpays
    obtain ⟨intent, hgenerated⟩ := FundingState.generated_iff.mpr ⟨hneeded, hpays⟩
    have hcovered := (h intent hgenerated).1
    rw [(FundingState.cash_of_generated hgenerated).2] at hcovered
    exact hround.mp hcovered
  · intro h intent hgenerated
    obtain ⟨hsource, htarget⟩ := FundingState.cash_of_generated hgenerated
    obtain ⟨hneeded, hpays⟩ := FundingState.generated_iff.mp ⟨intent, hgenerated⟩
    rw [htarget]
    exact ⟨hround.mpr (h hneeded hpays), hsource⟩

end Buys

namespace LoweredSample

/-- Four shares at 2.501 dollars. -/
def buys : List SecurityTradeIntent := [OverdrawnSample.buy "oi_1" "SHARE" 4 (4 * 2.501) "USD"]

def before : FundingState where
  portfolio := OverdrawnSample.portfolio
  diagnostics := {}

def after : FundingState :=
  fundTargetCurrency OverdrawnSample.marketData {} before "USD" (requiredBy buys)

/-- Ten dollars are bought for them, less than half a cent too little. -/
theorem lowered_need_not_covered :
    (∃ intent ∈ after.fxIntents, after.fxIntents = before.fxIntents ++ [intent] ∧
        intent.sellCurrency = "EUR" ∧ intent.buyAmount = 10) ∧
      ¬ requiredBy buys ≤ after.cash "USD" := by
  decide +kernel

end LoweredSample

end LotusAdvise.Advisory

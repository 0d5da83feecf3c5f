import LotusAdvise.Advisory.FundingReserve

/-! # The kind of a funding failure

A currency that no source can fund is recorded as one without enough cash, or as one without a
rate. Which of the two it is depends on the pairs that are missing so far, so that a pair that
was missing for an earlier currency decides it for all later ones.
-/

namespace LotusAdvise.Advisory

section Splits

variable {α : Type*} {P : List α → α → Prop} {l : List α} {y : α}

/-- What holds at an element after those before it, for one element more. -/
theorem exists_split_concat :
    (∃ earlier x later, l ++ [y] = earlier ++ x :: later ∧ P earlier x) ↔
      (∃ earlier x later, l = earlier ++ x :: later ∧ P earlier x) ∨ P l y := by
  rw [← not_iff_not, not_or]
  push Not
  exact forall_split_concat (P := fun earlier x => ¬ P earlier x)

end Splits

/-- A candidate has enough cash for what is needed, at its rate. -/
def SourcePays (marketData : MarketDataSnapshot) (cash : String → ℚ) (targetCurrency : String)
    (fxNeeded : ℚ) (fundingCurrency : String) : Prop :=
  ∃ rate ∈ getFxRate marketData targetCurrency fundingCurrency,
    quantizeAmountForCurrency (fxNeeded * rate) fundingCurrency ≤ cash fundingCurrency

instance {marketData : MarketDataSnapshot} {cash : String → ℚ} {targetCurrency : String}
    {fxNeeded : ℚ} : DecidablePred (SourcePays marketData cash targetCurrency fxNeeded) := by
  intro fundingCurrency
  unfold SourcePays
  infer_instance

section Search

variable {marketData : MarketDataSnapshot} {portfolio : PortfolioSnapshot}
  {diagnostics : DiagnosticsData} {targetCurrency fundingCurrency : String} {fxNeeded : ℚ}

theorem missingFxPairs_recordMissingFxPair (pair : String) :
    (recordMissingFxPair diagnostics pair).missingFxPairs ≠ [] := by
  unfold recordMissingFxPair DiagnosticsData.recordFxMissing
  by_cases h : pair ∈ diagnostics.missingFxPairs
  · have hne : diagnostics.missingFxPairs ≠ [] := List.ne_nil_of_mem h
    rw [if_pos h]
    dsimp only
    split <;> exact hne
  · rw [if_neg h]
    dsimp only
    split <;> simp

theorem not_sourcePays_of_unrated (cash : String → ℚ) (fxNeeded : ℚ)
    (h : getFxRate marketData targetCurrency fundingCurrency = none) :
    ¬ SourcePays marketData cash targetCurrency fxNeeded fundingCurrency := by
  rintro ⟨rate, hrate, -⟩
  rw [h] at hrate
  cases hrate

theorem sourcePays_iff_of_rated (cash : String → ℚ) (fxNeeded : ℚ) {rate : ℚ}
    (h : getFxRate marketData targetCurrency fundingCurrency = some rate) :
    SourcePays marketData cash targetCurrency fxNeeded fundingCurrency ↔
      quantizeAmountForCurrency (fxNeeded * rate) fundingCurrency ≤ cash fundingCurrency := by
  constructor
  · rintro ⟨other, hother, hle⟩
    rw [h] at hother
    obtain rfl := Option.some.inj hother
    exact hle
  · intro hle
    exact ⟨rate, h, hle⟩

/-- A search ends without a source exactly if no candidate pays. -/
theorem selection_eq_none_iff (marketData : MarketDataSnapshot) (targetCurrency : String)
    (fxNeeded : ℚ) (smallestDeficit : Option FundingDeficit) (portfolio : PortfolioSnapshot)
    (diagnostics : DiagnosticsData) (candidates : List String) :
    (selectFundingSource marketData targetCurrency fxNeeded smallestDeficit portfolio diagnostics
        candidates).selection = none ↔
      ∀ candidate ∈ candidates,
        ¬ SourcePays marketData portfolio.cash targetCurrency fxNeeded candidate := by
  induction candidates generalizing smallestDeficit portfolio diagnostics with
  | nil => simp [selectFundingSource]
  | cons fundingCurrency candidates ih =>
    have hcash : (portfolio.ensureCashBalance fundingCurrency).cash = portfolio.cash :=
      funext (PortfolioSnapshot.sameRows_ensure fundingCurrency).cash_eq
    rw [List.forall_mem_cons]
    unfold selectFundingSource
    split
    · next hrate => rw [ih, iff_and_self]; exact fun _ => not_sourcePays_of_unrated _ _ hrate
    · next rate hrate =>
      dsimp only
      rw [sourcePays_iff_of_rated _ _ hrate, hcash]
      split
      · next havailable => simp [havailable]
      · next hshort => rw [ih, hcash, iff_and_self]; exact fun _ => hshort

/-- A search records no missing pair exactly if the candidates that it comes to have rates. -/
theorem missingFxPairs_search_iff (marketData : MarketDataSnapshot) (targetCurrency : String)
    (fxNeeded : ℚ) (smallestDeficit : Option FundingDeficit) (portfolio : PortfolioSnapshot)
    (diagnostics : DiagnosticsData) (candidates : List String) :
    (selectFundingSource marketData targetCurrency fxNeeded smallestDeficit portfolio diagnostics
        candidates).diagnostics.missingFxPairs = [] ↔
      diagnostics.missingFxPairs = [] ∧
        ∀ candidate ∈ candidates.takeWhile fun candidate =>
            ¬ SourcePays marketData portfolio.cash targetCurrency fxNeeded candidate,
          (getFxRate marketData targetCurrency candidate).isSome := by
  induction candidates generalizing smallestDeficit portfolio diagnostics with
  | nil => simp [selectFundingSource]
  | cons fundingCurrency candidates ih =>
    have hcash : (portfolio.ensureCashBalance fundingCurrency).cash = portfolio.cash :=
      funext (PortfolioSnapshot.sameRows_ensure fundingCurrency).cash_eq
    rw [List.takeWhile_cons]
    unfold selectFundingSource
    split
    · next hrate =>
      have hpays := not_sourcePays_of_unrated portfolio.cash fxNeeded hrate
      rw [ih, if_pos (decide_eq_true hpays), List.forall_mem_cons, hrate]
      simp [missingFxPairs_recordMissingFxPair]
    · next rate hrate =>
      dsimp only
      have hpays := sourcePays_iff_of_rated portfolio.cash fxNeeded hrate
      rw [hcash]
      split
      · next havailable => simp [hpays.mpr havailable]
      · next hshort =>
        rw [ih, hcash, if_pos (decide_eq_true (mt hpays.mp hshort)), List.forall_mem_cons, hrate]
        simp

end Search

namespace FundingState

section Classes

variable (marketData : MarketDataSnapshot) (options : EngineOptions) (s : FundingState)
  (target : String × ℚ)

/-- The candidates for the funding of a currency. -/
def candidates (targetCurrency : String) : List String :=
  fundingPriorityCurrencies options (s.portfolio.ensureCashBalance targetCurrency) targetCurrency

/-- A target needs currency, every candidate for it has a rate, and none has enough cash. -/
structure Starved : Prop where
  needed : s.cash target.1 < target.2
  rated : ∀ candidate ∈ s.candidates options target.1,
    (getFxRate marketData target.1 candidate).isSome
  short : ∀ candidate ∈ s.candidates options target.1,
    ¬ SourcePays marketData s.cash target.1 (target.2 - s.cash target.1) candidate

/-- The search for a source of a target, if there is one, meets no candidate without a rate. -/
def RatesFound : Prop :=
  s.cash target.1 < target.2 →
    ∀ candidate ∈ (s.candidates options target.1).takeWhile fun candidate =>
        ¬ SourcePays marketData s.cash target.1 (target.2 - s.cash target.1) candidate,
      (getFxRate marketData target.1 candidate).isSome

end Classes

variable {marketData : MarketDataSnapshot} {options : EngineOptions} {s : FundingState}
  {target : String × ℚ}

/-- If no candidate pays, then the search comes to all of them. -/
theorem ratesFound_iff_rated (hneeded : s.cash target.1 < target.2)
    (hshort : ∀ candidate ∈ s.candidates options target.1,
      ¬ SourcePays marketData s.cash target.1 (target.2 - s.cash target.1) candidate) :
    s.RatesFound marketData options target ↔ ∀ candidate ∈ s.candidates options target.1,
      (getFxRate marketData target.1 candidate).isSome := by
  rw [RatesFound, List.takeWhile_eq_self_iff.mpr]
  · exact ⟨fun h => h hneeded, fun h _ => h⟩
  · intro candidate hmem
    exact decide_eq_true (hshort candidate hmem)

theorem missingFxPairs_recordUnfunded (targetCurrency : String) (deficit : Option FundingDeficit)
    (plan : FundingPlanEntry) :
    (s.recordUnfundedTargetCurrency options targetCurrency deficit plan).diagnostics.missingFxPairs =
      s.diagnostics.missingFxPairs := by
  unfold recordUnfundedTargetCurrency recordMissingFxFundingFailure DiagnosticsData.warnOnce
  dsimp only
  split
  · split
    · rfl
    · split <;> rfl
  · rfl

theorem insufficient_recordUnfunded_iff (targetCurrency : String) (deficit : Option FundingDeficit)
    (plan : FundingPlanEntry) :
    "PROPOSAL_INSUFFICIENT_FUNDING_CASH" ∈
        (s.recordUnfundedTargetCurrency options targetCurrency deficit plan).hardFailures ↔
      "PROPOSAL_INSUFFICIENT_FUNDING_CASH" ∈ s.hardFailures ∨ s.diagnostics.missingFxPairs = [] := by
  unfold recordUnfundedTargetCurrency recordMissingFxFundingFailure
  dsimp only
  by_cases h : s.diagnostics.missingFxPairs = []
  · simp [h]
  · rw [if_pos h]
    split <;> simp [h]

/-- What the funding of one target adds to the missing pairs and to the failures. -/
theorem fundTargetCurrency_classified (marketData : MarketDataSnapshot) (options : EngineOptions)
    (s : FundingState) (target : String × ℚ) :
    ((fundTargetCurrency marketData options s target.1 target.2).diagnostics.missingFxPairs = [] ↔
        s.diagnostics.missingFxPairs = [] ∧ s.RatesFound marketData options target) ∧
      ("PROPOSAL_INSUFFICIENT_FUNDING_CASH" ∈
          (fundTargetCurrency marketData options s target.1 target.2).hardFailures ↔
        "PROPOSAL_INSUFFICIENT_FUNDING_CASH" ∈ s.hardFailures ∨
          s.diagnostics.missingFxPairs = [] ∧ s.Starved marketData options target) := by
  have hcash : (s.portfolio.ensureCashBalance target.1).cash = s.cash :=
    funext (PortfolioSnapshot.sameRows_ensure target.1).cash_eq
  unfold fundTargetCurrency
  dsimp only
  rw [hcash]
  by_cases hneeded : s.cash target.1 < target.2
  · have hpositive : ¬ max 0 (target.2 - s.cash target.1) ≤ 0 := by
      rw [not_le, lt_max_iff, sub_pos]
      exact .inr hneeded
    rw [if_neg hpositive, max_eq_right (sub_pos.mpr hneeded).le]
    have hnone := selection_eq_none_iff marketData target.1 (target.2 - s.cash target.1) none
      (s.portfolio.ensureCashBalance target.1) s.diagnostics (s.candidates options target.1)
    have hmissing := missingFxPairs_search_iff marketData target.1 (target.2 - s.cash target.1) none
      (s.portfolio.ensureCashBalance target.1) s.diagnostics (s.candidates options target.1)
    have hfound : s.RatesFound marketData options target ↔ _ := ⟨fun h => h hneeded, fun h _ => h⟩
    rw [hcash] at hnone hmissing
    rw [← hfound] at hmissing
    rw [candidates] at hnone hmissing
    split
    · next hselection =>
      have hshort := hnone.mp hselection
      rw [missingFxPairs_recordUnfunded, insufficient_recordUnfunded_iff]
      refine ⟨hmissing, or_congr Iff.rfl (hmissing.trans (and_congr Iff.rfl ?_))⟩
      rw [ratesFound_iff_rated hneeded hshort]
      exact ⟨fun h => ⟨hneeded, h, hshort⟩, Starved.rated⟩
    · next selected hselection =>
      refine ⟨hmissing, iff_self_or.mpr ?_⟩
      rintro ⟨-, hstarved⟩
      rw [hnone.mpr hstarved.short] at hselection
      cases hselection
  · have hzero : max 0 (target.2 - s.cash target.1) ≤ 0 := by
      rw [max_le_iff, sub_nonpos]
      exact ⟨le_rfl, not_lt.mp hneeded⟩
    rw [if_pos hzero]
    constructor
    · rw [iff_self_and]
      exact fun _ h => absurd h hneeded
    · rw [iff_self_or]
      exact fun h => absurd h.2.needed hneeded

/-- Each search for one of the targets, in the state that it starts in, meets no candidate without
a rate. -/
def EveryRateFound (marketData : MarketDataSnapshot) (options : EngineOptions) (s : FundingState)
    (targets : List (String × ℚ)) : Prop :=
  ∀ funded target later, targets = funded ++ target :: later →
    (s.after marketData options funded).RatesFound marketData options target

theorem after_concat (targets : List (String × ℚ)) : s.after marketData options (targets ++ [target]) =
    fundTargetCurrency marketData options (s.after marketData options targets) target.1 target.2 := by
  rw [after, after, List.foldl_append]
  rfl

theorem missingFxPairs_after_iff (targets : List (String × ℚ)) :
    (s.after marketData options targets).diagnostics.missingFxPairs = [] ↔
      s.diagnostics.missingFxPairs = [] ∧ s.EveryRateFound marketData options targets := by
  induction targets using List.reverseRecOn with
  | nil => simp [after, EveryRateFound]
  | append_singleton targets target ih =>
    rw [after_concat, (fundTargetCurrency_classified marketData options _ target).1, ih, and_assoc,
      EveryRateFound, EveryRateFound, forall_split_concat (P := fun funded target =>
        (s.after marketData options funded).RatesFound marketData options target)]

/-- Insufficient cash is recorded for the targets that starve while no pair is missing. -/
theorem insufficient_after_iff (targets : List (String × ℚ)) (hnew : s.hardFailures = []) :
    "PROPOSAL_INSUFFICIENT_FUNDING_CASH" ∈ (s.after marketData options targets).hardFailures ↔
      ∃ funded target later, targets = funded ++ target :: later ∧
        (s.after marketData options funded).diagnostics.missingFxPairs = [] ∧
          (s.after marketData options funded).Starved marketData options target := by
  induction targets using List.reverseRecOn with
  | nil => simp [after, hnew]
  | append_singleton targets target ih =>
    rw [after_concat, (fundTargetCurrency_classified marketData options _ target).2, ih]
    exact (exists_split_concat (P := fun funded target =>
      (s.after marketData options funded).diagnostics.missingFxPairs = [] ∧
        (s.after marketData options funded).Starved marketData options target)).symm

end FundingState

section Plans

variable (marketData : MarketDataSnapshot) (options : EngineOptions) (portfolio : PortfolioSnapshot)
  (buys : List SecurityTradeIntent) (diagnostics : DiagnosticsData)

/-- The plan comes to a target that starves, after it has funded some targets. -/
structure ComesToStarved (funded : List (String × ℚ)) (target : String × ℚ) : Prop where
  auto : options.autoFunding = true
  reached : ∃ later, fundingTargets buys = funded ++ target :: later
  starved : (FundingState.after marketData options { portfolio, diagnostics } funded).Starved
    marketData options target

/-- Insufficient cash is recorded for every currency that starves exactly if the plan comes to one
of them before any pair is missing. -/
theorem insufficient_cash_classified_iff :
    (∀ funded target, ComesToStarved marketData options portfolio buys diagnostics funded target →
        "PROPOSAL_INSUFFICIENT_FUNDING_CASH" ∈
          (buildAutoFundingPlan marketData options portfolio buys diagnostics).hardFailures) ↔
      ((∃ funded target, ComesToStarved marketData options portfolio buys diagnostics funded target) →
        diagnostics.missingFxPairs = [] ∧
          ∃ funded target, ComesToStarved marketData options portfolio buys diagnostics funded target ∧
            FundingState.EveryRateFound marketData options { portfolio, diagnostics } funded) := by
  have hplan : ∀ hauto : options.autoFunding = true,
      buildAutoFundingPlan marketData options portfolio buys diagnostics =
        FundingState.after marketData options { portfolio, diagnostics } (fundingTargets buys) :=
    fun hauto => if_pos hauto
  constructor
  · rintro h ⟨funded, target, hstarved⟩
    have hrecorded := h funded target hstarved
    rw [hplan hstarved.auto, FundingState.insufficient_after_iff _ rfl] at hrecorded
    obtain ⟨funded, target, later, hsplit, hmissing, hfirst⟩ := hrecorded
    obtain ⟨hnone, hrates⟩ := (FundingState.missingFxPairs_after_iff funded).mp hmissing
    exact ⟨hnone, funded, target, ⟨hstarved.auto, ⟨later, hsplit⟩, hfirst⟩, hrates⟩
  · intro h funded target hstarved
    obtain ⟨hnone, funded, target, ⟨hauto, ⟨later, hsplit⟩, hfirst⟩, hrates⟩ :=
      h ⟨funded, target, hstarved⟩
    rw [hplan hauto, FundingState.insufficient_after_iff _ rfl]
    exact ⟨funded, target, later, hsplit,
      (FundingState.missingFxPairs_after_iff funded).mpr ⟨hnone, hrates⟩, hfirst⟩

end Plans

namespace UnratedSample

/-- Yen cannot be bought with euros. -/
def portfolio : PortfolioSnapshot where
  baseCurrency := "EUR"
  positions := []
  cashBalances := [⟨"EUR", 1⟩]

def marketData : MarketDataSnapshot where
  prices := []
  fxRates := [⟨"USD/EUR", 9 / 10, OverdrawnSample.rate_pos⟩, ⟨"USD/JPY", 150, by norm_num⟩]

/-- The buy in dollars is funded after the one in yen. -/
def buys : List SecurityTradeIntent :=
  [OverdrawnSample.buy "oi_1" "BOND" 10 100 "JPY", OverdrawnSample.buy "oi_2" "SHARE" 10 50 "USD"]

/-- The candidates for dollars have rates and too little cash, and only missing rates are recorded. -/
theorem starved_not_recorded :
    ComesToStarved marketData {} portfolio buys {} [("JPY", 100)] ("USD", 50) ∧
      "PROPOSAL_INSUFFICIENT_FUNDING_CASH" ∉
        (buildAutoFundingPlan marketData {} portfolio buys {}).hardFailures := by
  refine ⟨⟨rfl, ⟨[], by decide +kernel⟩, ?_, ?_, ?_⟩, ?_⟩ <;> decide +kernel

end UnratedSample

end LotusAdvise.Advisory

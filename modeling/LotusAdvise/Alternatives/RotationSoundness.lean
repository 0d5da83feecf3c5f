import LotusAdvise.Alternatives.RotationConstraints

/-! # Rotations that keep the constraints

What a rotation buys is entirely approved and bought in an allowed currency, and paid with proceeds
of that currency, exactly when the holding, the shelf and the constraints make it so: no strategy
looks at other shelf rows of the instrument, at whether the base currency is allowed or at the
currency of the proceeds.
-/

namespace LotusAdvise.Alternatives

section Builds

variable {services : StrategyServices} {request : NormalizedProposalAlternativesRequest}
  {inputs : AlternativeStrategyInputs} {excludeCurrencies : Option (List String)}
  {sold : StrategyPosition} {bought : String}

/-- A strategy builds the rotations of the holdings with a property, and nothing else, when it is
enabled. -/
structure BuildsRotations (texts : Payloads.DecimalTexts)
    (request : NormalizedProposalAlternativesRequest) (inputs : AlternativeStrategyInputs)
    (excludeCurrencies : Option (List String)) (enabled : Prop) (eligible : StrategyPosition → Prop)
    (result : Except String AlternativeStrategyBuildResult) : Prop where
  only : ∀ built, result = .ok built → ∀ seed ∈ built.seeds, enabled ∧ ∃ sold bought,
    Rotates inputs request.constraints excludeCurrencies sold bought ∧ eligible sold ∧
    seed.generatedIntents = rotationIntents texts inputs sold bought
  all : enabled → ∀ sold bought,
    Rotates inputs request.constraints excludeCurrencies sold bought → eligible sold →
    ∃ built, result = .ok built ∧ ∃ seed ∈ built.seeds,
      seed.generatedIntents = rotationIntents texts inputs sold bought

theorem BuildsRotations.seedsKeepConstraints_iff {texts : Payloads.DecimalTexts} {enabled : Prop}
    {eligible : StrategyPosition → Prop} {result : Except String AlternativeStrategyBuildResult}
    (h : BuildsRotations texts request inputs excludeCurrencies enabled eligible result) :
    SeedsKeepConstraints inputs request.constraints texts excludeCurrencies result ↔
      (enabled → ∀ sold bought,
        Rotates inputs request.constraints excludeCurrencies sold bought → eligible sold →
        RotationSound inputs request.constraints sold bought) := by
  constructor
  · intro hkeeps henabled sold bought hrotates heligible
    obtain ⟨built, hbuilt, seed, hseed, hintents⟩ := h.all henabled sold bought hrotates heligible
    obtain ⟨sold', quantity, hsold', hkept⟩ := hkeeps built hbuilt seed hseed
    obtain rfl : sold = sold' := Option.some.inj
      ((largestSellablePosition_eq_some.mpr hrotates.largest).symm.trans hsold')
    exact hkept.sound hintents
  · intro hsound built hbuilt seed hseed
    obtain ⟨henabled, sold, bought, hrotates, heligible, hintents⟩ := h.only built hbuilt seed hseed
    exact ⟨sold, _, largestSellablePosition_eq_some.mpr hrotates.largest,
      hrotates.keepsConstraints (hsound henabled sold bought hrotates heligible) hintents⟩

theorem seed_eq_ok {strategy : AlternativeStrategy} {pivot : String} {intents : List JsonObject}
    {metadata : JsonObject} {seed : AlternativeCandidateSeed}
    (h : strategy.seed services inputs request pivot intents metadata = .ok seed) :
    strategy.objective ∈ request.requestedObjectives ∧ seed.generatedIntents = intents := by
  unfold AlternativeStrategy.seed at h
  split_ifs at h with hrequested
  cases h
  exact ⟨hrequested, rfl⟩

theorem exists_seed (services : StrategyServices) (inputs : AlternativeStrategyInputs)
    (strategy : AlternativeStrategy) (pivot : String) (intents : List JsonObject)
    (metadata : JsonObject) (h : strategy.objective ∈ request.requestedObjectives) :
    ∃ seed, strategy.seed services inputs request pivot intents metadata = .ok seed ∧
      seed.generatedIntents = intents :=
  ⟨_, if_neg (not_not.mpr h), rfl⟩

/-- A half can only be sold of a holding of two units. -/
theorem two_le_of_halfQuantity {quantity half : ℚ} (h : halfQuantity quantity = some half) :
    2 ≤ quantity ∧ half = ⌊quantity / 2⌋ := by
  rcases lt_or_ge quantity 2 with hlt | hle
  · rw [halfQuantity_of_lt_two hlt] at h
    cases h
  · rw [(halfQuantity_of_two_le hle).1] at h
    exact ⟨hle, (Option.some.inj h).symm⟩

namespace ReduceConcentration

theorem buyIntent_eq (plan : ReduceConcentrationPlan)
    (hcurrency : plan.replacement.currency = some inputs.baseCurrency) :
    reduceConcentrationBuyIntent services plan inputs.baseCurrency
        (estimatedNotional plan.candidate.price plan.sellQuantity) =
      buyIntentFor services.texts plan.candidate plan.replacement.instrumentId plan.sellQuantity
        inputs.baseCurrency := by
  unfold reduceConcentrationBuyIntent buyIntentFor
  cases estimatedNotional plan.candidate.price plan.sellQuantity with
  | none => rfl
  | some proceeds =>
    dsimp only
    rw [hcurrency, currencyOr_self]

theorem payload_intents (plan : ReduceConcentrationPlan)
    (hcurrency : plan.replacement.currency = some inputs.baseCurrency)
    (hquantity : plan.sellQuantity = ⌊plan.candidate.quantity / 2⌋) :
    (reduceConcentrationSeedPayload services plan inputs.baseCurrency).1 =
      rotationIntents services.texts inputs plan.candidate plan.replacement.instrumentId := by
  unfold reduceConcentrationSeedPayload rotationIntents
  dsimp only
  rw [buyIntent_eq plan hcurrency, hquantity]

theorem plan_spec {plan : ReduceConcentrationPlan}
    (h : reduceConcentrationPlanOrRejection request inputs = .ok plan) :
    Rotates inputs request.constraints none plan.candidate plan.replacement.instrumentId ∧
      plan.replacement.currency = some inputs.baseCurrency ∧
      plan.sellQuantity = ⌊plan.candidate.quantity / 2⌋ := by
  unfold reduceConcentrationPlanOrRejection at h
  split at h
  · cases h
  · next candidate hcandidate =>
    split at h
    · cases h
    · next replacement hreplacement =>
      split at h
      · cases h
      · next sellQuantity hquantity =>
        cases h
        obtain ⟨hlarge, heq⟩ := two_le_of_halfQuantity hquantity
        obtain ⟨hreplaces, hcurrency⟩ := preferredBuyInstrument_eq_some hreplacement
        exact ⟨⟨largestSellablePosition_eq_some.mp hcandidate, hlarge, hreplaces⟩, hcurrency, heq⟩

theorem exists_plan (h : Rotates inputs request.constraints none sold bought) :
    ∃ plan, reduceConcentrationPlanOrRejection request inputs = .ok plan ∧
      plan.candidate = sold ∧ plan.replacement.instrumentId = bought := by
  obtain ⟨replacement, hreplacement, hid⟩ := h.replaced.preferred
  unfold reduceConcentrationPlanOrRejection
  rw [largestSellablePosition_eq_some.mpr h.largest]
  dsimp only
  rw [hreplacement, (halfQuantity_of_two_le h.large).1]
  exact ⟨_, rfl, rfl, hid⟩

theorem builds_rotations :
    BuildsRotations services.texts request inputs none
      (.reduceConcentration ∈ request.requestedObjectives) (fun _ => True)
      (buildResult services request inputs) := by
  unfold buildResult
  constructor
  · intro built hbuilt seed hseed
    cases hplan : reduceConcentrationPlanOrRejection request inputs with
    | error rejection =>
      rw [hplan] at hbuilt
      cases hbuilt
      cases hseed
    | ok plan =>
      rw [hplan] at hbuilt
      obtain ⟨seed', hseed', rfl⟩ := map_eq_ok.mp hbuilt
      obtain rfl := List.mem_singleton.mp hseed
      obtain ⟨hrequested, hintents⟩ := seed_eq_ok hseed'
      obtain ⟨hrotates, hcurrency, hquantity⟩ := plan_spec hplan
      exact ⟨hrequested, plan.candidate, _, hrotates, trivial,
        hintents.trans (payload_intents plan hcurrency hquantity)⟩
  · intro hrequested sold bought hrotates _
    obtain ⟨plan, hplan, rfl, rfl⟩ := exists_plan hrotates
    obtain ⟨-, hcurrency, hquantity⟩ := plan_spec hplan
    rw [hplan]
    obtain ⟨seed, hseed, hintents⟩ := exists_seed services inputs strategy
      plan.candidate.instrumentId
      (reduceConcentrationSeedPayload services plan inputs.baseCurrency).1
      (reduceConcentrationSeedPayload services plan inputs.baseCurrency).2 hrequested
    refine ⟨_, map_eq_ok.mpr ⟨seed, hseed, rfl⟩, seed, List.mem_singleton_self seed, ?_⟩
    exact hintents.trans (payload_intents plan hcurrency hquantity)

end ReduceConcentration

namespace ImproveCurrencyAlignment

theorem intents_spec (candidate replacement : StrategyPosition) {price : ℚ}
    (hcurrency : replacement.currency = some inputs.baseCurrency)
    (hprice : candidate.price = some price) :
    currencyAlignmentIntents services inputs candidate replacement ⌊candidate.quantity / 2⌋
        (roundHalfUp (price * ⌊candidate.quantity / 2⌋ * 100) / 100) =
      rotationIntents services.texts inputs candidate replacement.instrumentId := by
  unfold currencyAlignmentIntents rotationIntents buyIntentFor estimatedNotional
  rw [hcurrency, currencyOr_self, hprice]
  rfl

theorem plan_spec {plan : CurrencyAlignmentTradePlan}
    (h : currencyAlignmentTradePlanOrRejection services request inputs = .ok plan) :
    request.constraints.allowFx = true ∧ ∃ bought,
      Rotates inputs request.constraints (some (alignedCurrencySet inputs request.constraints))
        plan.candidate bought ∧
      plan.candidate.price ≠ none ∧
      plan.generatedIntents = rotationIntents services.texts inputs plan.candidate bought := by
  unfold currencyAlignmentTradePlanOrRejection currencyAlignmentPreconditionRejection at h
  split_ifs at h with hfx
  dsimp only at h
  split at h
  · cases h
  · next candidate hcandidate =>
    split at h
    · cases h
    · next replacement hreplacement =>
      unfold currencyAlignmentTradePlan at h
      split at h
      · cases h
      · next sellQuantity hquantity =>
        split at h
        · cases h
        · next sellNotional hnotional =>
          cases h
          obtain ⟨hlarge, rfl⟩ := two_le_of_halfQuantity hquantity
          obtain ⟨hreplaces, hcurrency⟩ := preferredBuyInstrument_eq_some hreplacement
          obtain ⟨price, hprice, rfl⟩ := Option.map_eq_some_iff.mp hnotional
          refine ⟨(Bool.not_eq_false _).mp hfx, replacement.instrumentId,
            ⟨largestSellablePosition_eq_some.mp hcandidate, hlarge, hreplaces⟩, ?_,
            intents_spec candidate replacement hcurrency hprice⟩
          rw [hprice]
          exact Option.some_ne_none _

theorem exists_plan (services : StrategyServices) (hfx : request.constraints.allowFx = true)
    (h : Rotates inputs request.constraints (some (alignedCurrencySet inputs request.constraints))
      sold bought) (hprice : sold.price ≠ none) :
    ∃ plan, currencyAlignmentTradePlanOrRejection services request inputs = .ok plan ∧
      plan.generatedIntents = rotationIntents services.texts inputs sold bought := by
  obtain ⟨replacement, hreplacement, rfl⟩ := h.replaced.preferred
  obtain ⟨price, hprice⟩ := Option.ne_none_iff_exists'.mp hprice
  obtain ⟨-, hcurrency⟩ := preferredBuyInstrument_eq_some hreplacement
  have hallowed : request.constraints.allowFx ≠ false := by
    rw [hfx]
    exact Bool.true_eq_false_eq_False
  unfold currencyAlignmentTradePlanOrRejection currencyAlignmentPreconditionRejection
    misalignedCurrencyPosition currencyAlignmentReplacement
  rw [if_pos hallowed, largestSellablePosition_eq_some.mpr h.largest]
  dsimp only
  rw [hreplacement]
  dsimp only
  unfold currencyAlignmentTradePlan
  rw [(halfQuantity_of_two_le h.large).1, hprice]
  exact ⟨_, rfl, intents_spec sold replacement hcurrency hprice⟩

theorem builds_rotations :
    BuildsRotations services.texts request inputs
      (some (alignedCurrencySet inputs request.constraints))
      (.improveCurrencyAlignment ∈ request.requestedObjectives ∧
        request.constraints.allowFx = true) (fun sold => sold.price ≠ none)
      (buildResult services request inputs) := by
  unfold buildResult
  constructor
  · intro built hbuilt seed hseed
    cases hplan : currencyAlignmentTradePlanOrRejection services request inputs with
    | error rejection =>
      rw [hplan] at hbuilt
      cases hbuilt
      cases hseed
    | ok plan =>
      rw [hplan] at hbuilt
      obtain ⟨seed', hseed', rfl⟩ := map_eq_ok.mp hbuilt
      obtain rfl := List.mem_singleton.mp hseed
      obtain ⟨hrequested, hintents⟩ := seed_eq_ok hseed'
      obtain ⟨hfx, bought, hrotates, hprice, hplanned⟩ := plan_spec hplan
      exact ⟨⟨hrequested, hfx⟩, plan.candidate, bought, hrotates, hprice,
        hintents.trans hplanned⟩
  · rintro ⟨hrequested, hfx⟩ sold bought hrotates hprice
    obtain ⟨plan, hplan, hplanned⟩ := exists_plan services hfx hrotates hprice
    rw [hplan]
    obtain ⟨seed, hseed, hintents⟩ := exists_seed services inputs strategy
      plan.candidate.instrumentId plan.generatedIntents plan.metadata hrequested
    exact ⟨_, map_eq_ok.mpr ⟨seed, hseed, rfl⟩, seed, List.mem_singleton_self seed,
      hintents.trans hplanned⟩

/-- A holding outside the aligned currencies cannot be paid for in the base currency. -/
theorem not_rotationSound
    (h : Rotates inputs request.constraints (some (alignedCurrencySet inputs request.constraints))
      sold bought) (hprice : sold.price ≠ none) :
    ¬ RotationSound inputs request.constraints sold bought := by
  intro hsound
  obtain ⟨-, -, -, hexcluded⟩ := of_decide_eq_true (List.mem_filter.mp h.largest.1).2
  have hbase := hexcluded _ rfl _ (hsound.proceeds.resolve_left hprice)
  refine hbase ?_
  unfold alignedCurrencySet
  split_ifs with hallowed
  · exact List.mem_singleton_self _
  · exact hsound.currency.resolve_left hallowed

end ImproveCurrencyAlignment

/-- The seeds that are built keep the constraints exactly when the instrument that is bought is
entirely approved, the base currency is allowed and the holding that is sold has no price or one in
the base currency. A holding that is sold to align currencies is never such. -/
theorem rotations_keep_constraints_iff (services : StrategyServices)
    (request : NormalizedProposalAlternativesRequest) (inputs : AlternativeStrategyInputs) :
    (SeedsKeepConstraints inputs request.constraints services.texts none
        (ReduceConcentration.buildResult services request inputs) ↔
      (.reduceConcentration ∈ request.requestedObjectives → ∀ sold bought,
        Rotates inputs request.constraints none sold bought →
        RotationSound inputs request.constraints sold bought)) ∧
    (SeedsKeepConstraints inputs request.constraints services.texts
        (some (ImproveCurrencyAlignment.alignedCurrencySet inputs request.constraints))
        (ImproveCurrencyAlignment.buildResult services request inputs) ↔
      (.improveCurrencyAlignment ∈ request.requestedObjectives →
        request.constraints.allowFx = true → ∀ sold bought,
        Rotates inputs request.constraints
          (some (ImproveCurrencyAlignment.alignedCurrencySet inputs request.constraints))
          sold bought →
        sold.price = none)) := by
  constructor
  · rw [ReduceConcentration.builds_rotations.seedsKeepConstraints_iff]
    simp only [true_implies]
  · rw [ImproveCurrencyAlignment.builds_rotations.seedsKeepConstraints_iff]
    constructor
    · intro h hrequested hfx sold bought hrotates
      by_contra hprice
      exact ImproveCurrencyAlignment.not_rotationSound hrotates hprice
        (h ⟨hrequested, hfx⟩ sold bought hrotates hprice)
    · rintro h ⟨hrequested, hfx⟩ sold bought hrotates hprice
      exact absurd (h hrequested hfx sold bought hrotates) hprice

end Builds

namespace RotationSample

/-- A holding that is priced in yen. -/
def holding : StrategyPosition where
  instrumentId := "EQ_JP"
  quantity := 10
  price := some 1000
  currency := some "JPY"

def fund : StrategyPosition where
  instrumentId := "BD_US"
  quantity := 20
  price := some 100
  currency := some "USD"

def inputs : AlternativeStrategyInputs where
  portfolioId := "pf_001"
  baseCurrency := "USD"
  positions := [holding, fund]
  shelfInstruments := [{ instrumentId := "BD_US", status := .approved }]

def request : NormalizedProposalAlternativesRequest where
  requestedObjectives := [.reduceConcentration, .improveCurrencyAlignment]
  constraints := { allowedCurrencies := ["USD"] }
  maxAlternatives := 3

def services : StrategyServices where
  lower := id
  texts := default

theorem rotates (excludeCurrencies : Option (List String))
    (h : largestSellablePosition inputs request.constraints none excludeCurrencies =
      some holding) :
    Rotates inputs request.constraints excludeCurrencies holding "BD_US" := by
  have hbought : preferredBuyInstrument inputs request.constraints ["EQ_JP"] (some "USD") =
      some fund := by
    decide +kernel
  exact ⟨largestSellablePosition_eq_some.mp h, by norm_num [holding],
    (preferredBuyInstrument_eq_some hbought).1⟩

theorem rotationIntents_eq : rotationIntents services.texts inputs holding "BD_US" =
    [sellIntent services.texts "EQ_JP" 5,
      notionalBuyIntent services.texts "BD_US" 5000 "USD"] := by
  have hhalf : ⌊(10 : ℚ) / 2⌋ = 5 := by norm_num
  have hproceeds : (roundHalfUp (1000 * (5 : ℤ) * 100) : ℚ) / 100 = 5000 := by
    have hround : roundHalfUp (1000 * (5 : ℤ) * 100) = 500000 := by
      norm_num [roundHalfUp]
    rw [hround]
    norm_num
  unfold rotationIntents buyIntentFor estimatedNotional holding
  simp only [Option.map_some, hhalf, hproceeds]
  rfl

end RotationSample

open RotationSample in
/-- For five units at 1000 yen, either strategy buys for 5000 dollars. -/
theorem rotation_relabels_proceeds :
    (∃ built seed, ReduceConcentration.buildResult services request inputs = .ok built ∧
      seed ∈ built.seeds ∧
      seed.generatedIntents = [sellIntent services.texts "EQ_JP" 5,
        notionalBuyIntent services.texts "BD_US" 5000 "USD"]) ∧
    ¬ SeedsKeepConstraints inputs request.constraints services.texts none
      (ReduceConcentration.buildResult services request inputs) ∧
    ¬ SeedsKeepConstraints inputs request.constraints services.texts
      (some (ImproveCurrencyAlignment.alignedCurrencySet inputs request.constraints))
      (ImproveCurrencyAlignment.buildResult services request inputs) := by
  have hrotates := rotates none (by decide +kernel)
  have haligns := rotates
    (some (ImproveCurrencyAlignment.alignedCurrencySet inputs request.constraints))
    (by decide +kernel)
  have hpriced : holding.price ≠ none := Option.some_ne_none _
  refine ⟨?_, fun h => ?_, fun h => ?_⟩
  · obtain ⟨built, hbuilt, seed, hseed, hintents⟩ := ReduceConcentration.builds_rotations.all
      (by decide) holding "BD_US" hrotates trivial
    exact ⟨built, seed, hbuilt, hseed, hintents.trans rotationIntents_eq⟩
  · have hsound := ReduceConcentration.builds_rotations.seedsKeepConstraints_iff.mp h
      (by decide) holding "BD_US" hrotates trivial
    exact absurd (hsound.proceeds.resolve_left hpriced) (by decide)
  · exact ImproveCurrencyAlignment.not_rotationSound haligns hpriced
      (ImproveCurrencyAlignment.builds_rotations.seedsKeepConstraints_iff.mp h (by decide) holding
        "BD_US" haligns hpriced)

end LotusAdvise.Alternatives

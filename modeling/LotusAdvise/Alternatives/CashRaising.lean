import LotusAdvise.Alternatives.RotationSoundness

/-! # Raising cash

A strategy sells whole units of one holding in the base currency, so that the cash in it reaches a
floor. The holding is chosen by its value before it is known whether it is large enough, so that
there may be a seed with another one.
-/

namespace LotusAdvise.Alternatives

/-- `ROUND_UP`, to a whole number. -/
def roundUp (x : ℚ) : ℤ := if 0 ≤ x then ⌈x⌉ else ⌊x⌋

def quantityForNotional (requiredNotional price maxQuantity : ℚ) : Except String (Option ℚ) :=
  if requiredNotional ≤ 0 then .ok none
  else if price = 0 then .error "DivisionByZero"
  else if roundUp (requiredNotional / price) ≤ 0 ∨
      maxQuantity < roundUp (requiredNotional / price) then .ok none
  else .ok (some (roundUp (requiredNotional / price)))

namespace RaiseCash

def strategy : AlternativeStrategy where
  strategyId := "raise_cash_v1"
  objective := .raiseCash
  label := "Raise cash"
  summary := "Raise additional base-currency cash by selling the largest sellable holding."

section Code

variable (services : StrategyServices) (request : NormalizedProposalAlternativesRequest)
  (inputs : AlternativeStrategyInputs)

def currentCash : ℚ := (Dict.get? inputs.cashBalances inputs.baseCurrency).getD 0

def raiseCashShortfallOrRejection : Except StrategyRejection ℚ :=
  match request.constraints.cashFloor with
  | none => .error {
      reasonCode := "ALTERNATIVE_CASH_FLOOR_REQUIRED"
      summary := "Cash-raising alternatives require an explicit cash floor constraint."
      pivot := inputs.baseCurrency
      failedConstraints := ["cash_floor"] }
  | some cashFloor =>
    if cashFloor.currency ≠ inputs.baseCurrency then .error {
      reasonCode := "ALTERNATIVE_CASH_FLOOR_CURRENCY_MISMATCH"
      summary := "Cash-raising alternatives currently require a cash floor " ++
        "in portfolio base currency."
      pivot := inputs.baseCurrency
      failedConstraints := ["cash_floor.currency"] }
    else if cashFloor.amount - currentCash inputs ≤ 0 then .error {
      reasonCode := "ALTERNATIVE_CASH_ALREADY_SUFFICIENT"
      summary := "Base-currency cash already satisfies the requested cash floor."
      pivot := inputs.baseCurrency
      failedConstraints := ["cash_floor"] }
    else .ok (cashFloor.amount - currentCash inputs)

def baseCurrencyLiquidSource (constraints : ProposalAlternativesConstraints) :
    Option StrategyPosition :=
  match largestSellablePosition inputs constraints (some inputs.baseCurrency) none with
  | none => none
  | some candidate =>
    if candidate.price = none ∨ candidate.currency ≠ some inputs.baseCurrency then none
    else some candidate

/-- The intents and the metadata. -/
def raiseCashSeedPayload (candidate : StrategyPosition) (sellQuantity shortfall : ℚ) :
    List JsonObject × JsonObject :=
  let estimatedCashRaised := (estimatedNotional candidate.price sellQuantity).getD 0
  ([sellIntent services.texts candidate.instrumentId sellQuantity],
    [("cash_floor_shortfall", .str (services.texts.text shortfall)),
      ("estimated_cash_raised", .str (services.texts.text estimatedCashRaised))])

def noLiquidSourceRejection : StrategyRejection where
  reasonCode := "ALTERNATIVE_NO_BASE_CURRENCY_LIQUID_SOURCE"
  summary := "No sellable base-currency position can raise the requested cash deterministically."
  pivot := inputs.baseCurrency

def positionTooSmallRejection (candidate : StrategyPosition) : StrategyRejection where
  reasonCode := "ALTERNATIVE_POSITION_TOO_SMALL"
  summary := "No sellable position can raise the requested cash floor without exceeding holdings."
  pivot := candidate.instrumentId

def rejectedResult (rejection : StrategyRejection) : AlternativeStrategyBuildResult where
  rejectedCandidates := [strategy.reject services inputs rejection]

/-- What is left of the strategy when the shortfall is known. -/
def resultForShortfall (shortfall : ℚ) : Except String AlternativeStrategyBuildResult :=
  match baseCurrencyLiquidSource inputs request.constraints with
  | none => .ok (rejectedResult services inputs (noLiquidSourceRejection inputs))
  | some candidate =>
    match candidate.price with
    | none => .ok (rejectedResult services inputs (noLiquidSourceRejection inputs))
    | some candidatePrice =>
      match quantityForNotional shortfall candidatePrice candidate.quantity with
      | .error exception => .error exception
      | .ok none => .ok (rejectedResult services inputs (positionTooSmallRejection candidate))
      | .ok (some sellQuantity) =>
        let payload := raiseCashSeedPayload services candidate sellQuantity shortfall
        (strategy.seed services inputs request candidate.instrumentId payload.1 payload.2).map
          fun seed => { seeds := [seed] }

def buildResult : Except String AlternativeStrategyBuildResult :=
  match raiseCashShortfallOrRejection request inputs with
  | .error rejection => .ok (rejectedResult services inputs rejection)
  | .ok shortfall => resultForShortfall services request inputs shortfall

end Code

section Statements

variable (request : NormalizedProposalAlternativesRequest) (inputs : AlternativeStrategyInputs)

/-- The floor is one in the base currency, and the cash in it is lower. -/
structure FloorAboveCash (cashFloor : AlternativeMoneyConstraint) : Prop where
  requested : request.constraints.cashFloor = some cashFloor
  currency : cashFloor.currency = inputs.baseCurrency
  above : currentCash inputs < cashFloor.amount

/-- The holdings in the base currency that may be sold. -/
def sellablePositions : List StrategyPosition :=
  inputs.positions.filter
    (sellablePositionMatchesConstraints request.constraints (some inputs.baseCurrency) none)

/-- Whole units of the holding bring in at least the shortfall. -/
def Covers (shortfall : ℚ) (position : StrategyPosition) : Prop :=
  ∃ price ∈ position.price, ∃ units : ℕ, units ≤ position.quantity ∧ shortfall ≤ units * price

/-- The seed sells what there is of a holding, and the cash reaches the floor. -/
def ReachesFloor (texts : Payloads.DecimalTexts) (cashFloor : AlternativeMoneyConstraint)
    (seed : AlternativeCandidateSeed) : Prop :=
  ∃ position ∈ inputs.positions, ∃ price ∈ position.price, ∃ quantity,
    seed.generatedIntents = [sellIntent texts position.instrumentId quantity] ∧
    quantity ≤ position.quantity ∧ cashFloor.amount ≤ currentCash inputs + quantity * price

structure RaisesCash (texts : Payloads.DecimalTexts) (cashFloor : AlternativeMoneyConstraint)
    (result : Except String AlternativeStrategyBuildResult) : Prop where
  sound : ∀ built, result = .ok built → ∀ seed ∈ built.seeds,
    ReachesFloor inputs texts cashFloor seed
  complete : (∃ position ∈ sellablePositions request inputs,
      Covers (cashFloor.amount - currentCash inputs) position) →
    ∃ seed, result = .ok { seeds := [seed] }

end Statements

variable {services : StrategyServices} {request : NormalizedProposalAlternativesRequest}
  {inputs : AlternativeStrategyInputs} {cashFloor : AlternativeMoneyConstraint}
  {position : StrategyPosition} {shortfall price : ℚ}

theorem roundUp_of_nonneg {x : ℚ} (h : 0 ≤ x) : roundUp x = ⌈x⌉ := if_pos h

/-- The units that are sold are the least that bring in the shortfall. -/
theorem quantityForNotional_eq (hshortfall : 0 < shortfall) (hprice : 0 < price)
    (maxQuantity : ℚ) :
    quantityForNotional shortfall price maxQuantity =
      .ok (if (⌈shortfall / price⌉ : ℚ) ≤ maxQuantity then some (⌈shortfall / price⌉ : ℚ)
        else none) := by
  have hunits : 0 < shortfall / price := div_pos hshortfall hprice
  have hceil : ¬ ⌈shortfall / price⌉ ≤ 0 := (Int.ceil_pos.mpr hunits).not_ge
  unfold quantityForNotional
  rw [if_neg hshortfall.not_ge, if_neg hprice.ne', roundUp_of_nonneg hunits.le]
  split_ifs with hlarge hcovers hcovers
  · exact absurd hcovers (hlarge.resolve_left hceil).not_ge
  · rfl
  · rfl
  · exact absurd (.inr (not_le.mp hcovers)) hlarge

/-- A holding covers the shortfall when the least number of units that does is not too large. -/
theorem covers_iff (hposition : position.price = some price) (hshortfall : 0 < shortfall)
    (hprice : 0 < price) :
    Covers shortfall position ↔ (⌈shortfall / price⌉ : ℚ) ≤ position.quantity := by
  constructor
  · rintro ⟨price', hprice', units, hunits, hcovered⟩
    obtain rfl : price = price' := Option.some.inj (hposition.symm.trans hprice')
    have hceil : ⌈shortfall / price⌉ ≤ (units : ℤ) := by
      refine Int.ceil_le.mpr ?_
      rw [Int.cast_natCast]
      exact (div_le_iff₀ hprice).mpr hcovered
    calc (⌈shortfall / price⌉ : ℚ) ≤ ((units : ℤ) : ℚ) := Int.cast_le.mpr hceil
      _ = units := Int.cast_natCast units
      _ ≤ position.quantity := hunits
  · intro hquantity
    have hceil : 0 < ⌈shortfall / price⌉ := Int.ceil_pos.mpr (div_pos hshortfall hprice)
    obtain ⟨units, hunits⟩ := Int.eq_ofNat_of_zero_le hceil.le
    have hcast : (⌈shortfall / price⌉ : ℚ) = units := by
      rw [hunits]
      exact Int.cast_natCast units
    refine ⟨price, hposition, units, hcast ▸ hquantity, ?_⟩
    rw [← hcast]
    exact (div_le_iff₀ hprice).mp (Int.le_ceil _)

theorem shortfall_of_floorAboveCash (h : FloorAboveCash request inputs cashFloor) :
    raiseCashShortfallOrRejection request inputs =
      .ok (cashFloor.amount - currentCash inputs) := by
  unfold raiseCashShortfallOrRejection
  rw [h.requested]
  dsimp only
  rw [if_neg (not_not.mpr h.currency), if_neg (sub_pos.mpr h.above).not_ge]

theorem baseCurrencyLiquidSource_eq_some :
    baseCurrencyLiquidSource inputs request.constraints = some position ↔
      FirstLeast sellKey (sellablePositions request inputs) position ∧ position.price ≠ none := by
  unfold baseCurrencyLiquidSource
  constructor
  · intro h
    split at h
    · cases h
    · next candidate hcandidate =>
      split_ifs at h with hpriced
      cases h
      exact ⟨List.argmin_eq_some_iff.mp hcandidate, fun hnone => hpriced (.inl hnone)⟩
  · rintro ⟨hleast, hpriced⟩
    have hcandidate : largestSellablePosition inputs request.constraints
        (some inputs.baseCurrency) none = some position :=
      List.argmin_eq_some_iff.mpr hleast
    obtain ⟨-, -, hcurrency, -⟩ := of_decide_eq_true (List.mem_filter.mp hleast.1).2
    have hbase := hcurrency.resolve_left (Option.some_ne_none _)
    rw [hcandidate]
    dsimp only
    rw [if_neg (not_or.mpr ⟨hpriced, not_not.mpr hbase⟩)]

/-- A seed is built from the first of the largest holdings, and this one covers the shortfall. -/
theorem of_resultForShortfall_eq_ok (hshortfall : 0 < shortfall)
    (hprices : ∀ position ∈ inputs.positions, ∀ price ∈ position.price, 0 < price)
    {built : AlternativeStrategyBuildResult}
    (h : resultForShortfall services request inputs shortfall = .ok built)
    {seed : AlternativeCandidateSeed} (hseed : seed ∈ built.seeds) :
    .raiseCash ∈ request.requestedObjectives ∧ ∃ largest,
      FirstLeast sellKey (sellablePositions request inputs) largest ∧
      ∃ price, largest.price = some price ∧ 0 < price ∧
        (⌈shortfall / price⌉ : ℚ) ≤ largest.quantity ∧
        seed.generatedIntents =
          [sellIntent services.texts largest.instrumentId ⌈shortfall / price⌉] := by
  unfold resultForShortfall at h
  split at h
  · cases h
    cases hseed
  · next candidate hcandidate =>
    obtain ⟨hleast, -⟩ := baseCurrencyLiquidSource_eq_some.mp hcandidate
    split at h
    · cases h
      cases hseed
    · next price hprice =>
      have hpos := hprices candidate (List.mem_of_mem_filter hleast.1) price hprice
      rw [quantityForNotional_eq hshortfall hpos] at h
      split_ifs at h with hcovers
      · obtain ⟨seed', hseed', rfl⟩ := map_eq_ok.mp h
        obtain rfl := List.mem_singleton.mp hseed
        obtain ⟨hrequested, hintents⟩ := seed_eq_ok hseed'
        exact ⟨hrequested, candidate, hleast, price, hprice, hpos, hcovers, hintents⟩
      · cases h
        cases hseed

theorem exists_resultForShortfall (services : StrategyServices) (hshortfall : 0 < shortfall)
    (hrequested : .raiseCash ∈ request.requestedObjectives)
    (hleast : FirstLeast sellKey (sellablePositions request inputs) position)
    (hprice : position.price = some price) (hpos : 0 < price)
    (hcovers : (⌈shortfall / price⌉ : ℚ) ≤ position.quantity) :
    ∃ seed, resultForShortfall services request inputs shortfall = .ok { seeds := [seed] } := by
  have hpriced : position.price ≠ none := hprice ▸ Option.some_ne_none price
  unfold resultForShortfall
  rw [baseCurrencyLiquidSource_eq_some.mpr ⟨hleast, hpriced⟩]
  dsimp only
  rw [hprice]
  dsimp only
  rw [quantityForNotional_eq hshortfall hpos, if_pos hcovers]
  obtain ⟨seed, hseed, -⟩ := exists_seed services inputs strategy position.instrumentId
    (raiseCashSeedPayload services position ⌈shortfall / price⌉ shortfall).1
    (raiseCashSeedPayload services position ⌈shortfall / price⌉ shortfall).2 hrequested
  exact ⟨seed, map_eq_ok.mpr ⟨seed, hseed, rfl⟩⟩

/-- What is sold is never too little or too much. -/
theorem reachesFloor_of_buildResult (hfloor : FloorAboveCash request inputs cashFloor)
    (hprices : ∀ position ∈ inputs.positions, ∀ price ∈ position.price, 0 < price)
    {built : AlternativeStrategyBuildResult} (h : buildResult services request inputs = .ok built)
    {seed : AlternativeCandidateSeed} (hseed : seed ∈ built.seeds) :
    ReachesFloor inputs services.texts cashFloor seed := by
  unfold buildResult at h
  rw [shortfall_of_floorAboveCash hfloor] at h
  obtain ⟨-, largest, hleast, price, hprice, hpos, hcovers, hintents⟩ :=
    of_resultForShortfall_eq_ok (sub_pos.mpr hfloor.above) hprices h hseed
  refine ⟨largest, List.mem_of_mem_filter hleast.1, price, hprice, _, hintents, hcovers, ?_⟩
  have hraised := (div_le_iff₀ hpos).mp (Int.le_ceil
    ((cashFloor.amount - currentCash inputs) / price))
  linarith

end RaiseCash

namespace CashRaisingSample

/-- The larger holding, of which there is no second unit. -/
def equity : StrategyPosition where
  instrumentId := "EQ_US"
  quantity := 3 / 2
  price := some 100
  currency := some "USD"

def bond : StrategyPosition where
  instrumentId := "BD_US"
  quantity := 140
  price := some 1
  currency := some "USD"

def inputs : AlternativeStrategyInputs where
  portfolioId := "pf_001"
  baseCurrency := "USD"
  positions := [equity, bond]
  cashBalances := [("USD", 30)]

def cashFloor : AlternativeMoneyConstraint where
  amount := 150
  currency := "USD"

def request : NormalizedProposalAlternativesRequest where
  requestedObjectives := [.raiseCash]
  constraints := { cashFloor := some cashFloor }
  maxAlternatives := 3

def services : StrategyServices where
  lower := id
  texts := default

theorem floorAboveCash : RaiseCash.FloorAboveCash request inputs cashFloor :=
  ⟨rfl, rfl, by decide⟩

theorem prices_pos : ∀ position ∈ inputs.positions, ∀ price ∈ position.price, 0 < price := by
  decide +kernel

theorem shortfall_eq : cashFloor.amount - RaiseCash.currentCash inputs = 120 := by
  decide +kernel

theorem bond_sellable : bond ∈ RaiseCash.sellablePositions request inputs := by
  decide +kernel

theorem bond_covers :
    RaiseCash.Covers (cashFloor.amount - RaiseCash.currentCash inputs) bond := by
  rw [shortfall_eq]
  exact ⟨1, rfl, 120, by norm_num [bond], by norm_num⟩

end CashRaisingSample

end LotusAdvise.Alternatives

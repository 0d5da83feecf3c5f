import LotusAdvise.Alternatives.Models
import LotusAdvise.Foundations.Dict
import LotusAdvise.Foundations.Payloads
import Mathlib.Data.List.MinMax
import Mathlib.Data.Prod.Lex
import Mathlib.Data.Rat.Floor

/-! # Strategies

A strategy builds seeds from the positions and the shelf of a baseline proposal. What is shared by
strategies that sell one holding and buy an approved instrument is the choice of both.
-/

namespace LotusAdvise.Alternatives

structure StrategyPosition where
  instrumentId : String
  quantity : ℚ
  price : Option ℚ := none
  currency : Option String := none
deriving DecidableEq

inductive ShelfPosture where
  | approved | restricted | banned | suspended | sellOnly
deriving DecidableEq

structure StrategyShelfInstrument where
  instrumentId : String
  status : ShelfPosture
deriving DecidableEq

structure AlternativeStrategyInputs where
  portfolioId : String
  baseCurrency : String
  positions : List StrategyPosition := []
  cashBalances : Dict String ℚ := []
  shelfInstruments : List StrategyShelfInstrument := []

structure AlternativeStrategyBuildResult where
  seeds : List AlternativeCandidateSeed := []
  rejectedCandidates : List RejectedAlternativeCandidate := []
deriving DecidableEq

structure StrategyServices where
  lower : String → String
  texts : Payloads.DecimalTexts

section Selection

variable (inputs : AlternativeStrategyInputs) (constraints : ProposalAlternativesConstraints)

def positionRankValue (position : StrategyPosition) : ℚ :=
  match position.price with
  | none => position.quantity
  | some price => position.quantity * price

def positionMatchesCurrencyFilter (preferredCurrency : Option String)
    (excludeCurrencies : Option (List String)) (position : StrategyPosition) : Prop :=
  (preferredCurrency = none ∨ position.currency = preferredCurrency) ∧
    ∀ currencies ∈ excludeCurrencies, ∀ currency ∈ position.currency, currency ∉ currencies

def sellablePositionMatchesConstraints (preferredCurrency : Option String)
    (excludeCurrencies : Option (List String)) (position : StrategyPosition) : Prop :=
  0 < position.quantity ∧
    position.instrumentId ∉ constraints.preserveHoldings ++ constraints.doNotSell ∧
    positionMatchesCurrencyFilter preferredCurrency excludeCurrencies position

instance (preferredCurrency : Option String) (excludeCurrencies : Option (List String))
    (position : StrategyPosition) :
    Decidable (positionMatchesCurrencyFilter preferredCurrency excludeCurrencies position) := by
  unfold positionMatchesCurrencyFilter
  infer_instance

instance (preferredCurrency : Option String) (excludeCurrencies : Option (List String))
    (position : StrategyPosition) :
    Decidable (sellablePositionMatchesConstraints constraints preferredCurrency excludeCurrencies
      position) := by
  unfold sellablePositionMatchesConstraints
  infer_instance

/-- The positions that may be sold come in this order. -/
def sellKey (position : StrategyPosition) : ℚ ×ₗ String :=
  toLex (-positionRankValue position, position.instrumentId)

def largestSellablePosition (preferredCurrency : Option String)
    (excludeCurrencies : Option (List String)) : Option StrategyPosition :=
  (inputs.positions.filter (sellablePositionMatchesConstraints constraints preferredCurrency
    excludeCurrencies)).argmin sellKey

def approvedShelfLookup : Dict String StrategyShelfInstrument :=
  Dict.ofItems ((inputs.shelfInstruments.filter (·.status = .approved)).map fun instrument =>
    (instrument.instrumentId, instrument))

def buyBlockedInstrumentIds (excludedIds : List String) : List String :=
  constraints.restrictedInstruments ++ constraints.doNotBuy ++ excludedIds

def existingPositionIsPreferredBuyCandidate (shelfLookup : Dict String StrategyShelfInstrument)
    (blockedIds : List String) (preferredCurrency : Option String)
    (position : StrategyPosition) : Prop :=
  position.instrumentId ∈ shelfLookup.map Prod.fst ∧ position.instrumentId ∉ blockedIds ∧
    (preferredCurrency = none ∨ position.currency = preferredCurrency)

instance (shelfLookup : Dict String StrategyShelfInstrument) (blockedIds : List String)
    (preferredCurrency : Option String) (position : StrategyPosition) :
    Decidable (existingPositionIsPreferredBuyCandidate shelfLookup blockedIds preferredCurrency
      position) := by
  unfold existingPositionIsPreferredBuyCandidate
  infer_instance

def buyKey (position : StrategyPosition) : ℚ ×ₗ String :=
  toLex (positionRankValue position, position.instrumentId)

def firstSyntheticBuyCandidate (shelfLookup : Dict String StrategyShelfInstrument)
    (blockedIds : List String) (preferredCurrency : Option String) : Option StrategyPosition :=
  (((shelfLookup.map Prod.fst).filter (· ∉ blockedIds)).map fun instrumentId =>
    ({ instrumentId, quantity := 0, price := none, currency := preferredCurrency } :
      StrategyPosition)).argmin StrategyPosition.instrumentId

def preferredBuyInstrument (excludedIds : List String) (preferredCurrency : Option String) :
    Option StrategyPosition :=
  let shelfLookup := approvedShelfLookup inputs
  let blockedIds := buyBlockedInstrumentIds constraints excludedIds
  match (inputs.positions.filter (existingPositionIsPreferredBuyCandidate shelfLookup blockedIds
      preferredCurrency)).argmin buyKey with
  | some position => some position
  | none => firstSyntheticBuyCandidate shelfLookup blockedIds preferredCurrency

end Selection

section Sizing

/-- `ROUND_DOWN`, to a whole number. -/
def roundDown (x : ℚ) : ℤ := if 0 ≤ x then ⌊x⌋ else ⌈x⌉

/-- `ROUND_HALF_UP`, to a whole number. -/
def roundHalfUp (x : ℚ) : ℤ := if 0 ≤ x then ⌊x + 1 / 2⌋ else ⌈x - 1 / 2⌉

def halfQuantity (quantity : ℚ) : Option ℚ :=
  if quantity ≤ 1 then none
  else if roundDown (quantity / 2) ≤ 0 then none
  else some (roundDown (quantity / 2))

/-- Rounded to a cent. -/
def estimatedNotional (price : Option ℚ) (quantity : ℚ) : Option ℚ :=
  price.map fun price => roundHalfUp (price * quantity * 100) / 100

end Sizing

section Base

/-- What a strategy is declared with. -/
structure AlternativeStrategy where
  strategyId : String
  objective : AlternativeConstructionObjective
  label : String
  summary : String
  requiredEvidence : List AlternativeEvidenceRequirement := []

variable (services : StrategyServices) (strategy : AlternativeStrategy)
  (inputs : AlternativeStrategyInputs)

def candidateId (objective portfolioId pivot : String) : String :=
  let normalizedPivot := String.ofList
    ((services.lower pivot).toList.map fun c => if c = '/' then '_' else c)
  "alt_" ++ services.lower objective ++ "_" ++ services.lower portfolioId ++ "_" ++ normalizedPivot

/-- `_seed`. The objective has to be among the requested ones. -/
def AlternativeStrategy.seed (request : NormalizedProposalAlternativesRequest) (pivot : String)
    (generatedIntents : List JsonObject) (metadata : JsonObject) :
    Except String AlternativeCandidateSeed :=
  if strategy.objective ∉ request.requestedObjectives then .error "ValueError"
  else .ok {
    candidateId := candidateId services strategy.objective.text inputs.portfolioId pivot
    objective := strategy.objective
    strategyId := strategy.strategyId
    status := .readyForSimulation
    label := strategy.label
    summary := strategy.summary
    requiredEvidence := strategy.requiredEvidence
    generatedIntents
    metadata := metadata.foldl (fun metadata item => JsonObject.set metadata item.1 item.2)
      [("portfolio_id", .str inputs.portfolioId),
        ("base_currency", .str inputs.baseCurrency),
        ("pivot_instrument_id", .str pivot),
        ("objective_rank", .int (request.requestedObjectives.idxOf strategy.objective))] }

/-- Why a strategy builds no seed. -/
structure StrategyRejection where
  reasonCode : String
  summary : String
  pivot : String
  status : AlternativeStatus := .rejectedConstraintViolation
  failedConstraints : List String := []
deriving DecidableEq

/-- `_reject`. -/
def AlternativeStrategy.reject (rejection : StrategyRejection) : RejectedAlternativeCandidate where
  candidateId := candidateId services strategy.objective.text inputs.portfolioId rejection.pivot
  objective := strategy.objective
  status := rejection.status
  reasonCode := rejection.reasonCode
  summary := rejection.summary
  failedConstraints := rejection.failedConstraints
  evidenceRefs := ["strategy:" ++ strategy.strategyId, "portfolio:" ++ inputs.portfolioId]

end Base

end LotusAdvise.Alternatives

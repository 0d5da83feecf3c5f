import LotusAdvise.Alternatives.Strategies

/-! # Rotations

Two strategies rotate half of a holding into an approved instrument: one out of the largest holding,
one out of the largest holding in a currency that is not aligned.
-/

namespace LotusAdvise.Alternatives

section Intents

variable (texts : Payloads.DecimalTexts)

def sellIntent (instrumentId : String) (quantity : ℚ) : JsonObject :=
  [("intent_type", .str "SECURITY_TRADE"), ("side", .str "SELL"),
    ("instrument_id", .str instrumentId), ("quantity", .str (texts.text quantity))]

def quantityBuyIntent (instrumentId : String) (quantity : ℚ) : JsonObject :=
  [("intent_type", .str "SECURITY_TRADE"), ("side", .str "BUY"),
    ("instrument_id", .str instrumentId), ("quantity", .str (texts.text quantity))]

def notionalBuyIntent (instrumentId : String) (amount : ℚ) (currency : String) : JsonObject :=
  [("intent_type", .str "SECURITY_TRADE"), ("side", .str "BUY"),
    ("instrument_id", .str instrumentId),
    ("notional", .obj [("amount", .str (texts.text amount)), ("currency", .str currency)])]

/-- `currency or base_currency`. -/
def currencyOr (currency : Option String) (baseCurrency : String) : String :=
  match currency with
  | none => baseCurrency
  | some text => if text = "" then baseCurrency else text

end Intents

variable (services : StrategyServices) (request : NormalizedProposalAlternativesRequest)
  (inputs : AlternativeStrategyInputs)

namespace ReduceConcentration

def strategy : AlternativeStrategy where
  strategyId := "reduce_concentration_v1"
  objective := .reduceConcentration
  label := "Reduce concentration"
  summary := "Sell the largest sellable holding and rotate into an approved alternative."

structure ReduceConcentrationPlan where
  candidate : StrategyPosition
  replacement : StrategyPosition
  sellQuantity : ℚ

def reduceConcentrationPlanOrRejection : Except StrategyRejection ReduceConcentrationPlan :=
  match largestSellablePosition inputs request.constraints none none with
  | none => .error {
      reasonCode := "ALTERNATIVE_NO_SELLABLE_HOLDING"
      summary := "No sellable holding is available for concentration reduction."
      pivot := inputs.baseCurrency
      failedConstraints := ["preserve_holdings", "do_not_sell"] }
  | some candidate =>
    match preferredBuyInstrument inputs request.constraints [candidate.instrumentId]
        (some inputs.baseCurrency) with
    | none => .error {
        reasonCode := "ALTERNATIVE_NO_APPROVED_REPLACEMENT"
        summary := "No approved replacement instrument is available for concentration reduction."
        pivot := candidate.instrumentId
        failedConstraints := ["restricted_instruments", "do_not_buy"] }
    | some replacement =>
      match halfQuantity candidate.quantity with
      | none => .error {
          reasonCode := "ALTERNATIVE_POSITION_TOO_SMALL"
          summary := "Largest holding is too small to produce a meaningful concentration trade."
          pivot := candidate.instrumentId }
      | some sellQuantity => .ok { candidate, replacement, sellQuantity }

def reduceConcentrationBuyIntent (plan : ReduceConcentrationPlan) (baseCurrency : String)
    (proceeds : Option ℚ) : JsonObject :=
  match proceeds with
  | none =>
    quantityBuyIntent services.texts plan.replacement.instrumentId plan.sellQuantity
  | some proceeds =>
    notionalBuyIntent services.texts plan.replacement.instrumentId proceeds
      (currencyOr plan.replacement.currency baseCurrency)

/-- The intents and the metadata. -/
def reduceConcentrationSeedPayload (plan : ReduceConcentrationPlan) (baseCurrency : String) :
    List JsonObject × JsonObject :=
  let proceeds := estimatedNotional plan.candidate.price plan.sellQuantity
  ([sellIntent services.texts plan.candidate.instrumentId plan.sellQuantity,
      reduceConcentrationBuyIntent services plan baseCurrency proceeds],
    [("replacement_instrument_id", .str plan.replacement.instrumentId),
      ("estimated_sell_notional",
        match proceeds with
        | none => .null
        | some proceeds => .str (services.texts.text proceeds))])

def buildResult : Except String AlternativeStrategyBuildResult :=
  match reduceConcentrationPlanOrRejection request inputs with
  | .error rejection => .ok {
      rejectedCandidates := [strategy.reject services inputs rejection] }
  | .ok plan =>
    let payload := reduceConcentrationSeedPayload services plan inputs.baseCurrency
    (strategy.seed services inputs request plan.candidate.instrumentId payload.1 payload.2).map
      fun seed => { seeds := [seed] }

end ReduceConcentration

namespace ImproveCurrencyAlignment

def strategy : AlternativeStrategy where
  strategyId := "improve_currency_alignment_v1"
  objective := .improveCurrencyAlignment
  label := "Improve currency alignment"
  summary := "Rotate a non-base-currency holding into an approved base-currency instrument."

structure CurrencyAlignmentTradePlan where
  candidate : StrategyPosition
  generatedIntents : List JsonObject
  metadata : JsonObject

def currencyAlignmentPreconditionRejection : Option StrategyRejection :=
  if request.constraints.allowFx ≠ false then none
  else some {
    reasonCode := "ALTERNATIVE_FX_ACTIONS_NOT_PERMITTED"
    summary := "Currency-alignment alternatives require FX-permitted trading posture."
    pivot := inputs.baseCurrency
    failedConstraints := ["allow_fx"] }

def alignedCurrencySet (constraints : ProposalAlternativesConstraints) : List String :=
  if constraints.allowedCurrencies = [] then [inputs.baseCurrency]
  else constraints.allowedCurrencies

def misalignedCurrencyPosition (constraints : ProposalAlternativesConstraints) :
    Option StrategyPosition :=
  largestSellablePosition inputs constraints none (some (alignedCurrencySet inputs constraints))

def currencyAlignmentReplacement (constraints : ProposalAlternativesConstraints)
    (candidate : StrategyPosition) : Option StrategyPosition :=
  preferredBuyInstrument inputs constraints [candidate.instrumentId] (some inputs.baseCurrency)

def currencyAlignmentIntents (candidate replacement : StrategyPosition)
    (sellQuantity sellNotional : ℚ) : List JsonObject :=
  [sellIntent services.texts candidate.instrumentId sellQuantity,
    notionalBuyIntent services.texts replacement.instrumentId sellNotional
      (currencyOr replacement.currency inputs.baseCurrency)]

def currencyAlignmentMetadata (candidate replacement : StrategyPosition) : JsonObject :=
  [("replacement_instrument_id", .str replacement.instrumentId),
    ("from_currency",
      match candidate.currency with
      | none => .null
      | some currency => .str currency),
    ("to_currency", .str (currencyOr replacement.currency inputs.baseCurrency))]

def noMisalignedHoldingRejection : StrategyRejection where
  reasonCode := "ALTERNATIVE_NO_MISALIGNED_HOLDING"
  summary := "Portfolio does not contain a sellable holding outside the allowed currency set."
  pivot := inputs.baseCurrency

def noAlignedReplacementRejection (candidate : StrategyPosition) : StrategyRejection where
  reasonCode := "ALTERNATIVE_NO_ALIGNED_REPLACEMENT"
  summary :=
    "No approved base-currency replacement instrument is available for currency alignment."
  pivot := candidate.instrumentId

def positionTooSmallRejection (candidate : StrategyPosition) : StrategyRejection where
  reasonCode := "ALTERNATIVE_POSITION_TOO_SMALL"
  summary := "Foreign-currency holding is too small to produce a meaningful alignment trade."
  pivot := candidate.instrumentId

def alignmentPriceRequiredRejection (candidate : StrategyPosition) : StrategyRejection where
  reasonCode := "ALTERNATIVE_PRICE_REQUIRED_FOR_ALIGNMENT"
  summary := "Currency-alignment alternatives require price evidence for the selected holding."
  pivot := candidate.instrumentId
  status := .rejectedInsufficientEvidence

def currencyAlignmentTradePlan (candidate replacement : StrategyPosition) :
    Except StrategyRejection CurrencyAlignmentTradePlan :=
  match halfQuantity candidate.quantity with
  | none => .error (positionTooSmallRejection candidate)
  | some sellQuantity =>
    match estimatedNotional candidate.price sellQuantity with
    | none => .error (alignmentPriceRequiredRejection candidate)
    | some sellNotional => .ok {
        candidate
        generatedIntents := currencyAlignmentIntents services inputs candidate replacement
          sellQuantity sellNotional
        metadata := currencyAlignmentMetadata inputs candidate replacement }

def currencyAlignmentTradePlanOrRejection :
    Except StrategyRejection CurrencyAlignmentTradePlan :=
  match currencyAlignmentPreconditionRejection request inputs with
  | some rejection => .error rejection
  | none =>
    match misalignedCurrencyPosition inputs request.constraints with
    | none => .error (noMisalignedHoldingRejection inputs)
    | some candidate =>
      match currencyAlignmentReplacement inputs request.constraints candidate with
      | none => .error (noAlignedReplacementRejection candidate)
      | some replacement => currencyAlignmentTradePlan services inputs candidate replacement

def buildResult : Except String AlternativeStrategyBuildResult :=
  match currencyAlignmentTradePlanOrRejection services request inputs with
  | .error rejection => .ok {
      rejectedCandidates := [strategy.reject services inputs rejection] }
  | .ok plan =>
    (strategy.seed services inputs request plan.candidate.instrumentId plan.generatedIntents
      plan.metadata).map fun seed => { seeds := [seed] }

end ImproveCurrencyAlignment

end LotusAdvise.Alternatives

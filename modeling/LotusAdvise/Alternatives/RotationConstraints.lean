import LotusAdvise.Alternatives.Rotations
import LotusAdvise.Foundations.Weights

/-! # The constraints of a rotation

A rotation sells a holding that may be sold and buys an instrument that may be bought. Both are
determined by the inputs.
-/

namespace LotusAdvise.Alternatives

section Statements

variable (inputs : AlternativeStrategyInputs) (constraints : ProposalAlternativesConstraints)

/-- The first of the least elements. -/
def FirstLeast {α β : Type*} [DecidableEq α] [LE β] (key : α → β) (as : List α) (a : α) : Prop :=
  a ∈ as ∧ (∀ b ∈ as, key a ≤ key b) ∧ ∀ b ∈ as, key b ≤ key a → as.idxOf a ≤ as.idxOf b

/-- Some shelf row of the instrument is approved. -/
def Approved (instrumentId : String) : Prop :=
  ∃ row ∈ inputs.shelfInstruments, row.instrumentId = instrumentId ∧ row.status = .approved

def EntirelyApproved (instrumentId : String) : Prop :=
  ∀ row ∈ inputs.shelfInstruments, row.instrumentId = instrumentId → row.status = .approved

/-- The instrument may be bought for a holding in `soldId`. -/
structure Buyable (soldId instrumentId : String) : Prop where
  approved : Approved inputs instrumentId
  unrestricted : instrumentId ∉ constraints.restrictedInstruments
  buy : instrumentId ∉ constraints.doNotBuy
  different : instrumentId ≠ soldId

instance (instrumentId : String) : Decidable (Approved inputs instrumentId) := by
  unfold Approved
  infer_instance

instance (soldId instrumentId : String) :
    Decidable (Buyable inputs constraints soldId instrumentId) :=
  decidable_of_iff (Approved inputs instrumentId ∧
      instrumentId ∉ constraints.restrictedInstruments ∧ instrumentId ∉ constraints.doNotBuy ∧
      instrumentId ≠ soldId)
    ⟨fun h => ⟨h.1, h.2.1, h.2.2.1, h.2.2.2⟩, fun h => ⟨h.1, h.2, h.3, h.4⟩⟩

/-- The positions in instruments that may be bought and that are held in the base currency. -/
def heldReplacements (soldId : String) : List StrategyPosition :=
  inputs.positions.filter fun position =>
    Buyable inputs constraints soldId position.instrumentId ∧
      position.currency = some inputs.baseCurrency

/-- The smallest position that may be increased, or else the least instrument. -/
inductive Replaces (soldId : String) : String → Prop
  | held (position : StrategyPosition)
      (hleast : FirstLeast buyKey (heldReplacements inputs constraints soldId) position) :
      Replaces soldId position.instrumentId
  | new (instrumentId : String) (hnone : heldReplacements inputs constraints soldId = [])
      (hbuyable : Buyable inputs constraints soldId instrumentId)
      (hleast : ∀ other, Buyable inputs constraints soldId other → instrumentId ≤ other) :
      Replaces soldId instrumentId

/-- A strategy that sells no holding in an excluded currency sells half of `sold` and buys
`bought`. -/
structure Rotates (excludeCurrencies : Option (List String)) (sold : StrategyPosition)
    (bought : String) : Prop where
  largest : FirstLeast sellKey (inputs.positions.filter
    (sellablePositionMatchesConstraints constraints none excludeCurrencies)) sold
  large : 2 ≤ sold.quantity
  replaced : Replaces inputs constraints sold.instrumentId bought

/-- The currency that is bought in. Without a notional it is the base currency, in which the
instrument is held or assumed to be. -/
def buyCurrency (intent : JsonObject) : String :=
  match JsonObject.get intent "notional" with
  | .obj notional =>
    match JsonObject.get notional "currency" with
    | .str currency => currency
    | _ => inputs.baseCurrency
  | _ => inputs.baseCurrency

/-- The seed sells `quantity` of `sold`, and keeps the constraints. -/
structure KeepsConstraints (texts : Payloads.DecimalTexts) (sold : StrategyPosition) (quantity : ℚ)
    (seed : AlternativeCandidateSeed) : Prop where
  sides : seed.generatedIntents.map (JsonObject.get · "side") = [.str "SELL", .str "BUY"]
  sells : ∀ intent ∈ seed.generatedIntents, JsonObject.get intent "side" = .str "SELL" →
    JsonObject.get intent "instrument_id" = .str sold.instrumentId ∧
    JsonObject.get intent "quantity" = .str (texts.text quantity) ∧
    sold ∈ inputs.positions ∧ 0 < quantity ∧ quantity ≤ sold.quantity ∧
    sold.instrumentId ∉ constraints.preserveHoldings ∧ sold.instrumentId ∉ constraints.doNotSell
  buys : ∀ intent ∈ seed.generatedIntents, JsonObject.get intent "side" = .str "BUY" →
    ∃ bought, JsonObject.get intent "instrument_id" = .str bought ∧
      Buyable inputs constraints sold.instrumentId bought ∧ EntirelyApproved inputs bought
  currency : ∀ intent ∈ seed.generatedIntents, JsonObject.get intent "side" = .str "BUY" →
    constraints.allowedCurrencies ≠ [] →
    buyCurrency inputs intent ∈ constraints.allowedCurrencies
  proceeds : ∀ intent ∈ seed.generatedIntents, JsonObject.get intent "side" = .str "BUY" →
    ∀ notional, JsonObject.get intent "notional" = .obj notional →
      ∃ price currency, sold.price = some price ∧ sold.currency = some currency ∧
        JsonObject.get notional "amount" =
          .str (texts.text (roundHalfUp (price * quantity * 100) / 100)) ∧
        JsonObject.get notional "currency" = .str currency

/-- The inputs on which a rotation keeps the constraints. -/
structure RotationSound (sold : StrategyPosition) (bought : String) : Prop where
  approved : EntirelyApproved inputs bought
  currency : constraints.allowedCurrencies = [] ∨
    inputs.baseCurrency ∈ constraints.allowedCurrencies
  proceeds : sold.price = none ∨ sold.currency = some inputs.baseCurrency

/-- Every seed that is built keeps the constraints. -/
def SeedsKeepConstraints (texts : Payloads.DecimalTexts) (excludeCurrencies : Option (List String))
    (result : Except String AlternativeStrategyBuildResult) : Prop :=
  ∀ built, result = .ok built → ∀ seed ∈ built.seeds, ∃ sold quantity,
    largestSellablePosition inputs constraints none excludeCurrencies = some sold ∧
    KeepsConstraints inputs constraints texts sold quantity seed

end Statements

section Selection

variable {inputs : AlternativeStrategyInputs} {constraints : ProposalAlternativesConstraints}
  {excludeCurrencies : Option (List String)} {sold position : StrategyPosition}
  {soldId bought instrumentId : String} {quantity : ℚ}

theorem largestSellablePosition_eq_some :
    largestSellablePosition inputs constraints none excludeCurrencies = some sold ↔
      FirstLeast sellKey (inputs.positions.filter
        (sellablePositionMatchesConstraints constraints none excludeCurrencies)) sold :=
  List.argmin_eq_some_iff

theorem mem_approvedShelfLookup :
    instrumentId ∈ (approvedShelfLookup inputs).map Prod.fst ↔ Approved inputs instrumentId := by
  unfold approvedShelfLookup Approved
  rw [Dict.mem_keys_ofItems, List.map_map, List.mem_map]
  constructor
  · rintro ⟨row, hrow, rfl⟩
    obtain ⟨hmem, hstatus⟩ := List.mem_filter.mp hrow
    exact ⟨row, hmem, rfl, of_decide_eq_true hstatus⟩
  · rintro ⟨row, hmem, rfl, hstatus⟩
    exact ⟨row, List.mem_filter.mpr ⟨hmem, decide_eq_true hstatus⟩, rfl⟩

theorem buyable_iff :
    Buyable inputs constraints soldId instrumentId ↔
      instrumentId ∈ (approvedShelfLookup inputs).map Prod.fst ∧
        instrumentId ∉ buyBlockedInstrumentIds constraints [soldId] := by
  rw [mem_approvedShelfLookup, buyBlockedInstrumentIds, List.mem_append, List.mem_append,
    List.mem_singleton, not_or, not_or]
  constructor
  · exact fun h => ⟨h.approved, ⟨h.unrestricted, h.buy⟩, h.different⟩
  · rintro ⟨happroved, ⟨hunrestricted, hbuy⟩, hdifferent⟩
    exact ⟨happroved, hunrestricted, hbuy, hdifferent⟩

theorem heldReplacements_eq :
    inputs.positions.filter (existingPositionIsPreferredBuyCandidate (approvedShelfLookup inputs)
        (buyBlockedInstrumentIds constraints [soldId]) (some inputs.baseCurrency)) =
      heldReplacements inputs constraints soldId := by
  refine List.filter_congr fun position _ => decide_eq_decide.mpr ?_
  rw [existingPositionIsPreferredBuyCandidate, buyable_iff, ← and_assoc]
  refine and_congr_right fun _ => ?_
  simp

theorem firstSyntheticBuyCandidate_eq_some {replacement : StrategyPosition}
    (h : firstSyntheticBuyCandidate (approvedShelfLookup inputs)
      (buyBlockedInstrumentIds constraints [soldId]) (some inputs.baseCurrency) =
        some replacement) :
    Buyable inputs constraints soldId replacement.instrumentId ∧
      replacement.currency = some inputs.baseCurrency ∧
      ∀ other, Buyable inputs constraints soldId other → replacement.instrumentId ≤ other := by
  obtain ⟨hmem, hleast, -⟩ := List.argmin_eq_some_iff.mp h
  obtain ⟨instrumentId, hid, rfl⟩ := List.mem_map.mp hmem
  obtain ⟨hkey, hblocked⟩ := List.mem_filter.mp hid
  refine ⟨buyable_iff.mpr ⟨hkey, of_decide_eq_true hblocked⟩, rfl, fun other hother => ?_⟩
  obtain ⟨hotherKey, hotherBlocked⟩ := buyable_iff.mp hother
  exact hleast _ (List.mem_map_of_mem
    (List.mem_filter.mpr ⟨hotherKey, decide_eq_true hotherBlocked⟩))

theorem firstSyntheticBuyCandidate_eq_none
    (h : firstSyntheticBuyCandidate (approvedShelfLookup inputs)
      (buyBlockedInstrumentIds constraints [soldId]) (some inputs.baseCurrency) = none) :
    ¬ Buyable inputs constraints soldId instrumentId := by
  intro hbuyable
  obtain ⟨hkey, hblocked⟩ := buyable_iff.mp hbuyable
  have hnil := List.argmin_eq_none.mp h
  rw [List.map_eq_nil_iff, List.filter_eq_nil_iff] at hnil
  exact hnil instrumentId hkey (decide_eq_true hblocked)

/-- What is bought may be bought. -/
theorem Replaces.buyable (h : Replaces inputs constraints soldId bought) :
    Buyable inputs constraints soldId bought := by
  cases h with
  | held position hleast => exact (of_decide_eq_true (List.mem_filter.mp hleast.1).2).1
  | new _ hnone hbuyable hleast => exact hbuyable

theorem preferredBuyInstrument_eq_some {replacement : StrategyPosition}
    (h : preferredBuyInstrument inputs constraints [soldId] (some inputs.baseCurrency) =
      some replacement) :
    Replaces inputs constraints soldId replacement.instrumentId ∧
      replacement.currency = some inputs.baseCurrency := by
  unfold preferredBuyInstrument at h
  dsimp only at h
  rw [heldReplacements_eq] at h
  split at h
  · next position hheld =>
    cases h
    have hleast := List.argmin_eq_some_iff.mp hheld
    exact ⟨.held _ hleast, (of_decide_eq_true (List.mem_filter.mp hleast.1).2).2⟩
  · next hnone =>
    obtain ⟨hbuyable, hcurrency, hleast⟩ := firstSyntheticBuyCandidate_eq_some h
    exact ⟨.new _ (List.argmin_eq_none.mp hnone) hbuyable hleast, hcurrency⟩

/-- The instrument that is bought is determined by the inputs. -/
theorem Replaces.preferred (h : Replaces inputs constraints soldId bought) :
    ∃ replacement,
      preferredBuyInstrument inputs constraints [soldId] (some inputs.baseCurrency) =
        some replacement ∧
      replacement.instrumentId = bought := by
  unfold preferredBuyInstrument
  dsimp only
  rw [heldReplacements_eq]
  cases h with
  | held position hleast =>
    rw [List.argmin_eq_some_iff.mpr hleast]
    exact ⟨position, rfl, rfl⟩
  | new _ hnone hbuyable hleast =>
    rw [hnone]
    dsimp only [List.argmin_nil]
    cases hsynthetic : firstSyntheticBuyCandidate (approvedShelfLookup inputs)
        (buyBlockedInstrumentIds constraints [soldId]) (some inputs.baseCurrency) with
    | none => exact absurd hbuyable (firstSyntheticBuyCandidate_eq_none hsynthetic)
    | some replacement =>
      obtain ⟨hmay, -, hfirst⟩ := firstSyntheticBuyCandidate_eq_some hsynthetic
      exact ⟨replacement, rfl, le_antisymm (hfirst _ hbuyable) (hleast _ hmay)⟩

/-- Half of a holding is sold when that is a whole number at least. -/
theorem halfQuantity_of_two_le (h : 2 ≤ quantity) :
    halfQuantity quantity = some (⌊quantity / 2⌋ : ℚ) ∧ 0 < (⌊quantity / 2⌋ : ℚ) ∧
      (⌊quantity / 2⌋ : ℚ) ≤ quantity := by
  have hpos : 0 < ⌊quantity / 2⌋ := Int.floor_pos.mpr (by linarith)
  have hround : roundDown (quantity / 2) = ⌊quantity / 2⌋ := if_pos (by linarith)
  refine ⟨?_, by exact_mod_cast hpos, ?_⟩
  · rw [halfQuantity, if_neg (by linarith), hround, if_neg (by omega)]
  · have hfloor := Int.floor_le (quantity / 2)
    linarith

theorem halfQuantity_of_lt_two (h : quantity < 2) : halfQuantity quantity = none := by
  unfold halfQuantity
  split_ifs with hone hround
  · rfl
  · rfl
  · refine absurd (Int.floor_pos.mp ?_) (by linarith : ¬ 1 ≤ quantity / 2)
    have hnonneg : 0 ≤ quantity / 2 := by linarith
    rw [roundDown, if_pos hnonneg] at hround
    omega

end Selection

section Intents

variable {texts : Payloads.DecimalTexts} {inputs : AlternativeStrategyInputs}
  {constraints : ProposalAlternativesConstraints} {excludeCurrencies : Option (List String)}
  {sold : StrategyPosition} {bought : String} {quantity : ℚ} {seed : AlternativeCandidateSeed}

theorem currencyOr_self (currency : String) : currencyOr (some currency) currency = currency := by
  simp [currencyOr]

/-- What is bought for the proceeds, or, without a price, for as many units as are sold. -/
def buyIntentFor (texts : Payloads.DecimalTexts) (sold : StrategyPosition) (bought : String)
    (quantity : ℚ) (currency : String) : JsonObject :=
  match estimatedNotional sold.price quantity with
  | none => quantityBuyIntent texts bought quantity
  | some proceeds => notionalBuyIntent texts bought proceeds currency

/-- The intents of a rotation. -/
def rotationIntents (texts : Payloads.DecimalTexts) (inputs : AlternativeStrategyInputs)
    (sold : StrategyPosition) (bought : String) : List JsonObject :=
  [sellIntent texts sold.instrumentId ⌊sold.quantity / 2⌋,
    buyIntentFor texts sold bought ⌊sold.quantity / 2⌋ inputs.baseCurrency]

@[simp] theorem side_sellIntent (instrumentId : String) :
    JsonObject.get (sellIntent texts instrumentId quantity) "side" = .str "SELL" := rfl

@[simp] theorem side_buyIntentFor (currency : String) :
    JsonObject.get (buyIntentFor texts sold bought quantity currency) "side" = .str "BUY" := by
  unfold buyIntentFor
  split <;> rfl

@[simp] theorem instrument_buyIntentFor (currency : String) :
    JsonObject.get (buyIntentFor texts sold bought quantity currency) "instrument_id" =
      .str bought := by
  unfold buyIntentFor
  split <;> rfl

@[simp] theorem buyCurrency_buyIntentFor :
    buyCurrency inputs (buyIntentFor texts sold bought quantity inputs.baseCurrency) =
      inputs.baseCurrency := by
  unfold buyIntentFor
  split <;> rfl

theorem notional_buyIntentFor {currency : String} {notional : JsonObject}
    (h : JsonObject.get (buyIntentFor texts sold bought quantity currency) "notional" =
      .obj notional) :
    ∃ price, sold.price = some price ∧
      notional = [("amount", .str (texts.text (roundHalfUp (price * quantity * 100) / 100))),
        ("currency", .str currency)] := by
  unfold buyIntentFor estimatedNotional at h
  cases hprice : sold.price with
  | none =>
    rw [hprice] at h
    cases h
  | some price =>
    rw [hprice] at h
    exact ⟨price, rfl, (Json.obj.inj h).symm⟩

theorem KeepsConstraints.sound (h : KeepsConstraints inputs constraints texts sold quantity seed)
    (hintents : seed.generatedIntents = rotationIntents texts inputs sold bought) :
    RotationSound inputs constraints sold bought := by
  have hbuy : buyIntentFor texts sold bought ⌊sold.quantity / 2⌋ inputs.baseCurrency ∈
      seed.generatedIntents := by
    rw [hintents]
    exact List.mem_cons_of_mem _ List.mem_cons_self
  refine ⟨?_, ?_, ?_⟩
  · obtain ⟨bought', hid, -, happroved⟩ := h.buys _ hbuy (side_buyIntentFor _)
    rw [instrument_buyIntentFor] at hid
    cases hid
    exact happroved
  · have hcurrency := h.currency _ hbuy (side_buyIntentFor _)
    rw [buyCurrency_buyIntentFor] at hcurrency
    exact or_iff_not_imp_left.mpr hcurrency
  · refine or_iff_not_imp_left.mpr fun hprice => ?_
    obtain ⟨price, hprice⟩ := Option.ne_none_iff_exists'.mp hprice
    have hnotional : JsonObject.get
        (buyIntentFor texts sold bought ⌊sold.quantity / 2⌋ inputs.baseCurrency) "notional" =
          .obj [("amount", .str (texts.text
            (roundHalfUp (price * ⌊sold.quantity / 2⌋ * 100) / 100))),
            ("currency", .str inputs.baseCurrency)] := by
      unfold buyIntentFor estimatedNotional
      rw [hprice]
      rfl
    obtain ⟨_, currency, -, hsold, -, hcurrency⟩ :=
      h.proceeds _ hbuy (side_buyIntentFor _) _ hnotional
    rw [hsold, ← Json.str.inj hcurrency]

theorem Rotates.keepsConstraints (h : Rotates inputs constraints excludeCurrencies sold bought)
    (hsound : RotationSound inputs constraints sold bought)
    (hintents : seed.generatedIntents = rotationIntents texts inputs sold bought) :
    KeepsConstraints inputs constraints texts sold ⌊sold.quantity / 2⌋ seed := by
  obtain ⟨-, hpos, hheld⟩ := halfQuantity_of_two_le h.large
  obtain ⟨hposition, hsellable⟩ := List.mem_filter.mp h.largest.1
  obtain ⟨-, hunblocked, -⟩ := of_decide_eq_true hsellable
  rw [List.mem_append, not_or] at hunblocked
  have hcases : ∀ intent ∈ seed.generatedIntents,
      intent = sellIntent texts sold.instrumentId ⌊sold.quantity / 2⌋ ∨
        intent = buyIntentFor texts sold bought ⌊sold.quantity / 2⌋ inputs.baseCurrency := by
    intro intent hintent
    rw [hintents] at hintent
    simpa [rotationIntents] using hintent
  have hbuy : ∀ intent ∈ seed.generatedIntents, JsonObject.get intent "side" = .str "BUY" →
      intent = buyIntentFor texts sold bought ⌊sold.quantity / 2⌋ inputs.baseCurrency := by
    intro intent hintent hside
    refine (hcases intent hintent).resolve_left ?_
    rintro rfl
    rw [side_sellIntent] at hside
    exact absurd (Json.str.inj hside) (by decide)
  refine ⟨?_, ?_, ?_, ?_, ?_⟩
  · rw [hintents]
    simp [rotationIntents]
  · intro intent hintent hside
    rcases hcases intent hintent with rfl | rfl
    · exact ⟨rfl, rfl, hposition, hpos, hheld, hunblocked⟩
    · rw [side_buyIntentFor] at hside
      exact absurd (Json.str.inj hside) (by decide)
  · intro intent hintent hside
    rw [hbuy intent hintent hside]
    exact ⟨bought, instrument_buyIntentFor _, h.replaced.buyable, hsound.approved⟩
  · intro intent hintent hside hallowed
    rw [hbuy intent hintent hside, buyCurrency_buyIntentFor]
    exact hsound.currency.resolve_left hallowed
  · intro intent hintent hside notional hnotional
    rw [hbuy intent hintent hside] at hnotional
    obtain ⟨price, hprice, rfl⟩ := notional_buyIntentFor hnotional
    exact ⟨price, inputs.baseCurrency, hprice,
      hsound.proceeds.resolve_left (by rw [hprice]; exact Option.some_ne_none _), rfl, rfl⟩

end Intents

end LotusAdvise.Alternatives

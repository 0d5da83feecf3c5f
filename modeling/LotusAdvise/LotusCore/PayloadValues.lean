import LotusAdvise.Foundations.DecimalSyntax
import LotusAdvise.Foundations.Json

/-! # Values of payloads

The payloads of the source are arbitrary JSON. Rows are the objects of a list, texts are stripped,
and decimals are read from the text of any value.
-/

namespace LotusAdvise.LotusCore

/-- What the language says of texts: the text of an array or an object, lower case, and the digits
outside ASCII. -/
structure PayloadTexts where
  strItems : Json → String
  lower : String → String
  digit? : Char → Option ℕ

def asMapping? : Json → Option JsonObject
  | .obj row => some row
  | _ => none

/-- The objects of a list. Nothing else that can be iterated over has any. -/
def mappingRows (payload : JsonObject) (key : String) : List JsonObject :=
  match payload.get key with
  | .arr rows => rows.filterMap asMapping?
  | _ => []

namespace PayloadTexts

variable (texts : PayloadTexts)

/-- `str(value)`. -/
def str : Json → String
  | .null => "None"
  | .bool value => if value then "True" else "False"
  | .int value => toString value
  | .float repr => repr
  | .str value => value
  | .arr items => texts.strItems (.arr items)
  | .obj items => texts.strItems (.obj items)

def decimalOrNone (value : Json) : Option ExtendedDecimal :=
  if value = .null ∨ value = .str "" then none
  else DecimalSyntax.decimal? texts.digit? (texts.str value)

/-- `str(value or "").strip()`. -/
def normalizedText (value : Json) : String :=
  Text.strip (if value.truthy then texts.str value else "")

def IsCashAssetClass (value : Json) : Prop := texts.lower (texts.normalizedText value) = "cash"

instance (value : Json) : Decidable (texts.IsCashAssetClass value) :=
  inferInstanceAs (Decidable (_ = _))

/-! ## Rows -/

/-- The rows of the positions that are not cash. -/
def nonCashRows (positionsPayload : JsonObject) : List JsonObject :=
  (mappingRows positionsPayload "positions").filter fun row =>
    ¬ texts.IsCashAssetClass (row.get "asset_class")

def instrumentIdOf (row : JsonObject) : String := texts.normalizedText (row.get "security_id")

def currencyOf (row : JsonObject) : String := texts.normalizedText (row.get "currency")

def accountCurrencyOf (account : JsonObject) : String :=
  texts.normalizedText (account.get "account_currency")

end PayloadTexts

end LotusAdvise.LotusCore

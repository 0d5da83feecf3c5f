import LotusAdvise.Foundations.ExtendedDecimals
import LotusAdvise.Foundations.Text
import Mathlib.Data.Nat.Log

/-! # The syntax of decimals

A text is read as a decimal: an optional sign, then digits with an optional point and exponent, an
infinity, or not a number. White space around it and underscores are left out. A number that does
not fit the exponents of the largest context is refused, as a text of another form is.
-/

namespace LotusAdvise.DecimalSyntax

/-- A character in ASCII: other white space is a blank, and the table gives the other digits. -/
def asciiChar? (digit? : Char → Option ℕ) (c : Char) : Option Char :=
  if 0 < c.toNat ∧ c.toNat ≤ 127 then some c
  else if Text.isSpace c then some ' '
  else (digit? c).map Text.digit

def numericAsAscii (digit? : Char → Option ℕ) (text : String) : Option (List Char) :=
  ((Text.stripChars text.toList).filter (· ≠ '_')).mapM (asciiChar? digit?)

/-- The sign is negative, and what follows it. -/
def splitSign (cs : List Char) : Bool × List Char :=
  if cs.head? = some '-' then (true, cs.tail)
  else if cs.head? = some '+' then (false, cs.tail)
  else (false, cs)

def digitsValue (cs : List Char) : ℕ := Nat.ofDigitChars 10 cs 0

def AllDigits (cs : List Char) : Prop := cs.all Char.isDigit = true

instance (cs : List Char) : Decidable (AllDigits cs) := inferInstanceAs (Decidable (_ = _))

/-- The exponent part, which may be left out. -/
def exponent? (cs : List Char) : Option ℤ :=
  if cs = [] then some 0
  else if cs.head? ≠ some 'e' ∧ cs.head? ≠ some 'E' then none
  else if (splitSign cs.tail).2 = [] ∨ ¬ AllDigits (splitSign cs.tail).2 then none
  else if (splitSign cs.tail).1 then some (-(digitsValue (splitSign cs.tail).2 : ℤ))
  else some (digitsValue (splitSign cs.tail).2)

/-- The digits after the point, and what follows them. -/
def splitFraction (cs : List Char) : List Char × List Char :=
  if cs.head? = some '.' then cs.tail.span Char.isDigit else ([], cs)

/-- The coefficient and the exponent of a number without its sign. -/
def number? (cs : List Char) : Option (ℕ × ℤ) :=
  if (cs.span Char.isDigit).1 ++ (splitFraction (cs.span Char.isDigit).2).1 = [] then none
  else (exponent? (splitFraction (cs.span Char.isDigit).2).2).map fun exponent =>
    (digitsValue ((cs.span Char.isDigit).1 ++ (splitFraction (cs.span Char.isDigit).2).1),
      exponent - (splitFraction (cs.span Char.isDigit).2).1.length)

/-- The exponents of the largest context. -/
def maxEmax : ℤ := 999999999999999999

def minEtiny : ℤ := -1999999999999999997

/-- The exponent of the first digit is not above the greatest one, nor that of the last digit below
the least. -/
def FitsExponents (coefficient : ℕ) (exponent : ℤ) : Prop :=
  exponent + Nat.log 10 coefficient ≤ maxEmax ∧ minEtiny ≤ exponent

instance (coefficient : ℕ) (exponent : ℤ) : Decidable (FitsExponents coefficient exponent) :=
  inferInstanceAs (Decidable (_ ∧ _))

def unsigned? (cs : List Char) : Option ExtendedDecimal :=
  match number? cs with
  | none => none
  | some (coefficient, exponent) =>
    if FitsExponents coefficient exponent then
      some (.finite (coefficient * (10 : ℚ) ^ exponent))
    else none

def negate : ExtendedDecimal → ExtendedDecimal
  | .finite x => .finite (-x)
  | .infinite negative => .infinite !negative
  | .nan => .nan
  | .signalingNan => .signalingNan

/-- The decimal without its sign. What follows `nan` are the digits of a payload. -/
def magnitude? (cs : List Char) : Option ExtendedDecimal :=
  if cs.map Char.toLower = "inf".toList ∨ cs.map Char.toLower = "infinity".toList then
    some (.infinite false)
  else if (cs.take 3).map Char.toLower = "nan".toList ∧ AllDigits (cs.drop 3) then some .nan
  else if (cs.take 4).map Char.toLower = "snan".toList ∧ AllDigits (cs.drop 4) then
    some .signalingNan
  else unsigned? cs

/-- `Decimal(text)`, if it does not raise. -/
def decimal? (digit? : Char → Option ℕ) (text : String) : Option ExtendedDecimal :=
  (numericAsAscii digit? text).bind fun cs =>
    if (splitSign cs).1 then (magnitude? (splitSign cs).2).map negate
    else magnitude? (splitSign cs).2

example : decimal? (fun _ => none) " -1_2.50e+1\n" = some (.finite (-125)) := by decide +kernel

example : decimal? (fun _ => none) "sNaN" = some .signalingNan := by decide +kernel

end LotusAdvise.DecimalSyntax

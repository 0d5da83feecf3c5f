import LotusAdvise.Foundations.FieldRounding
import Mathlib.Algebra.Order.Field.Power
import Mathlib.Data.Int.Log

/-! # Decimals with infinities

A decimal is a number, an infinity, or not a number. The quotient of two is rounded to the digits of
a context, to the even one of two that are equally near. What is below the least exponent is rounded
to its digits, and what is above the greatest one is signalled.
-/

namespace LotusAdvise

/-- A decimal. The sign of zero is left out. -/
inductive ExtendedDecimal where
  | finite (x : ℚ)
  | infinite (negative : Bool)
  | nan
  | signalingNan
deriving DecidableEq

/-- The signals that are raised. -/
inductive DecimalSignal where
  | invalidOperation
  | divisionByZero
  | overflow
deriving DecidableEq

structure DecimalContext where
  precision : ℕ
  eMin : ℤ
  eMax : ℤ
  precision_pos : 0 < precision
  eMin_le_eMax : eMin ≤ eMax
  eMax_nonneg : 0 ≤ eMax

namespace DecimalContext

variable (context : DecimalContext)

/-- The exponent of the last digit of the smallest numbers. -/
def eTiny : ℤ := context.eMin - context.precision + 1

/-- The exponent of the last digit that a positive number keeps. -/
def lastExponent (x : ℚ) : ℤ := max (Int.log 10 x - context.precision + 1) context.eTiny

def roundMagnitude (x : ℚ) : ℚ :=
  FieldRounding.halfEven (x / (10 : ℚ) ^ context.lastExponent x) * (10 : ℚ) ^ context.lastExponent x

def round (x : ℚ) : ℚ := if x < 0 then -context.roundMagnitude (-x) else context.roundMagnitude x

/-- The number is rounded to more than the greatest exponent. -/
def Overflows (x : ℚ) : Prop := context.eMax < Int.log 10 (context.roundMagnitude |x|)

instance (x : ℚ) : Decidable (context.Overflows x) := inferInstanceAs (Decidable (_ < _))

def quotient (x y : ℚ) : Except DecimalSignal ExtendedDecimal :=
  if y = 0 then .error (if x = 0 then .invalidOperation else .divisionByZero)
  else if context.Overflows (x / y) then .error .overflow
  else .ok (.finite (context.round (x / y)))

def divide : ExtendedDecimal → ExtendedDecimal → Except DecimalSignal ExtendedDecimal
  | .signalingNan, _ => .error .invalidOperation
  | .nan, .signalingNan => .error .invalidOperation
  | .nan, _ => .ok .nan
  | .infinite _, .signalingNan => .error .invalidOperation
  | .infinite _, .nan => .ok .nan
  | .infinite _, .infinite _ => .error .invalidOperation
  | .infinite negative, .finite y => .ok (.infinite (negative ^^ decide (y < 0)))
  | .finite _, .signalingNan => .error .invalidOperation
  | .finite _, .nan => .ok .nan
  | .finite _, .infinite _ => .ok (.finite 0)
  | .finite x, .finite y => context.quotient x y

/-! ## The bounds of the rounding -/

/-- The largest magnitude that is rounded to zero. -/
def underflowBound : ℚ := (10 : ℚ) ^ context.eTiny / 2

/-- The smallest magnitude that is rounded beyond the greatest exponent. -/
def overflowBound : ℚ :=
  ((10 : ℚ) ^ context.precision - 1 / 2) * (10 : ℚ) ^ (context.eMax - context.precision + 1)

variable {context} {x : ℚ} {j : ℤ}

theorem underflowBound_pos (context : DecimalContext) : 0 < context.underflowBound := by
  unfold underflowBound
  positivity

theorem eTiny_le_eMin : context.eTiny ≤ context.eMin := by
  have := context.precision_pos
  unfold eTiny
  omega

theorem exists_power_eq (h : context.lastExponent x ≤ j) :
    ∃ n : ℤ, (10 : ℚ) ^ j / (10 : ℚ) ^ context.lastExponent x = n := by
  refine ⟨10 ^ (j - context.lastExponent x).toNat, ?_⟩
  rw [← zpow_sub₀ (by norm_num)]
  push_cast
  rw [← zpow_natCast, Int.toNat_of_nonneg (by omega)]

/-- A power of ten below a number stays below it. -/
theorem power_le_roundMagnitude (hj : context.lastExponent x ≤ j) (h : (10 : ℚ) ^ j ≤ x) :
    (10 : ℚ) ^ j ≤ context.roundMagnitude x := by
  have hpos : (0 : ℚ) < (10 : ℚ) ^ context.lastExponent x := by positivity
  obtain ⟨n, hn⟩ := exists_power_eq hj
  have hround := FieldRounding.halfEven_mono (div_le_div_of_nonneg_right h hpos.le)
  rw [hn, FieldRounding.halfEven_intCast] at hround
  rw [roundMagnitude, ← div_le_iff₀ hpos, hn]
  exact_mod_cast hround

/-- A power of ten above a number stays above it. -/
theorem roundMagnitude_le_power (hj : context.lastExponent x ≤ j) (h : x ≤ (10 : ℚ) ^ j) :
    context.roundMagnitude x ≤ (10 : ℚ) ^ j := by
  have hpos : (0 : ℚ) < (10 : ℚ) ^ context.lastExponent x := by positivity
  obtain ⟨n, hn⟩ := exists_power_eq hj
  have hround := FieldRounding.halfEven_mono (div_le_div_of_nonneg_right h hpos.le)
  rw [hn, FieldRounding.halfEven_intCast] at hround
  rw [roundMagnitude, ← le_div_iff₀ hpos, hn]
  exact_mod_cast hround

/-- A number is rounded to zero up to half of the smallest number. -/
theorem roundMagnitude_pos_iff (hx : 0 < x) :
    0 < context.roundMagnitude x ↔ context.underflowBound < x := by
  have hpos : (0 : ℚ) < (10 : ℚ) ^ context.lastExponent x := by positivity
  have hhalf : 0 < context.roundMagnitude x ↔ (10 : ℚ) ^ context.lastExponent x / 2 < x := by
    rw [roundMagnitude, mul_pos_iff_of_pos_right hpos, Int.cast_pos,
      FieldRounding.halfEven_pos_iff, lt_div_iff₀ hpos]
    ring_nf
  rw [hhalf, underflowBound]
  rcases le_total (Int.log 10 x - context.precision + 1) context.eTiny with hle | hle
  · rw [lastExponent, max_eq_right hle]
  · rw [lastExponent, max_eq_left hle]
    have hlog := Int.zpow_log_le_self (b := 10) (by norm_num) hx
    push_cast at hlog
    have hkept : (10 : ℚ) ^ (Int.log 10 x - context.precision + 1) ≤ (10 : ℚ) ^ Int.log 10 x :=
      zpow_le_zpow_right₀ (by norm_num) (by have := context.precision_pos; omega)
    have htiny : (10 : ℚ) ^ context.eTiny ≤
        (10 : ℚ) ^ (Int.log 10 x - context.precision + 1) := zpow_le_zpow_right₀ (by norm_num) hle
    constructor <;> intro <;> linarith

theorem overflowBound_eq : context.overflowBound =
    (10 : ℚ) ^ (context.eMax + 1) - (10 : ℚ) ^ (context.eMax - context.precision + 1) / 2 := by
  have hpower : (10 : ℚ) ^ context.precision * (10 : ℚ) ^ (context.eMax - context.precision + 1) =
      (10 : ℚ) ^ (context.eMax + 1) := by
    rw [← zpow_natCast, ← zpow_add₀ (by norm_num)]
    congr 1
    omega
  rw [overflowBound, sub_mul, hpower]
  ring

theorem overflowBound_le : context.overflowBound ≤ (10 : ℚ) ^ (context.eMax + 1) := by
  rw [overflowBound_eq]
  exact sub_le_self _ (by positivity)

theorem power_lt_overflowBound : (10 : ℚ) ^ context.eMax < context.overflowBound := by
  have hkept : (10 : ℚ) ^ (context.eMax - context.precision + 1) ≤ (10 : ℚ) ^ context.eMax :=
    zpow_le_zpow_right₀ (by norm_num) (by have := context.precision_pos; omega)
  have hpos : (0 : ℚ) < (10 : ℚ) ^ context.eMax := by positivity
  rw [overflowBound_eq, zpow_add_one₀ (by norm_num)]
  linarith

/-- At the greatest exponent a number is rounded beyond it from the bound on. -/
theorem le_roundMagnitude_of_log (hlog : Int.log 10 x = context.eMax) :
    (10 : ℚ) ^ (context.eMax + 1) ≤ context.roundMagnitude x ↔ context.overflowBound ≤ x := by
  have hlast : context.lastExponent x = context.eMax - context.precision + 1 := by
    have := context.eMin_le_eMax
    rw [lastExponent, hlog, eTiny]
    omega
  have hpos : (0 : ℚ) < (10 : ℚ) ^ (context.eMax - context.precision + 1) := by positivity
  have heven : ((10 : ℤ) ^ context.precision) % 2 = 0 :=
    Int.emod_eq_zero_of_dvd (dvd_pow (by norm_num) context.precision_pos.ne')
  have hpower : (10 : ℚ) ^ (context.eMax + 1) = ((10 ^ context.precision : ℤ) : ℚ) *
      (10 : ℚ) ^ (context.eMax - context.precision + 1) := by
    push_cast
    rw [← zpow_natCast, ← zpow_add₀ (by norm_num)]
    congr 1
    omega
  rw [roundMagnitude, hlast, hpower, mul_le_mul_iff_left₀ hpos, Int.cast_le,
    FieldRounding.le_halfEven_iff heven, le_div_iff₀ hpos, overflowBound]
  push_cast
  rfl

/-- A positive number is rounded beyond the greatest exponent from the bound on. -/
theorem le_roundMagnitude_iff (hx : 0 < x) :
    (10 : ℚ) ^ (context.eMax + 1) ≤ context.roundMagnitude x ↔ context.overflowBound ≤ x := by
  have hbounds := And.intro context.precision_pos context.eMin_le_eMax
  have hleast := Int.zpow_log_le_self (b := 10) (by norm_num) hx
  have hmost := Int.lt_zpow_succ_log_self (b := 10) (by norm_num) x
  push_cast at hleast hmost
  rcases lt_trichotomy (Int.log 10 x) context.eMax with hlt | heq | hgt
  · have hbelow : x ≤ (10 : ℚ) ^ context.eMax :=
      hmost.le.trans (zpow_le_zpow_right₀ (by norm_num) hlt)
    have hlast : context.lastExponent x ≤ context.eMax := by
      rw [lastExponent, eTiny]
      omega
    have hround := roundMagnitude_le_power hlast hbelow
    have hnext : (10 : ℚ) ^ context.eMax < (10 : ℚ) ^ (context.eMax + 1) :=
      zpow_lt_zpow_right₀ (by norm_num) (by omega)
    constructor
    · exact fun hle => absurd (hle.trans hround) hnext.not_ge
    · exact fun hle => absurd (hle.trans hbelow) power_lt_overflowBound.not_ge
  · exact le_roundMagnitude_of_log heq
  · have hlast : context.lastExponent x ≤ Int.log 10 x := by
      rw [lastExponent, eTiny]
      omega
    have hpower : (10 : ℚ) ^ (context.eMax + 1) ≤ (10 : ℚ) ^ Int.log 10 x :=
      zpow_le_zpow_right₀ (by norm_num) hgt
    constructor
    · exact fun _ => overflowBound_le.trans (hpower.trans hleast)
    · exact fun _ => hpower.trans (power_le_roundMagnitude hlast hleast)

theorem roundMagnitude_zero : context.roundMagnitude 0 = 0 := by
  have hzero : FieldRounding.halfEven (0 : ℚ) = 0 := by
    exact_mod_cast FieldRounding.halfEven_intCast (R := ℚ) 0
  rw [roundMagnitude, zero_div, hzero, Int.cast_zero, zero_mul]

theorem roundMagnitude_nonneg (context : DecimalContext) (hx : 0 ≤ x) : 0 ≤ context.roundMagnitude x := by
  have hpos : (0 : ℚ) < (10 : ℚ) ^ context.lastExponent x := by positivity
  have hround := FieldRounding.halfEven_mono (div_nonneg hx hpos.le)
  have hzero : FieldRounding.halfEven (0 : ℚ) = 0 := by
    exact_mod_cast FieldRounding.halfEven_intCast (R := ℚ) 0
  rw [hzero] at hround
  exact mul_nonneg (by exact_mod_cast hround) hpos.le

theorem overflowBound_pos (context : DecimalContext) : 0 < context.overflowBound :=
  lt_trans (by positivity) power_lt_overflowBound

/-- A number overflows from the bound on. -/
theorem overflows_iff : context.Overflows x ↔ context.overflowBound ≤ |x| := by
  rcases (abs_nonneg x).eq_or_lt with hzero | hpos
  · have hpos := context.overflowBound_pos
    unfold Overflows
    rw [← hzero, roundMagnitude_zero, Int.log_zero_right]
    constructor
    · exact fun hlt => absurd context.eMax_nonneg hlt.not_ge
    · exact fun hle => absurd hle hpos.not_ge
  · unfold Overflows
    rw [← le_roundMagnitude_iff hpos]
    rcases (context.roundMagnitude_nonneg hpos.le).eq_or_lt with hround | hround
    · have hpower : (0 : ℚ) < (10 : ℚ) ^ (context.eMax + 1) := by positivity
      rw [← hround, Int.log_zero_right]
      constructor
      · exact fun hlt => absurd context.eMax_nonneg hlt.not_ge
      · exact fun hle => absurd hle hpower.not_ge
    · have hlog := Int.zpow_le_iff_le_log (b := 10) (x := context.eMax + 1) (by norm_num) hround
      push_cast at hlog
      rw [hlog]
      rfl

/-- What is rounded to a positive number. -/
theorem round_pos_iff : 0 < context.round x ↔ context.underflowBound < x := by
  have hbound := context.underflowBound_pos
  unfold round
  rcases lt_trichotomy x 0 with hlt | heq | hgt
  · have hround := context.roundMagnitude_nonneg (neg_nonneg.mpr hlt.le)
    rw [if_pos hlt]
    constructor <;> intro <;> linarith
  · rw [heq, if_neg (lt_irrefl _), roundMagnitude_zero]
    constructor <;> intro <;> linarith
  · rw [if_neg hgt.le.not_gt, roundMagnitude_pos_iff hgt]

end DecimalContext

end LotusAdvise

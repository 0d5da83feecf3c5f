import Mathlib.Data.Rat.Floor
import Mathlib.Algebra.Order.Floor.Ring
import Mathlib.Tactic.Linarith
import Mathlib.Tactic.FieldSimp
import Mathlib.Tactic.Positivity

/-! # Decimal amounts

Amounts are exact rationals. One is quantized to a number of digits by rounding to the
nearest multiple of the unit, and to the even one when two are equally near.
-/

namespace LotusAdvise.Decimal

def roundHalfEven (x : ℚ) : ℤ :=
  if Int.fract x < 1 / 2 then ⌊x⌋
  else if 1 / 2 < Int.fract x then ⌊x⌋ + 1
  else if ⌊x⌋ % 2 = 0 then ⌊x⌋
  else ⌊x⌋ + 1

/-- The smallest positive amount with that many digits. -/
def unit (digits : ℕ) : ℚ := 1 / 10 ^ digits

def quantize (digits : ℕ) (x : ℚ) : ℚ := roundHalfEven (x / unit digits) * unit digits

variable {digits : ℕ} {x y : ℚ}

theorem roundHalfEven_eq_or (x : ℚ) :
    (roundHalfEven x = ⌊x⌋ ∧ Int.fract x ≤ 1 / 2) ∨
      (roundHalfEven x = ⌊x⌋ + 1 ∧ 1 / 2 ≤ Int.fract x) := by
  unfold roundHalfEven
  split
  · next h => exact .inl ⟨rfl, h.le⟩
  · next h =>
    rw [not_lt] at h
    split
    · exact .inr ⟨rfl, h⟩
    · next h' =>
      rw [not_lt] at h'
      split
      · exact .inl ⟨rfl, h'⟩
      · exact .inr ⟨rfl, h⟩

theorem abs_roundHalfEven_sub_le (x : ℚ) : |(roundHalfEven x : ℚ) - x| ≤ 1 / 2 := by
  have hfract := Int.self_sub_floor x
  have hlt := Int.fract_lt_one x
  have hnonneg := Int.fract_nonneg x
  rw [abs_le]
  rcases roundHalfEven_eq_or x with ⟨heq, hle⟩ | ⟨heq, hle⟩
  · rw [heq]
    constructor <;> linarith
  · rw [heq]
    push_cast
    constructor <;> linarith

@[simp] theorem roundHalfEven_intCast (n : ℤ) : roundHalfEven n = n := by
  rcases roundHalfEven_eq_or (n : ℚ) with ⟨heq, -⟩ | ⟨-, hle⟩
  · rw [heq, Int.floor_intCast]
  · rw [Int.fract_intCast] at hle
    norm_num at hle

theorem roundHalfEven_nonneg (hx : 0 ≤ x) : 0 ≤ roundHalfEven x := by
  have hfloor : 0 ≤ ⌊x⌋ := Int.floor_nonneg.mpr hx
  rcases roundHalfEven_eq_or x with ⟨heq, -⟩ | ⟨heq, -⟩ <;> omega

/-- An amount that rounding does not lower: it is whole, or more than half above a whole number, or
half above an odd one. -/
def NotLowered (x : ℚ) : Prop :=
  Int.fract x = 0 ∨ 1 / 2 < Int.fract x ∨ Int.fract x = 1 / 2 ∧ ⌊x⌋ % 2 = 1

theorem le_roundHalfEven_iff : x ≤ roundHalfEven x ↔ NotLowered x := by
  have hfract := Int.self_sub_floor x
  have hlt := Int.fract_lt_one x
  have hfloor : x ≤ (⌊x⌋ : ℚ) ↔ Int.fract x = 0 := by
    rw [← sub_nonpos, hfract]
    exact (Int.fract_nonneg x).ge_iff_eq'
  have hceil : x ≤ ((⌊x⌋ + 1 : ℤ) : ℚ) := by
    push_cast
    linarith
  unfold roundHalfEven NotLowered
  by_cases hbelow : Int.fract x < 1 / 2
  · rw [if_pos hbelow, hfloor]
    refine ⟨.inl, ?_⟩
    rintro (hzero | habove | ⟨hhalf, -⟩)
    · exact hzero
    · exact absurd habove hbelow.not_gt
    · exact absurd hhalf hbelow.ne
  rw [if_neg hbelow]
  by_cases habove : 1 / 2 < Int.fract x
  · rw [if_pos habove]
    exact ⟨fun _ => .inr (.inl habove), fun _ => hceil⟩
  have hhalf : Int.fract x = 1 / 2 := le_antisymm (not_lt.mp habove) (not_lt.mp hbelow)
  rw [if_neg habove]
  by_cases heven : ⌊x⌋ % 2 = 0
  · rw [if_pos heven, hfloor, hhalf]
    norm_num
    omega
  · rw [if_neg heven]
    exact ⟨fun _ => .inr (.inr ⟨hhalf, by omega⟩), fun _ => hceil⟩

theorem unit_pos (digits : ℕ) : 0 < unit digits := by
  unfold unit
  positivity

/-- A quantized amount is a whole number of units. -/
theorem exists_quantize_eq (digits : ℕ) (x : ℚ) : ∃ n : ℤ, quantize digits x = n * unit digits :=
  ⟨_, rfl⟩

theorem quantize_nonneg (hx : 0 ≤ x) : 0 ≤ quantize digits x := by
  have hrounded : (0 : ℚ) ≤ roundHalfEven (x / unit digits) := by
    exact_mod_cast roundHalfEven_nonneg (div_nonneg hx (unit_pos digits).le)
  exact mul_nonneg hrounded (unit_pos digits).le

/-- A quantized amount that is not negative counts its units. -/
theorem exists_units_of_nonneg (hx : 0 ≤ x) : ∃ n : ℕ, quantize digits x = n * unit digits := by
  have hrounded := roundHalfEven_nonneg (div_nonneg hx (unit_pos digits).le)
  refine ⟨(roundHalfEven (x / unit digits)).toNat, ?_⟩
  rw [quantize]
  congr 1
  exact_mod_cast (Int.toNat_of_nonneg hrounded).symm

theorem abs_quantize_sub_le (digits : ℕ) (x : ℚ) : |quantize digits x - x| ≤ unit digits / 2 := by
  have hpos := unit_pos digits
  have heq : quantize digits x - x =
      (roundHalfEven (x / unit digits) - x / unit digits) * unit digits := by
    rw [quantize, sub_mul, div_mul_cancel₀ _ hpos.ne']
  have hround := abs_roundHalfEven_sub_le (x / unit digits)
  rw [heq, abs_mul, abs_of_pos hpos]
  nlinarith

theorem le_quantize_iff : x ≤ quantize digits x ↔ NotLowered (x / unit digits) := by
  rw [quantize, ← div_le_iff₀ (unit_pos digits), le_roundHalfEven_iff]

/-- A whole number of units is kept. -/
theorem quantize_of_units (n : ℤ) : quantize digits (n * unit digits) = n * unit digits := by
  rw [quantize, mul_div_cancel_right₀ _ (unit_pos digits).ne', roundHalfEven_intCast]

/-- A quantized amount below one unit is zero. -/
theorem quantize_eq_zero_of_lt (hx : 0 ≤ quantize digits x) (h : quantize digits x < unit digits) :
    quantize digits x = 0 := by
  obtain ⟨n, hn⟩ := exists_quantize_eq digits x
  rw [hn] at hx h ⊢
  have hpos := unit_pos digits
  have hn0 : 0 ≤ n := by
    by_contra hneg
    have : (n : ℚ) ≤ -1 := by exact_mod_cast (by omega : n ≤ -1)
    nlinarith
  have hn1 : n < 1 := by
    by_contra hge
    have : (1 : ℚ) ≤ n := by exact_mod_cast (by omega : 1 ≤ n)
    nlinarith
  obtain rfl : n = 0 := by omega
  simp

end LotusAdvise.Decimal

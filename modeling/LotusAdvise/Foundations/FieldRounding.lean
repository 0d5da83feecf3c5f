import LotusAdvise.Foundations.Decimal
import Mathlib.Algebra.Order.Round
import Mathlib.Algebra.BigOperators.Group.List.Basic
import Mathlib.Data.Rat.Cast.Order

/-! # Rounding in ordered fields

A number of any ordered field with a floor is rounded to a decimal, to the nearest multiple of the
unit and to the even one of two. Each of several numbers moves by half a unit at most, and their sum
by half a unit for each of them.
-/

namespace LotusAdvise.FieldRounding

variable {R : Type*} [Field R] [LinearOrder R] [FloorRing R]

def halfEven (x : R) : ℤ :=
  if Int.fract x + Int.fract x < 1 then ⌊x⌋
  else if 1 < Int.fract x + Int.fract x then ⌊x⌋ + 1
  else if ⌊x⌋ % 2 = 0 then ⌊x⌋
  else ⌊x⌋ + 1

/-- The decimal with that many digits that is nearest to a number. -/
def quantize (digits : ℕ) (x : R) : ℚ := halfEven (x / Decimal.unit digits) * Decimal.unit digits

variable [IsStrictOrderedRing R] {x y : R} {digits : ℕ}

theorem halfEven_eq (x : R) : halfEven x =
    if Int.fract x < 1 / 2 then ⌊x⌋
    else if 1 / 2 < Int.fract x then ⌊x⌋ + 1
    else if ⌊x⌋ % 2 = 0 then ⌊x⌋
    else ⌊x⌋ + 1 := by
  have hbelow : Int.fract x + Int.fract x < 1 ↔ Int.fract x < 1 / 2 := by
    rw [← two_mul, lt_div_iff₀' two_pos]
  have habove : 1 < Int.fract x + Int.fract x ↔ 1 / 2 < Int.fract x := by
    rw [← two_mul, div_lt_iff₀' two_pos]
  simp only [halfEven, hbelow, habove]

theorem halfEven_eq_or (x : R) : (halfEven x = ⌊x⌋ ∧ Int.fract x ≤ 1 / 2) ∨
    (halfEven x = ⌊x⌋ + 1 ∧ 1 / 2 ≤ Int.fract x) := by
  rw [halfEven_eq]
  split_ifs with hbelow habove heven
  · exact .inl ⟨rfl, hbelow.le⟩
  · exact .inr ⟨rfl, habove.le⟩
  · exact .inl ⟨rfl, not_lt.mp habove⟩
  · exact .inr ⟨rfl, not_lt.mp hbelow⟩

theorem abs_halfEven_sub_le (x : R) : |(halfEven x : R) - x| ≤ 1 / 2 := by
  have hfract := Int.self_sub_floor x
  have hlt := Int.fract_lt_one x
  have hnonneg := Int.fract_nonneg x
  rw [abs_le]
  rcases halfEven_eq_or x with ⟨heq, hle⟩ | ⟨heq, hle⟩
  · rw [heq]
    constructor <;> linarith
  · rw [heq]
    push_cast
    constructor <;> linarith

theorem halfEven_mono (h : x ≤ y) : halfEven x ≤ halfEven y := by
  rcases (Int.floor_mono h).lt_or_eq with hlt | heq
  · have hx : halfEven x ≤ ⌊x⌋ + 1 := by
      rcases halfEven_eq_or x with ⟨heq, -⟩ | ⟨heq, -⟩ <;> omega
    have hy : ⌊y⌋ ≤ halfEven y := by
      rcases halfEven_eq_or y with ⟨heq, -⟩ | ⟨heq, -⟩ <;> omega
    omega
  · have hfract : Int.fract x ≤ Int.fract y := by
      rw [← Int.self_sub_floor, ← Int.self_sub_floor, heq]
      linarith
    rw [halfEven_eq, halfEven_eq, heq]
    split_ifs <;> first | omega | (exfalso; linarith)

@[simp] theorem halfEven_intCast (n : ℤ) : halfEven (n : R) = n := by
  rw [halfEven_eq, Int.fract_intCast, Int.floor_intCast, if_pos (by norm_num)]

/-- An even number is reached from half below it on. -/
theorem le_halfEven_iff {n : ℤ} (hn : n % 2 = 0) : n ≤ halfEven x ↔ (n : R) - 1 / 2 ≤ x := by
  constructor
  · intro hle
    have hcast : (n : R) ≤ halfEven x := by exact_mod_cast hle
    have hnear := (abs_le.mp (abs_halfEven_sub_le x)).2
    linarith
  · intro hle
    have hfloor : ⌊(n : R) - 1 / 2⌋ = n - 1 := by
      rw [Int.floor_eq_iff]
      push_cast
      constructor <;> linarith
    have hfract : Int.fract ((n : R) - 1 / 2) = 1 / 2 := by
      rw [← Int.self_sub_floor, hfloor]
      push_cast
      ring
    have hhalf : halfEven ((n : R) - 1 / 2) = n := by
      rw [halfEven_eq, hfract, hfloor, if_neg (lt_irrefl _), if_neg (lt_irrefl _), if_neg (by omega)]
      omega
    rw [← hhalf]
    exact halfEven_mono hle

theorem halfEven_pos_iff : 0 < halfEven x ↔ 1 / 2 < x := by
  constructor
  · intro hpos
    by_contra! hle
    have hhalf : halfEven (1 / 2 : R) = 0 := by
      have hfloor : ⌊(1 / 2 : R)⌋ = 0 := by
        rw [Int.floor_eq_iff]
        push_cast
        constructor <;> linarith
      rw [halfEven_eq, ← Int.self_sub_floor, hfloor, Int.cast_zero, sub_zero, if_neg (lt_irrefl _),
        if_neg (lt_irrefl _), if_pos (Int.zero_emod 2)]
    have hround := halfEven_mono hle
    omega
  · intro hlt
    have hnear := (abs_le.mp (abs_halfEven_sub_le x)).1
    have hcast : (0 : R) < halfEven x := by linarith
    exact_mod_cast hcast

omit [FloorRing R] in
theorem unit_cast_pos (digits : ℕ) : (0 : R) < (Decimal.unit digits : ℚ) :=
  Rat.cast_pos.mpr (Decimal.unit_pos digits)

theorem abs_quantize_sub_le (digits : ℕ) (x : R) :
    |(quantize digits x : R) - x| ≤ (Decimal.unit digits : ℚ) / 2 := by
  have hpos : (0 : R) < (Decimal.unit digits : ℚ) := unit_cast_pos digits
  have heq : (quantize digits x : R) - x = (halfEven (x / (Decimal.unit digits : ℚ)) -
      x / (Decimal.unit digits : ℚ)) * (Decimal.unit digits : ℚ) := by
    rw [quantize, sub_mul, div_mul_cancel₀ _ hpos.ne']
    push_cast
    rfl
  have hround := abs_halfEven_sub_le (x / ((Decimal.unit digits : ℚ) : R))
  rw [heq, abs_mul, abs_of_pos hpos]
  nlinarith

theorem quantize_nonneg (h : 0 ≤ x) : 0 ≤ quantize digits x := by
  have hpos : (0 : R) < (Decimal.unit digits : ℚ) := unit_cast_pos digits
  have hunits : (0 : R) ≤ x / (Decimal.unit digits : ℚ) := div_nonneg h hpos.le
  have hround : (halfEven (0 : R)) ≤ halfEven (x / ((Decimal.unit digits : ℚ) : R)) :=
    halfEven_mono hunits
  have hzero : halfEven (0 : R) = 0 := by exact_mod_cast halfEven_intCast (R := R) 0
  rw [hzero] at hround
  exact mul_nonneg (by exact_mod_cast hround) (Decimal.unit_pos digits).le

/-- A bound that is a whole number of units still is one after the rounding. -/
theorem quantize_le_of_units {n : ℤ} (h : x ≤ ((n * Decimal.unit digits : ℚ) : R)) :
    quantize digits x ≤ n * Decimal.unit digits := by
  have hpos : (0 : R) < (Decimal.unit digits : ℚ) := unit_cast_pos digits
  have hunits : x / ((Decimal.unit digits : ℚ) : R) ≤ (n : R) := by
    rw [div_le_iff₀ hpos]
    exact_mod_cast h
  have hround := halfEven_mono hunits
  rw [halfEven_intCast] at hround
  exact mul_le_mul_of_nonneg_right (by exact_mod_cast hround) (Decimal.unit_pos digits).le

omit [FloorRing R] in
/-- Terms that are near to one another have sums that are near. -/
theorem abs_sum_sub_sum_le {ε : R} {pairs : List (R × R)}
    (h : ∀ pair ∈ pairs, |pair.1 - pair.2| ≤ ε) :
    |(pairs.map Prod.fst).sum - (pairs.map Prod.snd).sum| ≤ pairs.length * ε := by
  induction pairs with
  | nil => simp
  | cons pair pairs ih =>
    obtain ⟨hpair, hpairs⟩ := List.forall_mem_cons.mp h
    rw [List.map_cons, List.map_cons, List.sum_cons, List.sum_cons, List.length_cons]
    calc |pair.1 + (pairs.map Prod.fst).sum - (pair.2 + (pairs.map Prod.snd).sum)|
        = |(pair.1 - pair.2) + ((pairs.map Prod.fst).sum - (pairs.map Prod.snd).sum)| := by
          congr 1
          ring
      _ ≤ |pair.1 - pair.2| + |(pairs.map Prod.fst).sum - (pairs.map Prod.snd).sum| :=
          abs_add_le _ _
      _ ≤ ε + pairs.length * ε := add_le_add hpair (ih hpairs)
      _ = (pairs.length + 1 : ℕ) * ε := by
          push_cast
          ring

end LotusAdvise.FieldRounding

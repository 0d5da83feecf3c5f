import LotusAdvise.Foundations.Weights
import Mathlib.Algebra.Order.BigOperators.Group.Finset
import Mathlib.Algebra.Order.BigOperators.Group.List
import Mathlib.Algebra.BigOperators.Field
import Mathlib.Algebra.Order.Field.Basic
import Mathlib.Tactic.Linarith

/-! # Half of the distance of two weightings

Half of the sum of the differences of two weightings. For weightings that weigh at most one together
it is between zero and one, and it is zero when they agree.
-/

namespace LotusAdvise

variable {K R : Type*} [Field R] [LinearOrder R] [IsStrictOrderedRing R]

def halfDistance (keys : Finset K) (p q : K → R) : R := 1 / 2 * ∑ k ∈ keys, |p k - q k|

variable {keys : Finset K} {p q : K → R}

theorem halfDistance_nonneg : 0 ≤ halfDistance keys p q := by
  apply mul_nonneg
  · exact one_half_pos.le
  · exact Finset.sum_nonneg fun k _ => abs_nonneg _

theorem halfDistance_eq_zero : halfDistance keys p q = 0 ↔ ∀ k ∈ keys, p k = q k := by
  have hhalf : (1 / 2 : R) ≠ 0 := one_half_pos.ne'
  rw [halfDistance, mul_eq_zero_iff_left hhalf,
    Finset.sum_eq_zero_iff_of_nonneg fun k _ => abs_nonneg _]
  simp only [abs_eq_zero, sub_eq_zero]

/-- Weightings that weigh at most one are at most one apart. -/
theorem halfDistance_le_one (hp : ∀ k, 0 ≤ p k) (hq : ∀ k, 0 ≤ q k)
    (hpsum : ∑ k ∈ keys, p k ≤ 1) (hqsum : ∑ k ∈ keys, q k ≤ 1) : halfDistance keys p q ≤ 1 := by
  have hterm : ∀ k ∈ keys, |p k - q k| ≤ p k + q k := by
    intro k _
    rw [abs_le]
    constructor
    · linarith only [hp k, hq k]
    · linarith only [hp k, hq k]
  have hsum : ∑ k ∈ keys, |p k - q k| ≤ 2 := by
    calc ∑ k ∈ keys, |p k - q k| ≤ ∑ k ∈ keys, (p k + q k) := Finset.sum_le_sum hterm
      _ = ∑ k ∈ keys, p k + ∑ k ∈ keys, q k := Finset.sum_add_distrib
      _ ≤ 2 := by linarith only [hpsum, hqsum]
  rw [halfDistance]
  linarith only [hsum]

namespace Weights

variable [DecidableEq K] {rows : List (K × R)}

/-- What the last row of a key weighs. -/
def lastWeight (rows : List (K × R)) (k : K) : R :=
  ((rows.filter fun row => row.1 = k).getLast?.map Prod.snd).getD 0

/-- What the rows of a key before the last one weigh. -/
def earlierWeight (rows : List (K × R)) (k : K) : R :=
  ((rows.filter fun row => row.1 = k).dropLast.map Prod.snd).sum

omit [LinearOrder R] [IsStrictOrderedRing R] in
theorem earlierWeight_add_lastWeight (k : K) :
    earlierWeight rows k + lastWeight rows k = weightOf rows k := by
  unfold earlierWeight lastWeight weightOf
  rcases List.eq_nil_or_concat (rows.filter fun row => row.1 = k) with h | ⟨init, last, h⟩
  · simp [h]
  · rw [h, List.concat_eq_append]
    simp

omit [IsStrictOrderedRing R] in
theorem lastWeight_nonneg (h : ∀ row ∈ rows, 0 ≤ row.2) (k : K) : 0 ≤ lastWeight rows k := by
  unfold lastWeight
  cases hlast : (rows.filter fun row => row.1 = k).getLast? with
  | none => exact le_rfl
  | some row => exact h row (List.mem_of_mem_filter (List.mem_of_getLast? hlast))

theorem earlierWeight_nonneg (h : ∀ row ∈ rows, 0 ≤ row.2) (k : K) : 0 ≤ earlierWeight rows k := by
  apply List.sum_nonneg
  intro weight hweight
  obtain ⟨row, hrow, rfl⟩ := List.mem_map.mp hweight
  exact h row (List.mem_of_mem_filter (List.mem_of_mem_dropLast hrow))

theorem weightOf_nonneg (h : ∀ row ∈ rows, 0 ≤ row.2) (k : K) : 0 ≤ weightOf rows k := by
  rw [← earlierWeight_add_lastWeight]
  exact add_nonneg (earlierWeight_nonneg h k) (lastWeight_nonneg h k)

/-- The last rows of some keys weigh at most what all rows weigh. -/
theorem sum_lastWeight_le (h : ∀ row ∈ rows, 0 ≤ row.2) (keys : Finset K) :
    ∑ k ∈ keys, lastWeight rows k ≤ (rows.map Prod.snd).sum := by
  have hrows : ∀ row ∈ rows, row.1 ∈ keys ∪ (rows.map Prod.fst).toFinset := by
    intro row hrow
    exact Finset.mem_union_right _ (List.mem_toFinset.mpr (List.mem_map_of_mem hrow))
  have htotal : (rows.map Prod.snd).sum =
      ∑ k ∈ keys ∪ (rows.map Prod.fst).toFinset, weightOf rows k := by
    have hall := weightWhere_eq_sum (fun _ => True) _ hrows
    rw [weightWhere, List.filter_eq_self.mpr fun _ _ => decide_eq_true trivial] at hall
    rw [hall]
    simp
  calc ∑ k ∈ keys, lastWeight rows k ≤ ∑ k ∈ keys, weightOf rows k := by
        apply Finset.sum_le_sum
        intro k _
        rw [← earlierWeight_add_lastWeight]
        linarith only [earlierWeight_nonneg h k]
    _ ≤ ∑ k ∈ keys ∪ (rows.map Prod.fst).toFinset, weightOf rows k :=
        Finset.sum_le_sum_of_subset_of_nonneg Finset.subset_union_left
          fun k _ _ => weightOf_nonneg h k
    _ = (rows.map Prod.snd).sum := htotal.symm

/-- Whether the last rows agree for every key is whether all rows agree, exactly when the rows
before the last ones agree, or else neither do. -/
theorem lastWeight_agree_iff {rows' : List (K × R)} :
    ((∀ k, lastWeight rows k = lastWeight rows' k) ↔ ∀ k, weightOf rows k = weightOf rows' k) ↔
      (∀ k, earlierWeight rows k = earlierWeight rows' k) ∨
        (¬ ∀ k, lastWeight rows k = lastWeight rows' k) ∧
          ¬ ∀ k, weightOf rows k = weightOf rows' k := by
  have hsplit : ∀ k, earlierWeight rows k + lastWeight rows k = weightOf rows k :=
    fun k => earlierWeight_add_lastWeight k
  have hsplit' : ∀ k, earlierWeight rows' k + lastWeight rows' k = weightOf rows' k :=
    fun k => earlierWeight_add_lastWeight k
  constructor
  · intro h
    by_cases hlast : ∀ k, lastWeight rows k = lastWeight rows' k
    · refine .inl fun k => ?_
      linarith only [hsplit k, hsplit' k, hlast k, h.mp hlast k]
    · exact .inr ⟨hlast, fun hall => hlast (h.mpr hall)⟩
  · rintro (hearlier | ⟨hlast, hall⟩)
    · constructor
      · intro hlast k
        rw [← hsplit, ← hsplit', hearlier, hlast]
      · intro hall k
        linarith only [hsplit k, hsplit' k, hall k, hearlier k]
    · exact ⟨fun h => absurd h hlast, fun h => absurd h hall⟩

end Weights

end LotusAdvise

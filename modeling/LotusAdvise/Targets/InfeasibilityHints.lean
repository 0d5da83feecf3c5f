import LotusAdvise.Targets.SolverProblem
import Mathlib.Algebra.Order.BigOperators.Group.List
import Mathlib.Tactic.Linarith

/-! # Infeasibility hints

When no targets were found, hints say what stands against them: the cash band, the capacity of the
positions, or the locked weight of a group. They recompute the bounds and the exposures of the
problem, and whenever there is one, the problem has no solution.
-/

namespace LotusAdvise.Targets

open Advisory (ShelfEntry EngineOptions)

section Hints

variable (options : TargetOptions)

/-- The least and the greatest weight that the tradeable targets can have. -/
def investedWeightBounds (lockedWeight : ℚ) : ℚ × ℚ :=
  (1 - options.cashBandMaxWeight - lockedWeight, 1 - options.cashBandMinWeight - lockedWeight)

def cashBandHint (bounds : ℚ × ℚ) : List String :=
  if bounds.2 < bounds.1 then ["INFEASIBILITY_HINT_CASH_BAND_CONTRADICTION"] else []

def singlePositionCapacityHint (tradeableCount : ℕ) (investedMin : ℚ) : List String :=
  match options.singlePositionMaxWeight with
  | none => []
  | some maxWeight =>
    if maxWeight * tradeableCount < investedMin then
      ["INFEASIBILITY_HINT_SINGLE_POSITION_CAPACITY"]
    else []

/-- The locked weight of a group and the number of its tradeable members. -/
def groupConstraintExposure (constraintKey : String) (eligibleTargets : Dict String ℚ)
    (shelfAttrsById : Dict String (Dict String String)) (indexedTradeable : Dict String ℕ) :
    ℚ × ℕ :=
  ((groupExposure shelfAttrsById (splitKey constraintKey) indexedTradeable
      eligibleTargets).lockedWeight,
    (groupExposure shelfAttrsById (splitKey constraintKey) indexedTradeable
      eligibleTargets).tradeableIds.length)

/-- The loop does nothing more for a group without members. -/
def lockedGroupWeightHint? (eligibleTargets : Dict String ℚ)
    (shelfAttrsById : Dict String (Dict String String)) (indexedTradeable : Dict String ℕ)
    (constraintKey : String) : Option String :=
  match Dict.get? options.groupConstraints constraintKey with
  | none => none
  | some constraint =>
    if constraint.maxWeight < (groupConstraintExposure constraintKey eligibleTargets
        shelfAttrsById indexedTradeable).1 then
      some ("INFEASIBILITY_HINT_LOCKED_GROUP_WEIGHT_" ++ constraintKey)
    else none

def collectInfeasibilityHints (tradeableIds : List String) (lockedWeight : ℚ)
    (eligibleTargets : Dict String ℚ) (shelf : List ShelfEntry) : List String :=
  cashBandHint (investedWeightBounds options lockedWeight) ++
    singlePositionCapacityHint options tradeableIds.length
      (investedWeightBounds options lockedWeight).1 ++
    options.sortedKeys.filterMap (lockedGroupWeightHint? options eligibleTargets
      (shelfAttrsByInstrumentId shelf) (indexTradeable tradeableIds))

end Hints

section Soundness

variable {R : Type*} [Field R] [LinearOrder R] [IsStrictOrderedRing R] {model : List ModelTarget}
  {eligibleTargets : Dict String ℚ} {buyList : List String} {shelf : List ShelfEntry}
  {options : TargetOptions} {index : TargetSolverIndex} {w : List R}

/-- The cash band leaves no weight to the tradeable targets. -/
theorem not_feasible_of_cashBand
    (h : (investedWeightBounds options index.lockedWeight).2 <
      (investedWeightBounds options index.lockedWeight).1) :
    ¬ (buildTargetSolverProblem model index eligibleTargets options).Feasible w := by
  intro hfeasible
  have hbounds := hfeasible.le_sum.trans hfeasible.sum_le
  rw [Rat.cast_le] at hbounds
  exact hbounds.not_gt h

/-- The positions cannot take the weight that is to be invested. -/
theorem not_feasible_of_capacity {maxWeight : ℚ}
    (hmax : options.singlePositionMaxWeight = some maxWeight)
    (h : maxWeight * index.tradeableIds.length <
      (investedWeightBounds options index.lockedWeight).1) :
    ¬ (buildTargetSolverProblem model index eligibleTargets options).Feasible w := by
  intro hfeasible
  have hcapacity : w.sum ≤ ((maxWeight * index.tradeableIds.length : ℚ) : R) := by
    have hsum := List.sum_le_card_nsmul w (maxWeight : R) (hfeasible.le_singlePosition hmax)
    rw [hfeasible.length_eq, nsmul_eq_mul] at hsum
    push_cast
    rw [mul_comm]
    exact hsum
  have hbounds := hfeasible.le_sum.trans hcapacity
  rw [Rat.cast_le] at hbounds
  exact hbounds.not_gt h

/-- The locked weight of a group is above its limit. -/
theorem not_feasible_of_lockedGroup {key : String} {constraint : GroupConstraint}
    (hget : Dict.get? options.groupConstraints key = some constraint)
    (h : constraint.maxWeight < (groupConstraintExposure key eligibleTargets
      (shelfAttrsByInstrumentId shelf)
      (indexTradeable (targetTradeableIds eligibleTargets buyList))).1) :
    ¬ (buildTargetSolverProblem model (buildTargetSolverIndex eligibleTargets buyList shelf)
      eligibleTargets options).Feasible w := by
  intro hfeasible
  set index := buildTargetSolverIndex eligibleTargets buyList shelf
  -- a locked weight above the limit is not zero, so that the group has a member
  have hlocked : (groupExposure index.shelfAttrsById (splitKey key) index.indexedTradeable
      eligibleTargets).lockedWeight ≠ 0 := (constraint.zero_le.trans_lt h).ne'
  have hknown : (splitKey key).1 ∈ index.knownAttrKeys := by
    rw [groupExposure_eq] at hlocked
    obtain ⟨x, hx, -⟩ := List.exists_mem_ne_zero_of_sum_ne_zero hlocked
    obtain ⟨target, htarget, -⟩ := List.mem_map.mp hx
    obtain ⟨hmember, -⟩ := of_decide_eq_true (List.mem_filter.mp htarget).2
    exact mem_knownShelfAttrKeys hmember
  have hlimit := hfeasible.group_le hget hknown rfl (.inr hlocked)
  have hnonneg : (0 : R) ≤ (((groupExposure index.shelfAttrsById (splitKey key)
      index.indexedTradeable eligibleTargets).tradeableIds.filterMap
        (Dict.get? index.indexedTradeable)).map fun i => w.getD i 0).sum := by
    refine List.sum_nonneg fun x hx => ?_
    obtain ⟨i, -, rfl⟩ := List.mem_map.mp hx
    rcases hi : w[i]? with _ | x
    · rw [List.getD_eq_getElem?_getD, hi, Option.getD_none]
    · rw [List.getD_eq_getElem?_getD, hi, Option.getD_some]
      exact hfeasible.nonneg x (List.mem_of_getElem? hi)
  have hle : (((groupExposure index.shelfAttrsById (splitKey key) index.indexedTradeable
      eligibleTargets).lockedWeight : ℚ) : R) ≤ (constraint.maxWeight : ℚ) :=
    (le_add_of_nonneg_left hnonneg).trans hlimit
  rw [Rat.cast_le] at hle
  exact hle.not_gt h

/-- Whenever there is a hint, the problem has no solution. -/
theorem infeasibilityHints_sound (model : List ModelTarget) (eligibleTargets : Dict String ℚ)
    (buyList : List String) (shelf : List ShelfEntry) (options : TargetOptions)
    (h : collectInfeasibilityHints options
      (buildTargetSolverIndex eligibleTargets buyList shelf).tradeableIds
      (buildTargetSolverIndex eligibleTargets buyList shelf).lockedWeight eligibleTargets shelf ≠
        []) :
    ¬ ∃ w : List R,
      (buildTargetSolverProblem model (buildTargetSolverIndex eligibleTargets buyList shelf)
        eligibleTargets options).Feasible w := by
  rintro ⟨w, hfeasible⟩
  refine h ?_
  have hband : cashBandHint (investedWeightBounds options
      (buildTargetSolverIndex eligibleTargets buyList shelf).lockedWeight) = [] :=
    if_neg fun hlt => not_feasible_of_cashBand hlt hfeasible
  have hcapacity : singlePositionCapacityHint options
      (buildTargetSolverIndex eligibleTargets buyList shelf).tradeableIds.length
      (investedWeightBounds options
        (buildTargetSolverIndex eligibleTargets buyList shelf).lockedWeight).1 = [] := by
    unfold singlePositionCapacityHint
    split
    · rfl
    · next maxWeight hmax => exact if_neg fun hlt => not_feasible_of_capacity hmax hlt hfeasible
  have hgroups : options.sortedKeys.filterMap (lockedGroupWeightHint? options eligibleTargets
      (shelfAttrsByInstrumentId shelf)
      (indexTradeable (buildTargetSolverIndex eligibleTargets buyList shelf).tradeableIds)) =
        [] := by
    refine List.filterMap_eq_nil_iff.mpr fun key _ => ?_
    unfold lockedGroupWeightHint?
    split
    · rfl
    · next constraint hget => exact if_neg fun hlt => not_feasible_of_lockedGroup hget hlt hfeasible
  rw [collectInfeasibilityHints, hband, hcapacity, hgroups]
  rfl

end Soundness

namespace Sample

theorem quarter_zero_le : (0 : ℚ) ≤ 1 / 4 := by norm_num

theorem quarter_le_one : (1 / 4 : ℚ) ≤ 1 := by norm_num

/-- At most a quarter in one group. -/
def quarter : GroupConstraint := ⟨1 / 4, quarter_zero_le, quarter_le_one⟩

theorem technology_valid :
    ∀ key ∈ [("sector:TECH", quarter)].map Prod.fst, ValidGroupConstraintKey key := by
  refine List.forall_mem_singleton.mpr ⟨by decide, by decide, by decide⟩

theorem technology_nodup : ([("sector:TECH", quarter)].map Prod.fst).Nodup := List.nodup_singleton _

def technologyOptions : TargetOptions where
  groupConstraints := [("sector:TECH", quarter)]
  keys_valid := technology_valid
  keys_nodup := technology_nodup

def technologyShelf : List ShelfEntry :=
  [{ instrumentId := "BOND_A", status := .approved, attributes := [("sector", "BOND")] },
    { instrumentId := "TECH_LOCKED", status := .sellOnly, attributes := [("sector", "TECH")] }]

def technologyTargets : Dict String ℚ := [("BOND_A", 1 / 5), ("TECH_LOCKED", 3 / 10)]

theorem technology_hinted : collectInfeasibilityHints technologyOptions
    (buildTargetSolverIndex technologyTargets ["BOND_A"] technologyShelf).tradeableIds
    (buildTargetSolverIndex technologyTargets ["BOND_A"] technologyShelf).lockedWeight
    technologyTargets technologyShelf ≠ [] := by
  decide +kernel

end Sample

/-- A locked weight of three tenths leaves no solution under a limit of a quarter. -/
theorem infeasibilityHints_sound_technology : ¬ ∃ w : List ℚ,
    (buildTargetSolverProblem []
      (buildTargetSolverIndex Sample.technologyTargets ["BOND_A"] Sample.technologyShelf)
      Sample.technologyTargets Sample.technologyOptions).Feasible w :=
  infeasibilityHints_sound [] Sample.technologyTargets ["BOND_A"] Sample.technologyShelf
    Sample.technologyOptions Sample.technology_hinted

end LotusAdvise.Targets

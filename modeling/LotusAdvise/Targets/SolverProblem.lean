import LotusAdvise.Advisory.Valuation
import LotusAdvise.Foundations.DictKeys
import Mathlib.Data.List.Sort
import Mathlib.Data.Rat.Cast.Order
import Mathlib.Algebra.BigOperators.Group.List.Basic

/-! # The target problem

The targets that may be bought are the variables of a problem: their weights are to be near the
model, within the cash band, below the limit of a position and below the limits of the groups that
the attributes of the shelf make. The other targets are locked.
-/

namespace LotusAdvise.Targets

open Advisory (ShelfEntry EngineOptions)

/-- A limit on a group, which is validated to be a weight. -/
structure GroupConstraint where
  maxWeight : ℚ
  zero_le : 0 ≤ maxWeight
  le_one : maxWeight ≤ 1

/-- `constraint_key.split(":", 1)`. -/
def splitKey (constraintKey : String) : String × String :=
  (String.ofList (constraintKey.toList.takeWhile (· ≠ ':')),
    String.ofList ((constraintKey.toList.dropWhile (· ≠ ':')).drop 1))

/-- The key has the form `attribute:value`. -/
def ValidGroupConstraintKey (key : String) : Prop :=
  key.toList.count ':' = 1 ∧ (splitKey key).1 ≠ "" ∧ (splitKey key).2 ≠ ""

structure TargetOptions extends EngineOptions where
  groupConstraints : Dict String GroupConstraint
  keys_valid : ∀ key ∈ groupConstraints.map Prod.fst, ValidGroupConstraintKey key
  keys_nodup : (groupConstraints.map Prod.fst).Nodup

/-- `sorted(options.group_constraints.keys())`. -/
def TargetOptions.sortedKeys (options : TargetOptions) : List String :=
  (options.groupConstraints.map Prod.fst).insertionSort (· ≤ ·)

structure ModelTarget where
  instrumentId : String
  weight : ℚ

/-! ## The index -/

structure TargetSolverIndex where
  tradeableIds : List String
  lockedWeight : ℚ
  shelfAttrsById : Dict String (Dict String String)
  knownAttrKeys : List String
  indexedTradeable : Dict String ℕ

section Index

variable (eligibleTargets : Dict String ℚ) (buyList : List String) (shelf : List ShelfEntry)

def targetTradeableIds : List String :=
  (eligibleTargets.map Prod.fst).filter fun instrumentId => instrumentId ∈ buyList

def targetLockedWeight : ℚ :=
  ((eligibleTargets.filter fun target => target.1 ∉ buyList).map Prod.snd).sum

def shelfAttrsByInstrumentId : Dict String (Dict String String) :=
  Dict.ofItems (shelf.map fun entry => (entry.instrumentId, entry.attributes))

def knownShelfAttrKeys (shelfAttrsById : Dict String (Dict String String)) : List String :=
  (shelfAttrsById.map Prod.snd).flatMap fun attrs => attrs.map Prod.fst

/-- `{i_id: idx for idx, i_id in enumerate(tradeable_ids)}`. -/
def indexTradeable (tradeableIds : List String) : Dict String ℕ := Dict.ofItems tradeableIds.zipIdx

def buildTargetSolverIndex : TargetSolverIndex where
  tradeableIds := targetTradeableIds eligibleTargets buyList
  lockedWeight := targetLockedWeight eligibleTargets buyList
  shelfAttrsById := shelfAttrsByInstrumentId shelf
  knownAttrKeys := knownShelfAttrKeys (shelfAttrsByInstrumentId shelf)
  indexedTradeable := indexTradeable (targetTradeableIds eligibleTargets buyList)

end Index

/-! ## Exposures to a group -/

structure GroupConstraintExposure where
  tradeableIds : List String
  lockedWeight : ℚ
deriving DecidableEq

/-- The shelf gives the instrument the attribute with this value. -/
def HasAttribute (shelfAttrsById : Dict String (Dict String String)) (tag : String × String)
    (instrumentId : String) : Prop :=
  ((Dict.get? shelfAttrsById instrumentId).bind fun attrs => Dict.get? attrs tag.1) = some tag.2

instance (shelfAttrsById : Dict String (Dict String String)) (tag : String × String)
    (instrumentId : String) : Decidable (HasAttribute shelfAttrsById tag instrumentId) :=
  inferInstanceAs (Decidable (_ = _))

/-- One target of the loop over the members of a group. -/
def exposeTarget (shelfAttrsById : Dict String (Dict String String)) (tag : String × String)
    (indexedTradeable : Dict String ℕ) (exposure : GroupConstraintExposure) (target : String × ℚ) :
    GroupConstraintExposure :=
  if ¬ HasAttribute shelfAttrsById tag target.1 then exposure
  else if target.1 ∈ indexedTradeable.map Prod.fst then
    { exposure with tradeableIds := exposure.tradeableIds ++ [target.1] }
  else { exposure with lockedWeight := exposure.lockedWeight + target.2 }

def groupExposure (shelfAttrsById : Dict String (Dict String String)) (tag : String × String)
    (indexedTradeable : Dict String ℕ) (eligibleTargets : Dict String ℚ) :
    GroupConstraintExposure :=
  eligibleTargets.foldl (exposeTarget shelfAttrsById tag indexedTradeable) ⟨[], 0⟩

/-- `_solver_group_constraint_exposure`. -/
def solverGroupConstraintExposure (tag : String × String) (index : TargetSolverIndex)
    (eligibleTargets : Dict String ℚ) : GroupConstraintExposure :=
  groupExposure index.shelfAttrsById tag index.indexedTradeable eligibleTargets

/-! ## Constraints -/

/-- A linear constraint on the weights of the tradeable targets. -/
inductive SolverConstraint where
  | nonnegative
  | sumAtLeast (bound : ℚ)
  | sumAtMost (bound : ℚ)
  | eachAtMost (bound : ℚ)
  | groupAtMost (indices : List ℕ) (lockedWeight bound : ℚ)

/-- The weights satisfy a constraint. -/
def SolverConstraint.Holds {R : Type*} [Field R] [LinearOrder R] (w : List R) :
    SolverConstraint → Prop
  | .nonnegative => ∀ x ∈ w, 0 ≤ x
  | .sumAtLeast bound => (bound : R) ≤ w.sum
  | .sumAtMost bound => w.sum ≤ (bound : R)
  | .eachAtMost bound => ∀ x ∈ w, x ≤ (bound : R)
  | .groupAtMost indices lockedWeight bound =>
    (indices.map fun i => w.getD i 0).sum + (lockedWeight : R) ≤ (bound : R)

instance {R : Type*} [Field R] [LinearOrder R] (w : List R) :
    (constraint : SolverConstraint) → Decidable (constraint.Holds w)
  | .nonnegative => inferInstanceAs (Decidable (∀ x ∈ w, 0 ≤ x))
  | .sumAtLeast bound => inferInstanceAs (Decidable ((bound : R) ≤ w.sum))
  | .sumAtMost bound => inferInstanceAs (Decidable (w.sum ≤ (bound : R)))
  | .eachAtMost bound => inferInstanceAs (Decidable (∀ x ∈ w, x ≤ (bound : R)))
  | .groupAtMost indices lockedWeight bound => inferInstanceAs (Decidable
      ((indices.map fun i => w.getD i 0).sum + (lockedWeight : R) ≤ (bound : R)))

structure TargetSolverProblem where
  variableCount : ℕ
  /-- The objective is the squared distance from the weights of the model. -/
  wModel : List ℚ
  constraints : List SolverConstraint

/-- The weights are a solution of the constraints. -/
structure TargetSolverProblem.Feasible {R : Type*} [Field R] [LinearOrder R]
    (problem : TargetSolverProblem) (w : List R) : Prop where
  length_eq : w.length = problem.variableCount
  holds : ∀ constraint ∈ problem.constraints, constraint.Holds w

section Problem

variable (model : List ModelTarget) (index : TargetSolverIndex) (eligibleTargets : Dict String ℚ)
  (options : TargetOptions)

def cashBandConstraints : List SolverConstraint :=
  [.sumAtLeast (1 - options.cashBandMaxWeight - index.lockedWeight),
    .sumAtMost (1 - options.cashBandMinWeight - index.lockedWeight)]

/-- The limit of a group that has a tradeable target or a locked weight. -/
def groupLimit? (exposure : GroupConstraintExposure) (maxWeight : ℚ) : Option SolverConstraint :=
  if exposure.tradeableIds = [] ∧ exposure.lockedWeight = 0 then none
  else some (.groupAtMost (exposure.tradeableIds.filterMap (Dict.get? index.indexedTradeable))
    exposure.lockedWeight maxWeight)

/-- The constraint under a key, if its attribute is known. -/
def groupConstraint? (constraintKey : String) : Option SolverConstraint :=
  match Dict.get? options.groupConstraints constraintKey with
  | none => none
  | some constraint =>
    if (splitKey constraintKey).1 ∉ index.knownAttrKeys then none
    else groupLimit? index
      (solverGroupConstraintExposure (splitKey constraintKey) index eligibleTargets)
      constraint.maxWeight

/-- The warnings of the groups whose attribute is not known. -/
def unknownAttributeWarnings : List String :=
  (options.sortedKeys.filter fun key => (splitKey key).1 ∉ index.knownAttrKeys).map fun key =>
    "UNKNOWN_CONSTRAINT_ATTRIBUTE_" ++ (splitKey key).1

def buildTargetSolverProblem : TargetSolverProblem where
  variableCount := index.tradeableIds.length
  wModel := index.tradeableIds.map fun instrumentId =>
    (Dict.get? (Dict.ofItems (model.map fun target => (target.instrumentId, target.weight)))
      instrumentId).getD 0
  constraints :=
    [.nonnegative] ++ cashBandConstraints index options ++
      (options.singlePositionMaxWeight.map SolverConstraint.eachAtMost).toList ++
      options.sortedKeys.filterMap (groupConstraint? index eligibleTargets options)

end Problem

/-! ## What an exposure counts -/

section Exposure

variable {shelfAttrsById : Dict String (Dict String String)} {tag : String × String}
  {indexedTradeable : Dict String ℕ} {targets : Dict String ℚ}

/-- The members of a group that are tradeable. -/
def tradeableMembers (shelfAttrsById : Dict String (Dict String String)) (tag : String × String)
    (indexedTradeable : Dict String ℕ) (targets : Dict String ℚ) : Dict String ℚ :=
  targets.filter fun target =>
    HasAttribute shelfAttrsById tag target.1 ∧ target.1 ∈ indexedTradeable.map Prod.fst

/-- The members of a group that are locked. -/
def lockedMembers (shelfAttrsById : Dict String (Dict String String)) (tag : String × String)
    (indexedTradeable : Dict String ℕ) (targets : Dict String ℚ) : Dict String ℚ :=
  targets.filter fun target =>
    HasAttribute shelfAttrsById tag target.1 ∧ target.1 ∉ indexedTradeable.map Prod.fst

theorem groupExposure_eq : groupExposure shelfAttrsById tag indexedTradeable targets =
    ⟨(tradeableMembers shelfAttrsById tag indexedTradeable targets).map Prod.fst,
      ((lockedMembers shelfAttrsById tag indexedTradeable targets).map Prod.snd).sum⟩ := by
  have hloop : ∀ exposure,
      targets.foldl (exposeTarget shelfAttrsById tag indexedTradeable) exposure =
      ⟨exposure.tradeableIds ++
          (tradeableMembers shelfAttrsById tag indexedTradeable targets).map Prod.fst,
        exposure.lockedWeight +
          ((lockedMembers shelfAttrsById tag indexedTradeable targets).map Prod.snd).sum⟩ := by
    intro exposure
    unfold tradeableMembers lockedMembers
    induction targets generalizing exposure with
    | nil => simp
    | cons target targets ih =>
      rw [List.foldl_cons, ih]
      unfold exposeTarget
      by_cases hmember : HasAttribute shelfAttrsById tag target.1
      · by_cases htradeable : target.1 ∈ indexedTradeable.map Prod.fst
        · simp [hmember, htradeable]
        · simp [hmember, htradeable, add_assoc]
      · simp [hmember]
  rw [groupExposure, hloop]
  simp

/-- The attribute of a member of a group is known. -/
theorem mem_knownShelfAttrKeys {instrumentId : String}
    (h : HasAttribute shelfAttrsById tag instrumentId) :
    tag.1 ∈ knownShelfAttrKeys shelfAttrsById := by
  obtain ⟨attrs, hattrs, hvalue⟩ := Option.bind_eq_some_iff.mp h
  refine List.mem_flatMap.mpr ⟨attrs, ?_, ?_⟩
  · exact List.mem_map_of_mem (f := Prod.snd) (Dict.mem_of_get? hattrs)
  · exact List.mem_map_of_mem (f := Prod.fst) (Dict.mem_of_get? hvalue)

end Exposure

/-! ## What a solution satisfies -/

section Feasible

variable {R : Type*} [Field R] [LinearOrder R] {model : List ModelTarget}
  {index : TargetSolverIndex} {eligibleTargets : Dict String ℚ} {options : TargetOptions}
  {w : List R}

theorem mem_constraints {constraint : SolverConstraint} :
    constraint ∈ (buildTargetSolverProblem model index eligibleTargets options).constraints ↔
      constraint = .nonnegative ∨
      constraint = .sumAtLeast (1 - options.cashBandMaxWeight - index.lockedWeight) ∨
      constraint = .sumAtMost (1 - options.cashBandMinWeight - index.lockedWeight) ∨
      (∃ maxWeight, options.singlePositionMaxWeight = some maxWeight ∧
        constraint = .eachAtMost maxWeight) ∨
      ∃ key ∈ options.groupConstraints.map Prod.fst,
        groupConstraint? index eligibleTargets options key = some constraint := by
  have hsorted : ∀ key, key ∈ options.sortedKeys ↔ key ∈ options.groupConstraints.map Prod.fst :=
    fun key => List.mem_insertionSort _
  simp only [buildTargetSolverProblem, cashBandConstraints, List.mem_append, List.mem_cons,
    List.not_mem_nil, or_false, Option.mem_toList, Option.map_eq_some_iff, List.mem_filterMap,
    hsorted, or_assoc, eq_comm]

namespace TargetSolverProblem.Feasible

variable (h : (buildTargetSolverProblem model index eligibleTargets options).Feasible w)

include h

theorem nonneg : ∀ x ∈ w, 0 ≤ x := h.holds .nonnegative (mem_constraints.mpr (.inl rfl))

theorem le_sum : ((1 - options.cashBandMaxWeight - index.lockedWeight : ℚ) : R) ≤ w.sum :=
  h.holds (.sumAtLeast _) (mem_constraints.mpr (.inr (.inl rfl)))

theorem sum_le : w.sum ≤ ((1 - options.cashBandMinWeight - index.lockedWeight : ℚ) : R) :=
  h.holds (.sumAtMost _) (mem_constraints.mpr (.inr (.inr (.inl rfl))))

theorem le_singlePosition {maxWeight : ℚ}
    (hmax : options.singlePositionMaxWeight = some maxWeight) :
    ∀ x ∈ w, x ≤ (maxWeight : R) :=
  h.holds (.eachAtMost maxWeight)
    (mem_constraints.mpr (.inr (.inr (.inr (.inl ⟨maxWeight, hmax, rfl⟩)))))

/-- The limit of a group that is known and not empty. -/
theorem group_le {key : String} {constraint : GroupConstraint} {exposure : GroupConstraintExposure}
    (hget : Dict.get? options.groupConstraints key = some constraint)
    (hknown : (splitKey key).1 ∈ index.knownAttrKeys)
    (hexposure : solverGroupConstraintExposure (splitKey key) index eligibleTargets = exposure)
    (hexposed : exposure.tradeableIds ≠ [] ∨ exposure.lockedWeight ≠ 0) :
    (((exposure.tradeableIds.filterMap (Dict.get? index.indexedTradeable)).map
      fun i => w.getD i 0).sum : R) + (exposure.lockedWeight : ℚ) ≤ (constraint.maxWeight : ℚ) := by
  have hnot : ¬ (exposure.tradeableIds = [] ∧ exposure.lockedWeight = 0) := by
    rintro ⟨hids, hlocked⟩
    exact hexposed.elim (· hids) (· hlocked)
  have hconstraint : groupConstraint? index eligibleTargets options key = some (.groupAtMost
      (exposure.tradeableIds.filterMap (Dict.get? index.indexedTradeable)) exposure.lockedWeight
      constraint.maxWeight) := by
    simp only [groupConstraint?, hget, hexposure]
    rw [if_neg (not_not.mpr hknown), groupLimit?, if_neg hnot]
  have hkey : key ∈ options.groupConstraints.map Prod.fst :=
    List.mem_map_of_mem (f := Prod.fst) (Dict.mem_of_get? hget)
  exact h.holds _ (mem_constraints.mpr (.inr (.inr (.inr (.inr ⟨key, hkey, hconstraint⟩)))))

end TargetSolverProblem.Feasible

end Feasible

end LotusAdvise.Targets

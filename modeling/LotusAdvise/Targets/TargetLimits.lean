import LotusAdvise.Targets.SolvedTargets
import Mathlib.Data.Rat.BigOperators

/-! # The limits after rounding

The solver keeps the limits with the weights that it finds. The weights are rounded one by one, so
that each may move by half a unit, and a sum of them by half a unit for each. The limits are kept up
to that, and exactly when the rounding moves nothing.
-/

namespace LotusAdvise.Targets

open Advisory (ShelfEntry)

/-- The members of a group among the targets. -/
def membersOf (shelf : List ShelfEntry) (constraintKey : String) (targets : Dict String ℚ) :
    Dict String ℚ :=
  targets.filter fun target =>
    HasAttribute (shelfAttrsByInstrumentId shelf) (splitKey constraintKey) target.1

/-- The targets keep the limits, when each weight that was solved may be off by `slack`. -/
structure LimitsKept (slack : ℚ) (options : TargetOptions) (buyList : List String)
    (shelf : List ShelfEntry) (targets : Dict String ℚ) : Prop where
  nonneg : ∀ target ∈ targets, target.1 ∈ buyList → 0 ≤ target.2
  singlePosition : ∀ maxWeight, options.singlePositionMaxWeight = some maxWeight →
    ∀ target ∈ targets, target.1 ∈ buyList → target.2 ≤ maxWeight + slack
  cashMin : options.cashBandMinWeight - (targetTradeableIds targets buyList).length * slack ≤
    1 - (targets.map Prod.snd).sum
  cashMax : 1 - (targets.map Prod.snd).sum ≤
    options.cashBandMaxWeight + (targetTradeableIds targets buyList).length * slack
  groups : ∀ key constraint, Dict.get? options.groupConstraints key = some constraint →
    (splitKey key).1 ∈ knownShelfAttrKeys (shelfAttrsByInstrumentId shelf) →
      membersOf shelf key targets ≠ [] →
        ((membersOf shelf key targets).map Prod.snd).sum ≤ constraint.maxWeight +
          (targetTradeableIds (membersOf shelf key targets) buyList).length * slack

section Solved

variable {R : Type*} [Field R] [LinearOrder R] [FloorRing R] {eligibleTargets : Dict String ℚ}
  {buyList : List String} {shelf : List ShelfEntry} {w : List R}

/-- The solved weight of a tradeable target. -/
def weightOf (eligibleTargets : Dict String ℚ) (buyList : List String) (w : List R)
    (instrumentId : String) : R :=
  w.getD ((targetTradeableIds eligibleTargets buyList).idxOf instrumentId) 0

theorem nodup_targetTradeableIds (hn : (eligibleTargets.map Prod.fst).Nodup) :
    (targetTradeableIds eligibleTargets buyList).Nodup :=
  hn.filter _

theorem mem_targetTradeableIds {target : String × ℚ} (h : target ∈ eligibleTargets) :
    target.1 ∈ targetTradeableIds eligibleTargets buyList ↔ target.1 ∈ buyList := by
  have hmem := List.mem_map_of_mem (f := Prod.fst) h
  simp only [targetTradeableIds, List.mem_filter, hmem, true_and, decide_eq_true_eq]

/-- The targets with other weights for those that are tradeable. -/
def replaced (buyList : List String) (value : String → ℚ) (eligibleTargets : Dict String ℚ) :
    Dict String ℚ :=
  eligibleTargets.map fun target =>
    (target.1, if target.1 ∈ buyList then value target.1 else target.2)

/-- The solved weights take the place of those of the tradeable targets. -/
theorem applySolvedWeights_eq (hn : (eligibleTargets.map Prod.fst).Nodup) :
    applySolvedWeights eligibleTargets (buildTargetSolverIndex eligibleTargets buyList shelf) w =
      replaced buyList (fun id => solvedWeight (weightOf eligibleTargets buyList w id))
        eligibleTargets := by
  have hids : (targetTradeableIds eligibleTargets buyList).Nodup := nodup_targetTradeableIds hn
  have hsub : ∀ id ∈ targetTradeableIds eligibleTargets buyList,
      id ∈ eligibleTargets.map Prod.fst := fun id hid => (List.mem_filter.mp hid).1
  calc applySolvedWeights eligibleTargets (buildTargetSolverIndex eligibleTargets buyList shelf) w
      = (targetTradeableIds eligibleTargets buyList).foldl (fun targets id =>
          Dict.set targets id (solvedWeight (weightOf eligibleTargets buyList w id)))
          eligibleTargets := by
        unfold applySolvedWeights buildTargetSolverIndex
        rw [Dict.zipIdx_eq_map hids, List.foldl_map]
        rfl
    _ = _ := by
        rw [Dict.foldl_set_eq_map hsub]
        refine List.map_congr_left fun target htarget => ?_
        simp only [mem_targetTradeableIds htarget]

theorem keys_replaced (buyList : List String) (value : String → ℚ)
    (eligibleTargets : Dict String ℚ) :
    (replaced buyList value eligibleTargets).map Prod.fst = eligibleTargets.map Prod.fst := by
  rw [replaced, List.map_map]
  rfl

/-- Some of the targets weigh what is locked of them and what was put in the place of the rest. -/
theorem sum_replaced (p : String → Prop) [DecidablePred p] (buyList : List String)
    (value : String → ℚ) (eligibleTargets : Dict String ℚ) :
    (((replaced buyList value eligibleTargets).filter fun target => p target.1).map Prod.snd).sum =
      ((eligibleTargets.filter fun target => p target.1 ∧ target.1 ∉ buyList).map Prod.snd).sum +
        (((eligibleTargets.filter fun target => p target.1 ∧ target.1 ∈ buyList).map Prod.fst).map
          value).sum := by
  induction eligibleTargets with
  | nil => simp [replaced]
  | cons target targets ih =>
    rw [replaced] at ih ⊢
    rw [List.map_cons]
    by_cases hp : p target.1
    · by_cases hbuy : target.1 ∈ buyList
      · simp [hp, hbuy, ih, add_left_comm]
      · simp [hp, hbuy, ih, add_assoc]
    · simp [hp, ih]

/-- All weights together are the locked ones and what was put in the place of the others. -/
theorem sum_replaced_all (value : String → ℚ) :
    ((replaced buyList value eligibleTargets).map Prod.snd).sum =
      targetLockedWeight eligibleTargets buyList +
        ((targetTradeableIds eligibleTargets buyList).map value).sum := by
  have hsum := sum_replaced (fun _ => True) buyList value eligibleTargets
  simp only [decide_true, List.filter_true, true_and] at hsum
  rw [hsum, targetLockedWeight, targetTradeableIds, List.filter_map]
  rfl

/-- The tradeable targets among some of them. -/
theorem targetTradeableIds_filter_replaced (p : String → Prop) [DecidablePred p]
    (buyList : List String) (value : String → ℚ) (eligibleTargets : Dict String ℚ) :
    targetTradeableIds ((replaced buyList value eligibleTargets).filter fun target => p target.1)
        buyList =
      (eligibleTargets.filter fun target => p target.1 ∧ target.1 ∈ buyList).map Prod.fst := by
  induction eligibleTargets with
  | nil => rfl
  | cons target targets ih =>
    simp only [targetTradeableIds, replaced] at ih ⊢
    rw [List.map_cons]
    by_cases hp : p target.1
    · by_cases hbuy : target.1 ∈ buyList
      · simp [hp, hbuy, ih]
      · simp [hp, hbuy, ih]
    · simp [hp, ih]

end Solved

section Limits

variable {R : Type*} [Field R] [LinearOrder R] [IsStrictOrderedRing R] [FloorRing R]
  {eligibleTargets : Dict String ℚ} {buyList : List String} {shelf : List ShelfEntry} {w : List R}
  {slack : ℚ} {ids : List String}

omit [IsStrictOrderedRing R] [FloorRing R] in
theorem weightOf_mem {id : String}
    (hlength : w.length = (targetTradeableIds eligibleTargets buyList).length)
    (hid : id ∈ targetTradeableIds eligibleTargets buyList) :
    weightOf eligibleTargets buyList w id ∈ w := by
  have hplace := List.idxOf_lt_length_of_mem hid
  rw [← hlength] at hplace
  rw [weightOf, List.getD_eq_getElem?_getD, List.getElem?_eq_getElem hplace, Option.getD_some]
  exact List.getElem_mem hplace

omit [IsStrictOrderedRing R] [FloorRing R] in
/-- The tradeable targets have the solved weights in their order. -/
theorem map_weightOf (hn : (eligibleTargets.map Prod.fst).Nodup)
    (hlength : w.length = (targetTradeableIds eligibleTargets buyList).length) :
    (targetTradeableIds eligibleTargets buyList).map (weightOf eligibleTargets buyList w) = w := by
  have hids : (targetTradeableIds eligibleTargets buyList).Nodup := nodup_targetTradeableIds hn
  refine List.ext_getElem (by simp [hlength]) fun i hi hi' => ?_
  have hi'' : i < (targetTradeableIds eligibleTargets buyList).length := by simpa using hi
  have hplace : (targetTradeableIds eligibleTargets buyList).idxOf
      (targetTradeableIds eligibleTargets buyList)[i] = i := by
    simpa using List.get_idxOf hids ⟨i, hi''⟩
  rw [List.getElem_map, weightOf, hplace, List.getD_eq_getElem?_getD, List.getElem?_eq_getElem hi',
    Option.getD_some]

/-- What several rounded weights sum up to is off by the slack for each. -/
theorem abs_sum_solvedWeight_sub_le {weight : String → R}
    (hnear : ∀ id ∈ ids, |(solvedWeight (weight id) : R) - weight id| ≤ slack) :
    |(((ids.map fun id => solvedWeight (weight id)).sum : ℚ) : R) - (ids.map weight).sum| ≤
      ids.length * slack := by
  have hpairs := FieldRounding.abs_sum_sub_sum_le (List.forall_mem_map.mpr hnear :
    ∀ pair ∈ ids.map fun id => ((solvedWeight (weight id) : R), weight id), |pair.1 - pair.2| ≤ _)
  rw [List.map_map, List.map_map, List.length_map] at hpairs
  rw [Rat.cast_list_sum, List.map_map]
  exact hpairs

omit [IsStrictOrderedRing R] in
theorem solvedWeight_of_nonneg {x : R} (hx : 0 ≤ x) :
    solvedWeight x = FieldRounding.quantize 4 x := by
  rw [solvedWeight, max_eq_left hx]

section Feasible

variable {model : List ModelTarget} {options : TargetOptions}
  (hn : (eligibleTargets.map Prod.fst).Nodup)
  (hfeasible : (buildTargetSolverProblem model
    (buildTargetSolverIndex eligibleTargets buyList shelf) eligibleTargets options).Feasible w)

include hfeasible

/-- A tradeable target has a rounded weight of the solution. -/
theorem exists_weight_of_mem {target : String × ℚ}
    (htarget : target ∈ replaced buyList
      (fun id => solvedWeight (weightOf eligibleTargets buyList w id)) eligibleTargets)
    (hbuy : target.1 ∈ buyList) : ∃ x ∈ w, target.2 = FieldRounding.quantize 4 x := by
  obtain ⟨eligible, heligible, rfl⟩ := List.mem_map.mp htarget
  have hmem : weightOf eligibleTargets buyList w eligible.1 ∈ w :=
    weightOf_mem hfeasible.length_eq ((mem_targetTradeableIds heligible).mpr hbuy)
  refine ⟨_, hmem, ?_⟩
  simp only [if_pos hbuy]
  exact solvedWeight_of_nonneg (hfeasible.nonneg _ hmem)

/-- The weights of some tradeable targets are near to those of the solution. -/
theorem abs_sum_sub_le_of_feasible
    (hnear : ∀ x ∈ w, |(FieldRounding.quantize 4 x : R) - x| ≤ slack)
    (hids : ∀ id ∈ ids, id ∈ targetTradeableIds eligibleTargets buyList) :
    |(((ids.map fun id => solvedWeight (weightOf eligibleTargets buyList w id)).sum : ℚ) : R) -
      (ids.map (weightOf eligibleTargets buyList w)).sum| ≤ ids.length * slack := by
  refine abs_sum_solvedWeight_sub_le fun id hid => ?_
  have hmem := weightOf_mem hfeasible.length_eq (hids id hid)
  rw [solvedWeight_of_nonneg (hfeasible.nonneg _ hmem)]
  exact hnear _ hmem

include hn

omit [FloorRing R] in
/-- The limit of a group holds for the weights that were solved. -/
theorem group_le_of_feasible {key : String} {constraint : GroupConstraint}
    (hget : Dict.get? options.groupConstraints key = some constraint)
    (hknown : (splitKey key).1 ∈ knownShelfAttrKeys (shelfAttrsByInstrumentId shelf)) :
    (((eligibleTargets.filter fun target =>
        HasAttribute (shelfAttrsByInstrumentId shelf) (splitKey key) target.1 ∧
          target.1 ∈ buyList).map Prod.fst).map (weightOf eligibleTargets buyList w)).sum +
      ((((eligibleTargets.filter fun target =>
        HasAttribute (shelfAttrsByInstrumentId shelf) (splitKey key) target.1 ∧
          target.1 ∉ buyList).map Prod.snd).sum : ℚ) : R) ≤ (constraint.maxWeight : ℚ) := by
  have hids : (targetTradeableIds eligibleTargets buyList).Nodup := nodup_targetTradeableIds hn
  have hindexed : ∀ target ∈ eligibleTargets, target.1 ∈
      (indexTradeable (targetTradeableIds eligibleTargets buyList)).map Prod.fst ↔
        target.1 ∈ buyList := by
    intro target htarget
    rw [indexTradeable, Dict.keys_ofItems_zipIdx hids, mem_targetTradeableIds htarget]
  set traded := (eligibleTargets.filter fun target =>
    HasAttribute (shelfAttrsByInstrumentId shelf) (splitKey key) target.1 ∧
      target.1 ∈ buyList).map Prod.fst with htraded
  set locked := ((eligibleTargets.filter fun target =>
    HasAttribute (shelfAttrsByInstrumentId shelf) (splitKey key) target.1 ∧
      target.1 ∉ buyList).map Prod.snd).sum with hlocked
  have hexposure : solverGroupConstraintExposure (splitKey key)
      (buildTargetSolverIndex eligibleTargets buyList shelf) eligibleTargets =
        ⟨traded, locked⟩ := by
    rw [solverGroupConstraintExposure, groupExposure_eq, htraded, hlocked, tradeableMembers,
      lockedMembers]
    congr 2
    · refine List.filter_congr fun target htarget => decide_eq_decide.mpr ?_
      exact and_congr_right fun _ => hindexed target htarget
    · refine congrArg _ (List.filter_congr fun target htarget => decide_eq_decide.mpr ?_)
      exact and_congr_right fun _ => not_congr (hindexed target htarget)
  by_cases hempty : traded = [] ∧ locked = 0
  · rw [hempty.1, hempty.2, List.map_nil, List.sum_nil, Rat.cast_zero, add_zero]
    exact_mod_cast constraint.zero_le
  · have hlimit := hfeasible.group_le hget hknown hexposure (by tauto)
    have hplaces : traded.filterMap (Dict.get?
        (indexTradeable (targetTradeableIds eligibleTargets buyList))) =
          traded.map (targetTradeableIds eligibleTargets buyList).idxOf := by
      rw [← List.filterMap_eq_map]
      refine List.filterMap_congr fun id hid => ?_
      obtain ⟨target, htarget, rfl⟩ := List.mem_map.mp hid
      obtain ⟨hmem, hmember⟩ := List.mem_filter.mp htarget
      exact Dict.get?_ofItems_zipIdx hids
        ((mem_targetTradeableIds hmem).mpr (of_decide_eq_true hmember).2)
    change ((traded.filterMap (Dict.get?
      (indexTradeable (targetTradeableIds eligibleTargets buyList)))).map _).sum + _ ≤ _ at hlimit
    rw [hplaces, List.map_map] at hlimit
    exact hlimit

/-- The rounded weights keep the limits up to what the rounding moves each of them. -/
theorem limitsKept_of_feasible
    (hnear : ∀ x ∈ w, |(FieldRounding.quantize 4 x : R) - x| ≤ slack) :
    LimitsKept slack options buyList shelf (applySolvedWeights eligibleTargets
      (buildTargetSolverIndex eligibleTargets buyList shelf) w) := by
  rw [applySolvedWeights_eq hn]
  have htradeable : targetTradeableIds (replaced buyList
      (fun id => solvedWeight (weightOf eligibleTargets buyList w id)) eligibleTargets) buyList =
        targetTradeableIds eligibleTargets buyList := by
    rw [targetTradeableIds, keys_replaced, targetTradeableIds]
  have hnearSum := abs_sum_sub_le_of_feasible hfeasible hnear fun id hid => hid
  rw [map_weightOf hn hfeasible.length_eq, abs_le] at hnearSum
  have hleast := hfeasible.le_sum
  have hmost := hfeasible.sum_le
  constructor
  case nonneg =>
    intro target htarget hbuy
    obtain ⟨x, hx, hweight⟩ := exists_weight_of_mem hfeasible htarget hbuy
    rw [hweight]
    exact FieldRounding.quantize_nonneg (hfeasible.nonneg x hx)
  case singlePosition =>
    intro maxWeight hmax target htarget hbuy
    obtain ⟨x, hx, hweight⟩ := exists_weight_of_mem hfeasible htarget hbuy
    have hle := hfeasible.le_singlePosition hmax x hx
    have hmoved := (abs_le.mp (hnear x hx)).2
    rw [hweight, ← Rat.cast_le (K := R)]
    push_cast
    linarith
  case cashMin =>
    rw [sum_replaced_all, htradeable, ← Rat.cast_le (K := R)]
    have hlocked : (buildTargetSolverIndex eligibleTargets buyList shelf).lockedWeight =
      targetLockedWeight eligibleTargets buyList := rfl
    rw [hlocked] at hmost
    push_cast at hnearSum hmost ⊢
    linarith [hnearSum.2]
  case cashMax =>
    rw [sum_replaced_all, htradeable, ← Rat.cast_le (K := R)]
    have hlocked : (buildTargetSolverIndex eligibleTargets buyList shelf).lockedWeight =
      targetLockedWeight eligibleTargets buyList := rfl
    rw [hlocked] at hleast
    push_cast at hnearSum hleast ⊢
    linarith [hnearSum.1]
  case groups =>
    intro key constraint hget hknown _
    have hlimit := group_le_of_feasible hn hfeasible hget hknown
    have hids : ∀ id ∈ (eligibleTargets.filter fun target =>
        HasAttribute (shelfAttrsByInstrumentId shelf) (splitKey key) target.1 ∧
          target.1 ∈ buyList).map Prod.fst, id ∈ targetTradeableIds eligibleTargets buyList := by
      rintro id hid
      obtain ⟨target, htarget, rfl⟩ := List.mem_map.mp hid
      obtain ⟨hmem, hmember⟩ := List.mem_filter.mp htarget
      exact (mem_targetTradeableIds hmem).mpr (of_decide_eq_true hmember).2
    have hmoved := (abs_le.mp (abs_sum_sub_le_of_feasible hfeasible hnear hids)).2
    rw [membersOf, sum_replaced, targetTradeableIds_filter_replaced, ← Rat.cast_le (K := R)]
    push_cast at hmoved hlimit ⊢
    linarith

end Feasible

end Limits

section Generated

variable {R : Type*} [Field R] [LinearOrder R] [FloorRing R]

/-- The redistribution changes weights only. -/
theorem keys_redistributeSellOnlyExcess (eligibleTargets : Dict String ℚ) (buyList : List String)
    (sellOnlyExcess : ℚ) :
    (redistributeSellOnlyExcess eligibleTargets buyList sellOnlyExcess).1.map Prod.fst =
      eligibleTargets.map Prod.fst := by
  unfold redistributeSellOnlyExcess
  split_ifs
  · rfl
  · rfl
  · refine Dict.keys_foldl_set fun recipient hrecipient => ?_
    exact List.mem_map_of_mem (f := Prod.fst) (List.mem_filter.mp hrecipient).1

/-- The problem that is solved. -/
def targetProblem (model : List ModelTarget) (eligibleTargets : Dict String ℚ)
    (buyList : List String) (sellOnlyExcess : ℚ) (shelf : List ShelfEntry)
    (options : TargetOptions) : TargetSolverProblem :=
  buildTargetSolverProblem model
    (buildTargetSolverIndex
      (redistributeSellOnlyExcess eligibleTargets buyList sellOnlyExcess).1 buyList shelf)
    (redistributeSellOnlyExcess eligibleTargets buyList sellOnlyExcess).1 options

variable {libraries : SolverLibraries R} {model : List ModelTarget}
  {eligibleTargets : Dict String ℚ} {buyList : List String} {sellOnlyExcess : ℚ}
  {shelf : List ShelfEntry} {options : TargetOptions} {totalVal : ℚ} {baseCcy : String}
  {warnings : List String}

/-- The targets that are left hold the solved weights. -/
theorem generateTargetsSolver_eq (htradeable : targetTradeableIds eligibleTargets buyList ≠ [])
    (hsolved : (solveWithFallbacks libraries (targetProblem model eligibleTargets buyList
      sellOnlyExcess shelf options)).1 = true) :
    (generateTargetsSolver (some libraries) model eligibleTargets buyList sellOnlyExcess shelf
      options totalVal baseCcy warnings).eligibleTargets =
      applySolvedWeights (redistributeSellOnlyExcess eligibleTargets buyList sellOnlyExcess).1
        (buildTargetSolverIndex
          (redistributeSellOnlyExcess eligibleTargets buyList sellOnlyExcess).1 buyList shelf)
        (libraries.value
          (targetProblem model eligibleTargets buyList sellOnlyExcess shelf options)) := by
  have hkeys := keys_redistributeSellOnlyExcess eligibleTargets buyList sellOnlyExcess
  unfold targetProblem at hsolved ⊢
  rcases hredistributed : redistributeSellOnlyExcess eligibleTargets buyList sellOnlyExcess with
    ⟨targets, status⟩
  rw [hredistributed] at hkeys hsolved
  have hids : (buildTargetSolverIndex targets buyList shelf).tradeableIds ≠ [] := by
    change (targets.map Prod.fst).filter _ ≠ []
    rw [hkeys]
    exact htradeable
  simp only [generateTargetsSolver, hredistributed, if_neg hids, solveTargets]
  split
  · next hnot =>
    rw [hnot] at hsolved
    exact absurd hsolved Bool.false_ne_true
  · rfl

end Generated

/-- Half a unit of the fourth decimal. -/
theorem abs_quantize_four_sub_le {R : Type*} [Field R] [LinearOrder R] [IsStrictOrderedRing R]
    [FloorRing R] (x : R) : |(FieldRounding.quantize 4 x : R) - x| ≤ (1 / 20000 : ℚ) := by
  refine (FieldRounding.abs_quantize_sub_le 4 x).trans_eq ?_
  rw [Decimal.unit]
  push_cast
  norm_num

/-- The targets that were solved keep the limits up to half a unit for each weight, exactly when the
solution has no more than four decimals, and the limit of a position when it has no more. -/
theorem solvedTargets_keep_limits {R : Type*} [Field R] [LinearOrder R] [IsStrictOrderedRing R]
    [FloorRing R] (libraries : SolverLibraries R) (model : List ModelTarget)
    (eligibleTargets : Dict String ℚ) (buyList : List String) (sellOnlyExcess : ℚ)
    (shelf : List ShelfEntry) (options : TargetOptions) (totalVal : ℚ) (baseCcy : String)
    (warnings : List String) (hn : (eligibleTargets.map Prod.fst).Nodup)
    (htradeable : targetTradeableIds eligibleTargets buyList ≠ [])
    (hsolved : (solveWithFallbacks libraries (targetProblem model eligibleTargets buyList
      sellOnlyExcess shelf options)).1 = true)
    (hfeasible : (targetProblem model eligibleTargets buyList sellOnlyExcess shelf
      options).Feasible (libraries.value
        (targetProblem model eligibleTargets buyList sellOnlyExcess shelf options))) :
    LimitsKept (1 / 20000) options buyList shelf (generateTargetsSolver (some libraries) model
      eligibleTargets buyList sellOnlyExcess shelf options totalVal baseCcy
      warnings).eligibleTargets ∧
    ((∀ x ∈ libraries.value (targetProblem model eligibleTargets buyList sellOnlyExcess shelf
        options), (FieldRounding.quantize 4 x : R) = x) →
      LimitsKept 0 options buyList shelf (generateTargetsSolver (some libraries) model
        eligibleTargets buyList sellOnlyExcess shelf options totalVal baseCcy
        warnings).eligibleTargets) ∧
    ∀ n : ℤ, options.singlePositionMaxWeight = some ((n : ℚ) / 10000) →
      ∀ target ∈ (generateTargetsSolver (some libraries) model eligibleTargets buyList
        sellOnlyExcess shelf options totalVal baseCcy warnings).eligibleTargets,
        target.1 ∈ buyList → target.2 ≤ (n : ℚ) / 10000 := by
  have hkeys : ((redistributeSellOnlyExcess eligibleTargets buyList sellOnlyExcess).1.map
      Prod.fst).Nodup := by
    rwa [keys_redistributeSellOnlyExcess]
  rw [generateTargetsSolver_eq htradeable hsolved]
  unfold targetProblem at hfeasible ⊢
  refine ⟨?_, ?_, ?_⟩
  · exact limitsKept_of_feasible hkeys hfeasible fun x _ => abs_quantize_four_sub_le x
  · intro hexact
    refine limitsKept_of_feasible hkeys hfeasible fun x hx => ?_
    rw [hexact x hx, sub_self, abs_zero, Rat.cast_zero]
  · intro n hmax target htarget hbuy
    rw [applySolvedWeights_eq hkeys] at htarget
    obtain ⟨x, hx, hweight⟩ := exists_weight_of_mem hfeasible htarget hbuy
    have hunits : (n / 10000 : ℚ) = n * Decimal.unit 4 := by
      rw [Decimal.unit]
      norm_num
      ring
    rw [hweight, hunits]
    refine FieldRounding.quantize_le_of_units ?_
    rw [← hunits]
    exact hfeasible.le_singlePosition hmax x hx

namespace Sample

theorem twoThirds_zero_le : (0 : ℚ) ≤ 6667 / 10000 := by norm_num

theorem twoThirds_le_one : (6667 / 10000 : ℚ) ≤ 1 := by norm_num

/-- At most about two thirds in one group. -/
def twoThirds : GroupConstraint := ⟨6667 / 10000, twoThirds_zero_le, twoThirds_le_one⟩

theorem thirds_valid :
    ∀ key ∈ [("sector:TECH", twoThirds)].map Prod.fst, ValidGroupConstraintKey key := by
  refine List.forall_mem_singleton.mpr ⟨by decide, by decide, by decide⟩

theorem thirds_nodup : ([("sector:TECH", twoThirds)].map Prod.fst).Nodup := List.nodup_singleton _

def thirdsOptions : TargetOptions where
  singlePositionMaxWeight := some (33335 / 100000)
  groupConstraints := [("sector:TECH", twoThirds)]
  keys_valid := thirds_valid
  keys_nodup := thirds_nodup

def thirdsShelf : List ShelfEntry :=
  [{ instrumentId := "TECH_A", status := .approved, attributes := [("sector", "TECH")] },
    { instrumentId := "TECH_B", status := .approved, attributes := [("sector", "TECH")] },
    { instrumentId := "BOND_A", status := .approved, attributes := [("sector", "BOND")] }]

def thirdsTargets : Dict String ℚ := [("TECH_A", 1 / 3), ("TECH_B", 1 / 3), ("BOND_A", 1 / 3)]

def thirdsBuyList : List String := ["TECH_A", "TECH_B", "BOND_A"]

/-- A solver that finds weights with five decimals, two of which are rounded up. -/
def thirdsLibraries : SolverLibraries ℚ where
  installedSolvers := ["OSQP"]
  solveStatus _ _ _ := some "optimal"
  value _ := [33335 / 100000, 33335 / 100000, 33330 / 100000]

def thirdsProblem : TargetSolverProblem :=
  targetProblem [] thirdsTargets thirdsBuyList 0 thirdsShelf thirdsOptions

theorem thirds_keys_nodup : (thirdsTargets.map Prod.fst).Nodup := by decide

theorem thirds_tradeable : targetTradeableIds thirdsTargets thirdsBuyList ≠ [] := by decide

theorem thirds_solved : (solveWithFallbacks thirdsLibraries thirdsProblem).1 = true := by
  decide

theorem thirds_feasible : thirdsProblem.Feasible (thirdsLibraries.value thirdsProblem) := by
  constructor
  · decide +kernel
  · decide +kernel

/-- The targets of the run. -/
def thirdsLeft : Dict String ℚ :=
  (generateTargetsSolver (some thirdsLibraries) [] thirdsTargets thirdsBuyList 0 thirdsShelf
    thirdsOptions 100 "USD" []).eligibleTargets

theorem thirdsLeft_eq :
    thirdsLeft =
      [("TECH_A", 3334 / 10000), ("TECH_B", 3334 / 10000), ("BOND_A", 3333 / 10000)] := by
  decide +kernel

end Sample

/-- A solution is rounded over the limit of a position, over that of a group, and to more than the
whole portfolio. -/
theorem solvedTargets_rounded_over_limits :
    Sample.thirdsProblem.Feasible (Sample.thirdsLibraries.value Sample.thirdsProblem) ∧
    1 - (Sample.thirdsLeft.map Prod.snd).sum < Sample.thirdsOptions.cashBandMinWeight ∧
    (∃ target ∈ Sample.thirdsLeft, target.1 ∈ Sample.thirdsBuyList ∧
      ∃ maxWeight ∈ Sample.thirdsOptions.singlePositionMaxWeight, maxWeight < target.2) ∧
    Sample.twoThirds.maxWeight <
      ((membersOf Sample.thirdsShelf "sector:TECH" Sample.thirdsLeft).map Prod.snd).sum ∧
    ¬ LimitsKept 0 Sample.thirdsOptions Sample.thirdsBuyList Sample.thirdsShelf
      Sample.thirdsLeft := by
  rw [Sample.thirdsLeft_eq]
  refine ⟨Sample.thirds_feasible, by decide +kernel,
    ⟨("TECH_A", 3334 / 10000), by decide +kernel, by decide +kernel, 33335 / 100000, rfl,
      by decide +kernel⟩, by decide +kernel, ?_⟩
  intro hkept
  have hmin := hkept.cashMin
  rw [mul_zero, sub_zero] at hmin
  exact absurd hmin (by decide +kernel)

/-- The same run keeps the limits up to half a unit for each weight. -/
theorem solvedTargets_keep_limits_thirds :
    LimitsKept (1 / 20000) Sample.thirdsOptions Sample.thirdsBuyList Sample.thirdsShelf
      Sample.thirdsLeft :=
  (solvedTargets_keep_limits Sample.thirdsLibraries [] Sample.thirdsTargets Sample.thirdsBuyList 0
    Sample.thirdsShelf Sample.thirdsOptions 100 "USD" [] Sample.thirds_keys_nodup
    Sample.thirds_tradeable Sample.thirds_solved Sample.thirds_feasible).1

end LotusAdvise.Targets

import LotusAdvise.Foundations.FieldRounding
import LotusAdvise.Targets.InfeasibilityHints

/-! # Solved targets

The excess of the targets that may only be sold is shared among those that may be bought, the
weights of these are solved, and each is rounded to four decimals. The solver is outside: it is
asked with several profiles until it answers with a solution.
-/

namespace LotusAdvise.Targets

open Advisory (Money ShelfEntry EngineOptions)

inductive TargetStatus where
  | ready
  | pendingReview
  | blocked
deriving DecidableEq

structure TargetInstrument where
  instrumentId : String
  modelWeight : ℚ
  finalWeight : ℚ
  finalValue : Money
  tags : List String

/-! ## Redistribution -/

section Redistribution

variable (eligibleTargets : Dict String ℚ) (buyList : List String) (sellOnlyExcess : ℚ)

def recipients : Dict String ℚ := eligibleTargets.filter fun target => target.1 ∈ buyList

def totalRecipientWeight : ℚ := ((recipients eligibleTargets buyList).map Prod.snd).sum

/-- The targets with the excess, shared in proportion to the weights of the recipients. -/
def redistributed : Dict String ℚ :=
  (recipients eligibleTargets buyList).foldl (fun targets recipient =>
    Dict.set targets recipient.1 (recipient.2 +
      sellOnlyExcess * (recipient.2 / totalRecipientWeight eligibleTargets buyList)))
    eligibleTargets

def redistributeSellOnlyExcess : Dict String ℚ × TargetStatus :=
  if sellOnlyExcess ≤ 0 then (eligibleTargets, .ready)
  else if totalRecipientWeight eligibleTargets buyList ≤ 0 then (eligibleTargets, .pendingReview)
  else (redistributed eligibleTargets buyList sellOnlyExcess, .ready)

end Redistribution

/-! ## The trace -/

section Trace

variable (model : List ModelTarget) (eligibleTargets : Dict String ℚ) (buyList : List String)
  (totalVal : ℚ) (baseCcy : String)

def modelTargetTags (modelWeight finalWeight : ℚ) : List String :=
  (if finalWeight < modelWeight then ["CAPPED_BY_MAX_WEIGHT"] else []) ++
    if modelWeight < finalWeight then ["REDISTRIBUTED_RECIPIENT"] else []

def implicitTargetTag (instrumentId : String) (finalWeight : ℚ) : String :=
  if instrumentId ∈ buyList ∨ finalWeight = 0 then "IMPLICIT_SELL_TO_ZERO" else "LOCKED_POSITION"

def modelTargetTraceEntry (target : ModelTarget) : TargetInstrument where
  instrumentId := target.instrumentId
  modelWeight := target.weight
  finalWeight := (Dict.get? eligibleTargets target.instrumentId).getD 0
  finalValue :=
    ⟨totalVal * (Dict.get? eligibleTargets target.instrumentId).getD 0, baseCcy⟩
  tags := modelTargetTags target.weight ((Dict.get? eligibleTargets target.instrumentId).getD 0)

def implicitTargetTraceEntry (target : String × ℚ) : TargetInstrument where
  instrumentId := target.1
  modelWeight := 0
  finalWeight := target.2
  finalValue := ⟨totalVal * target.2, baseCcy⟩
  tags := [implicitTargetTag buyList target.1 target.2]

def buildTargetTrace : List TargetInstrument :=
  model.map (modelTargetTraceEntry eligibleTargets totalVal baseCcy) ++
    (eligibleTargets.filter fun target => target.1 ∉ model.map ModelTarget.instrumentId).map
      (implicitTargetTraceEntry buyList totalVal baseCcy)

end Trace

/-! ## The solver -/

/-- What the libraries answer: the solvers that are installed, if they can be listed, the status
that a solver comes to with a profile of its options, if it does not raise, and the solved
weights. -/
structure SolverLibraries (R : Type*) where
  installedSolvers : List String
  solveStatus : TargetSolverProblem → (solver : String) → (profile : ℕ) → Option String
  value : TargetSolverProblem → List R

def solverStatusOptimal : List String := ["optimal", "optimal_inaccurate"]

def solverStatusInfeasible : List String := ["infeasible", "infeasible_inaccurate"]

def solverStatusUnbounded : List String := ["unbounded", "unbounded_inaccurate"]

/-- The solvers in the order of preference, each with four profiles. -/
def solverAttempts : List (String × ℕ) :=
  ["OSQP", "SCS"].flatMap fun solver => (List.range 4).map fun profile => (solver, profile)

def SolverAvailable (installed : List String) (solver : String) : Prop :=
  installed = [] ∨ solver ∈ installed

instance (installed : List String) (solver : String) :
    Decidable (SolverAvailable installed solver) :=
  inferInstanceAs (Decidable (_ ∨ _))

/-- The attempts one after the other, until one is optimal. -/
def solveAttempts (status : String → ℕ → Option String) :
    List (String × ℕ) → Option String → Bool × Option String
  | [], latestStatus => (false, latestStatus)
  | attempt :: attempts, latestStatus =>
    match status attempt.1 attempt.2 with
    | none => solveAttempts status attempts latestStatus
    | some status' =>
      if status' ∈ solverStatusOptimal then (true, some status')
      else solveAttempts status attempts (some status')

def solverFailureReason : Option String → String
  | none => "SOLVER_ERROR"
  | some status =>
    if status ∈ solverStatusInfeasible then "INFEASIBLE_" ++ status.toUpper
    else if status ∈ solverStatusUnbounded then "UNBOUNDED_" ++ status.toUpper
    else "SOLVER_NON_OPTIMAL_" ++ status.toUpper

section Generate

variable {R : Type*} [Field R] [LinearOrder R] [FloorRing R]

def solveWithFallbacks (libraries : SolverLibraries R) (problem : TargetSolverProblem) :
    Bool × Option String :=
  solveAttempts (libraries.solveStatus problem)
    (solverAttempts.filter fun attempt => SolverAvailable libraries.installedSolvers attempt.1) none

/-- A solved weight as it is stored. -/
def solvedWeight (x : R) : ℚ := FieldRounding.quantize 4 (max x 0)

/-- `for idx, i_id in enumerate(solver_index.tradeable_ids): ...` -/
def applySolvedWeights (eligibleTargets : Dict String ℚ) (index : TargetSolverIndex) (w : List R) :
    Dict String ℚ :=
  index.tradeableIds.zipIdx.foldl
    (fun targets entry => Dict.set targets entry.1 (solvedWeight (w.getD entry.2 0)))
    eligibleTargets

structure TargetGeneration where
  eligibleTargets : Dict String ℚ
  targets : List TargetInstrument
  status : TargetStatus
  warnings : List String

variable (libraries : Option (SolverLibraries R)) (model : List ModelTarget)
  (eligibleTargets : Dict String ℚ) (buyList : List String) (sellOnlyExcess : ℚ)
  (shelf : List ShelfEntry) (options : TargetOptions) (totalVal : ℚ) (baseCcy : String)
  (warnings : List String)

/-- The run of the solver on targets that have been redistributed. -/
def solveTargets (libraries : SolverLibraries R) (status : TargetStatus)
    (index : TargetSolverIndex) : TargetGeneration :=
  match solveWithFallbacks libraries
      (buildTargetSolverProblem model index eligibleTargets options) with
  | (false, latestStatus) =>
    { eligibleTargets
      targets := []
      status := .blocked
      warnings := warnings ++ unknownAttributeWarnings index options ++
        [solverFailureReason latestStatus] ++
        if (solverFailureReason latestStatus).startsWith "INFEASIBLE_" then
          collectInfeasibilityHints options index.tradeableIds index.lockedWeight eligibleTargets
            shelf
        else [] }
  | (true, _) =>
    { eligibleTargets := applySolvedWeights eligibleTargets index
        (libraries.value (buildTargetSolverProblem model index eligibleTargets options))
      targets := buildTargetTrace model
        (applySolvedWeights eligibleTargets index
          (libraries.value (buildTargetSolverProblem model index eligibleTargets options)))
        buyList totalVal baseCcy
      status
      warnings := warnings ++ unknownAttributeWarnings index options }

/-- The targets are changed in place: they are part of what is left. -/
def generateTargetsSolver : TargetGeneration :=
  match libraries with
  | none => ⟨eligibleTargets, [], .blocked, warnings ++ ["SOLVER_ERROR"]⟩
  | some libraries =>
    match redistributeSellOnlyExcess eligibleTargets buyList sellOnlyExcess with
    | (eligibleTargets, status) =>
      if (buildTargetSolverIndex eligibleTargets buyList shelf).tradeableIds = [] then
        ⟨eligibleTargets, buildTargetTrace model eligibleTargets buyList totalVal baseCcy, status,
          warnings⟩
      else solveTargets model eligibleTargets buyList shelf options totalVal baseCcy warnings
        libraries status (buildTargetSolverIndex eligibleTargets buyList shelf)

end Generate

end LotusAdvise.Targets

import LotusAdvise.AdvisoryCopilot.Records
import LotusAdvise.Foundations.Tables

/-! # The persistence of copilot runs

A call that persists a run takes one repository step after the other: it looks its key up, loads the
run that the key is bound to, and then refreshes that run or saves a new one. The steps are the same
over the dictionaries in memory and over the tables of the database; the two save a run differently.
-/

namespace LotusAdvise.AdvisoryCopilot

open Tables

structure CopilotRunResult where
  run : AdvisoryCopilotRunRecord
  replayed : Bool
deriving DecidableEq

/-- What the persistence of runs uses of a repository. -/
structure CopilotRunRepository (S : Type) where
  getRun : S → String → Option AdvisoryCopilotRunRecord
  getRunIdempotency : S → String → Option AdvisoryCopilotRunIdempotencyRecord
  saveRunWithIdempotency : S → AdvisoryCopilotRunRecord →
    Option AdvisoryCopilotRunIdempotencyRecord → Except String (S × AdvisoryCopilotRunRecord)
  updateRun : S → AdvisoryCopilotRunRecord → Except String S

/-- Where a call of `persist_advisory_copilot_run` stands: before which repository step. -/
inductive PersistPhase where
  | lookingUp (key : String) (call : CopilotRunCall)
  | loading (call : CopilotRunCall) (existing : AdvisoryCopilotRunIdempotencyRecord)
  | refreshing (existing refreshed : AdvisoryCopilotRunRecord)
  | saving (run : AdvisoryCopilotRunRecord)
      (idempotency : Option AdvisoryCopilotRunIdempotencyRecord)
  | finished (answer : Except String CopilotRunResult)

namespace PersistPhase

section Decisions

variable (services : CopilotServices) (call : CopilotRunCall)

/-- A call that its key does not resolve saves a new run. -/
def withoutExistingRun : PersistPhase :=
  match buildRunRecord services call, runIdempotencyRecord services call with
  | .error error, _ => .finished (.error error)
  | .ok _, .error error => .finished (.error error)
  | .ok run, .ok idempotency => .saving run idempotency

def handleExistingRun (existing : AdvisoryCopilotRunRecord) : PersistPhase :=
  match buildRunRecord services call with
  | .error error => .finished (.error error)
  | .ok incoming =>
    if canRefreshRetryableCopilotRun existing (reviewPostureFromDraftStatus call.draftStatus) then
      .refreshing existing { incoming with
        runId := existing.runId
        createdAt := existing.createdAt
        idempotencyKey := existing.idempotencyKey
        legalHold := existing.legalHold }
    else .finished (.ok { run := existing, replayed := true })

def start : PersistPhase :=
  match assertSafeRunPayloads services call with
  | .error error => .finished (.error error)
  | .ok _ =>
    match call.key with
    | none => withoutExistingRun services call
    | some key => .lookingUp key call

end Decisions

section Steps

variable {S : Type} (repository : CopilotRunRepository S) (services : CopilotServices)

/-- One repository step of a call. -/
def advance (s : S) : PersistPhase → S × PersistPhase
  | lookingUp key call =>
    match repository.getRunIdempotency s key with
    | none => (s, withoutExistingRun services call)
    | some existing =>
      if existing.requestHash ≠ call.requestHash services then
        (s, finished (.error "COPILOT_RUN_IDEMPOTENCY_KEY_CONFLICT"))
      else (s, loading call existing)
  | loading call existing =>
    match repository.getRun s existing.runId with
    | none => (s, finished (.error "COPILOT_RUN_IDEMPOTENCY_RECORD_ORPHANED"))
    | some run => (s, handleExistingRun services call run)
  | refreshing _ refreshed =>
    match repository.updateRun s refreshed with
    | .error error => (s, finished (.error error))
    | .ok s' => (s', finished (.ok { run := refreshed, replayed := false }))
  | saving run idempotency =>
    match repository.saveRunWithIdempotency s run idempotency with
    | .error error => (s, finished (.error error))
    | .ok (s', saved) => (s', finished (.ok { run := saved, replayed := false }))
  | finished answer => (s, finished answer)

/-- `persist_advisory_copilot_run`, without other calls between its steps. -/
def persist (s : S) (call : CopilotRunCall) : S × PersistPhase :=
  let lookedUp := advance repository services s (start services call)
  let loaded := advance repository services lookedUp.1 lookedUp.2
  advance repository services loaded.1 loaded.2

end Steps

end PersistPhase

section InMemory

/-- The dictionaries of the repository in memory. -/
structure InMemoryCopilotRepository where
  runs : List AdvisoryCopilotRunRecord := []
  runIdempotency : List AdvisoryCopilotRunIdempotencyRecord := []
  reviews : Dict String (List AdvisoryCopilotReviewRecord) := []
  reviewIdempotency : Dict (String × String) String := []
deriving DecidableEq

namespace InMemoryCopilotRepository

variable (repository : InMemoryCopilotRepository)

def getRun (runId : String) : Option AdvisoryCopilotRunRecord :=
  lookup AdvisoryCopilotRunRecord.runId repository.runs runId

def getRunIdempotency (idempotencyKey : String) : Option AdvisoryCopilotRunIdempotencyRecord :=
  lookup AdvisoryCopilotRunIdempotencyRecord.idempotencyKey repository.runIdempotency idempotencyKey

/-- The run that a bound key replays. -/
def runReplayForIdempotency (run : AdvisoryCopilotRunRecord)
    (idempotency : AdvisoryCopilotRunIdempotencyRecord) :
    Except String (Option AdvisoryCopilotRunRecord) :=
  match repository.getRunIdempotency idempotency.idempotencyKey with
  | none => .ok none
  | some existing =>
    if existing.requestHash ≠ idempotency.requestHash ∨ existing.runId ≠ run.runId then
      .error "COPILOT_RUN_IDEMPOTENCY_KEY_CONFLICT"
    else
      match repository.getRun existing.runId with
      | none => .error "COPILOT_RUN_IDEMPOTENCY_RECORD_ORPHANED"
      | some stored => .ok (some stored)

def runReplayForRunId (run : AdvisoryCopilotRunRecord) :
    Except String (Option AdvisoryCopilotRunRecord) :=
  match repository.getRun run.runId with
  | none => .ok none
  | some existing =>
    if existing.requestHash ≠ run.requestHash then .error "COPILOT_RUN_HASH_CONFLICT"
    else .ok (some existing)

def storeNewRun (run : AdvisoryCopilotRunRecord)
    (idempotency : Option AdvisoryCopilotRunIdempotencyRecord) : InMemoryCopilotRepository :=
  { repository with
    runs := upsert AdvisoryCopilotRunRecord.runId repository.runs run
    runIdempotency :=
      match idempotency with
      | none => repository.runIdempotency
      | some record => upsert AdvisoryCopilotRunIdempotencyRecord.idempotencyKey
          repository.runIdempotency record }

/-- The stored run that a run replays, by its key or else by its identifier. -/
def runReplay (run : AdvisoryCopilotRunRecord)
    (idempotency : Option AdvisoryCopilotRunIdempotencyRecord) :
    Except String (Option AdvisoryCopilotRunRecord) :=
  match idempotency with
  | none => repository.runReplayForRunId run
  | some record =>
    match repository.runReplayForIdempotency run record with
    | .error error => .error error
    | .ok (some replay) => .ok (some replay)
    | .ok none => repository.runReplayForRunId run

/-- A stored run answers a new key without binding it. -/
def saveRunWithIdempotency (run : AdvisoryCopilotRunRecord)
    (idempotency : Option AdvisoryCopilotRunIdempotencyRecord) :
    Except String (InMemoryCopilotRepository × AdvisoryCopilotRunRecord) :=
  match repository.runReplay run idempotency with
  | .error error => .error error
  | .ok (some replay) => .ok (repository, replay)
  | .ok none => .ok (repository.storeNewRun run idempotency, run)

def updateRun (run : AdvisoryCopilotRunRecord) : Except String InMemoryCopilotRepository :=
  if repository.getRun run.runId = none then .error "COPILOT_RUN_NOT_FOUND"
  else .ok { repository with
    runs := upsert AdvisoryCopilotRunRecord.runId repository.runs run }

end InMemoryCopilotRepository

open InMemoryCopilotRepository in
def inMemoryRuns : CopilotRunRepository InMemoryCopilotRepository :=
  { getRun, getRunIdempotency, saveRunWithIdempotency, updateRun }

end InMemory

section Postgres

/-- The tables of the database that hold runs. -/
structure PostgresCopilotTables where
  runs : List AdvisoryCopilotRunRecord := []
  runIdempotency : List AdvisoryCopilotRunIdempotencyRecord := []
deriving DecidableEq

namespace PostgresCopilotTables

variable (tables : PostgresCopilotTables)

def getRun (runId : String) : Option AdvisoryCopilotRunRecord :=
  lookup AdvisoryCopilotRunRecord.runId tables.runs runId

def getRunIdempotency (idempotencyKey : String) : Option AdvisoryCopilotRunIdempotencyRecord :=
  lookup AdvisoryCopilotRunIdempotencyRecord.idempotencyKey tables.runIdempotency idempotencyKey

/-- No other run has the request hash of the row. -/
def requestHashUnique (run : AdvisoryCopilotRunRecord) : Prop :=
  ∀ other ∈ tables.runs, other.requestHash = run.requestHash → other.runId = run.runId

instance (run : AdvisoryCopilotRunRecord) : Decidable (tables.requestHashUnique run) := by
  unfold requestHashUnique
  infer_instance

/-- `INSERT ... ON CONFLICT (run_id) DO NOTHING`. -/
def insertRun (run : AdvisoryCopilotRunRecord) : Except String PostgresCopilotTables :=
  if tables.getRun run.runId ≠ none then .ok tables
  else if tables.requestHashUnique run then .ok { tables with runs := tables.runs ++ [run] }
  else .error "idx_advisory_copilot_runs_request_hash"

/-- `INSERT ... ON CONFLICT (idempotency_key) DO NOTHING`. -/
def insertRunIdempotency (record : AdvisoryCopilotRunIdempotencyRecord) :
    Except String PostgresCopilotTables :=
  if tables.getRunIdempotency record.idempotencyKey ≠ none then .ok tables
  else if tables.getRun record.runId = none then
    .error "advisory_copilot_run_idempotency_run_id_fkey"
  else .ok { tables with runIdempotency := tables.runIdempotency ++ [record] }

/-- The new run is returned, whether it has been inserted or not. -/
def insertBoth (run : AdvisoryCopilotRunRecord)
    (idempotency : Option AdvisoryCopilotRunIdempotencyRecord) :
    Except String (PostgresCopilotTables × AdvisoryCopilotRunRecord) := do
  let inserted ← tables.insertRun run
  match idempotency with
  | none => return (inserted, run)
  | some record =>
    let bound ← inserted.insertRunIdempotency record
    return (bound, run)

def saveRunWithIdempotency (run : AdvisoryCopilotRunRecord)
    (idempotency : Option AdvisoryCopilotRunIdempotencyRecord) :
    Except String (PostgresCopilotTables × AdvisoryCopilotRunRecord) :=
  match idempotency with
  | none => tables.insertBoth run none
  | some record =>
    match tables.getRunIdempotency record.idempotencyKey with
    | none => tables.insertBoth run (some record)
    | some existing =>
      if existing.requestHash ≠ record.requestHash then
        .error "COPILOT_RUN_IDEMPOTENCY_KEY_CONFLICT"
      else
        match tables.getRun existing.runId with
        | none => .error "COPILOT_RUN_IDEMPOTENCY_RECORD_ORPHANED"
        | some stored => .ok (tables, stored)

/-- `UPDATE ... WHERE run_id = ...`. -/
def updateRun (run : AdvisoryCopilotRunRecord) : Except String PostgresCopilotTables :=
  if tables.getRun run.runId = none then .ok tables
  else if tables.requestHashUnique run then
    .ok { tables with
      runs := tables.runs.map fun stored => if stored.runId = run.runId then run else stored }
  else .error "idx_advisory_copilot_runs_request_hash"

end PostgresCopilotTables

open PostgresCopilotTables in
def postgresRuns : CopilotRunRepository PostgresCopilotTables :=
  { getRun, getRunIdempotency, saveRunWithIdempotency, updateRun }

end Postgres

end LotusAdvise.AdvisoryCopilot

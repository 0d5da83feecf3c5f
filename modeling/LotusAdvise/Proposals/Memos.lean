import LotusAdvise.Foundations.Tables
import LotusAdvise.Foundations.Workers
import LotusAdvise.Proposals.Idempotency
import Mathlib.Logic.Function.Basic

/-! # Proposal memos

A memo is created once for a version, or replayed for its idempotency key. A call looks its
key up, then the memo of the version, and writes at the end; each of these is a repository
operation of its own. The evidence pack is a function of the version.
-/

namespace LotusAdvise.Proposals

open Tables Workers

inductive ProposalMemoLifecycleStatus where
  | draft
  | finalized
deriving DecidableEq

def ProposalMemoLifecycleStatus.text : ProposalMemoLifecycleStatus → String
  | .draft => "DRAFT"
  | .finalized => "FINALIZED"

inductive ProposalMemoEventType where
  | memoDraftCreated
  | memoFinalized
deriving DecidableEq

structure ProposalMemoRecord where
  memoId : String
  proposalId : String
  proposalVersionNo : ℕ
  proposalVersionId : Option String
  artifactId : Option String
  memoVersion : String
  memoStatus : String
  lifecycleStatus : ProposalMemoLifecycleStatus
  createdBy : String
  createdAt : DateTime
  sourceInputHash : String
  memoHash : String
  memoJson : JsonObject
  projectionJson : JsonObject
  reviewEventsJson : List JsonObject
  reportPackageEventsJson : List JsonObject
  archiveRefsJson : List JsonObject
  aiRefsJson : List JsonObject
  replayMetadataJson : JsonObject
deriving DecidableEq

structure ProposalMemoIdempotencyRecord where
  idempotencyKey : String
  requestHash : String
  memoId : String
  proposalId : String
  proposalVersionNo : ℕ
  createdAt : DateTime
deriving DecidableEq

structure ProposalMemoEventRecord where
  eventId : String
  memoId : String
  proposalId : String
  proposalVersionNo : ℕ
  eventType : ProposalMemoEventType
  actorId : String
  occurredAt : DateTime
  reasonJson : JsonObject
deriving DecidableEq

/-- What the memo record keeps of its evidence pack. -/
structure MemoEvidencePack where
  memoId : String
  memoVersion : String
  artifactId : Option String
  status : String
  projectionPolicy : JsonObject
  sourceInputHash : String
  memoHash : String
  dump : JsonObject

/-- The digest, and the pure builder of the evidence pack of a version. -/
structure MemoServices extends Services where
  buildAdvisoryProposalMemoEvidencePack : ProposalVersionRecord →
    Except ProposalError MemoEvidencePack

/-- `ProposalMemoPersistenceError`, a `ValueError`. -/
def memoPersistenceError (detail : String) : ProposalError := .valueError detail

def memoIdempotencyKeyConflict : ProposalError := .valueError "MEMO_IDEMPOTENCY_KEY_CONFLICT"

/-- The memo operations of a repository. -/
structure MemoRepository (S : Type*) where
  getMemoIdempotency : S → (idempotencyKey : String) → Option ProposalMemoIdempotencyRecord
  getMemo : S → (memoId : String) → Option ProposalMemoRecord
  getMemoByProposalVersion : S → (proposalId : String) → (proposalVersionNo : ℕ) →
    Option ProposalMemoRecord
  saveMemoIdempotency : S → ProposalMemoIdempotencyRecord → Except ProposalError S
  createMemoWithIdempotencyEvent : S → ProposalMemoRecord →
    Option ProposalMemoIdempotencyRecord → ProposalMemoEventRecord → Except ProposalError S

/-- The arguments of `create_or_replay_proposal_memo`. -/
structure MemoCall where
  version : ProposalVersionRecord
  idempotencyKey : Option String
  createdBy : String
  createdAt : DateTime
  eventId : String
  lifecycleStatus : String := "DRAFT"
  reason : JsonObject := []

structure ProposalMemoPersistenceResult where
  memo : ProposalMemoRecord
  created : Bool
  replayed : Bool
  auditEvent : Option ProposalMemoEventRecord

def buildMemoPersistenceRequestHash (services : MemoServices) (version : ProposalVersionRecord)
    (lifecycleStatus : ProposalMemoLifecycleStatus) (reason : JsonObject) : String :=
  services.hashCanonicalPayload
    [("proposal_id", .str version.proposalId),
      ("proposal_version_no", .int version.versionNo),
      ("proposal_version_id", .str version.proposalVersionId),
      ("artifact_hash", .str version.artifactHash),
      ("simulation_hash", .str version.simulationHash),
      ("request_hash", .str version.requestHash),
      ("evidence_bundle_hash", .str (services.hashCanonicalPayload version.evidenceBundleJson)),
      ("lifecycle_status", .str lifecycleStatus.text),
      ("reason", .obj reason)]

def memoLifecycleStatus : String → Except ProposalError ProposalMemoLifecycleStatus
  | "DRAFT" => .ok .draft
  | "FINALIZED" => .ok .finalized
  | _ => .error (memoPersistenceError "MEMO_LIFECYCLE_STATUS_UNSUPPORTED")

def ensureExistingSourceIsIdentical (existing : ProposalMemoRecord)
    (version : ProposalVersionRecord) : Except ProposalError Unit := do
  require (JsonObject.get existing.replayMetadataJson "proposal_artifact_hash" =
      .str version.artifactHash) (memoPersistenceError "MEMO_SOURCE_ARTIFACT_HASH_CONFLICT")
  require (JsonObject.get existing.replayMetadataJson "proposal_simulation_hash" =
      .str version.simulationHash) (memoPersistenceError "MEMO_SOURCE_SIMULATION_HASH_CONFLICT")

/-- A call whose lifecycle status is supported. -/
structure MemoRequest where
  call : MemoCall
  lifecycleStatus : ProposalMemoLifecycleStatus
  supported : memoLifecycleStatus call.lifecycleStatus = .ok lifecycleStatus

namespace MemoRequest

variable (services : MemoServices) (request : MemoRequest)

def requestHash : String :=
  buildMemoPersistenceRequestHash services request.call.version request.lifecycleStatus
    request.call.reason

def key? : Option String := presentKey request.call.idempotencyKey

def idempotencyRecord (idempotencyKey : String) (memo : ProposalMemoRecord) :
    ProposalMemoIdempotencyRecord where
  idempotencyKey := idempotencyKey
  requestHash := request.requestHash services
  memoId := memo.memoId
  proposalId := memo.proposalId
  proposalVersionNo := memo.proposalVersionNo
  createdAt := request.call.createdAt

def optionalIdempotencyRecord (memo : ProposalMemoRecord) : Option ProposalMemoIdempotencyRecord :=
  request.key?.map fun key => request.idempotencyRecord services key memo

def buildMemoRecord : Except ProposalError ProposalMemoRecord := do
  let version := request.call.version
  let pack ← services.buildAdvisoryProposalMemoEvidencePack version
  require (request.lifecycleStatus = .finalized → pack.status = "READY")
    (memoPersistenceError "MEMO_FINALIZATION_BLOCKED_BY_EVIDENCE_POSTURE")
  return {
    memoId := pack.memoId
    proposalId := version.proposalId
    proposalVersionNo := version.versionNo
    proposalVersionId := some version.proposalVersionId
    artifactId := pack.artifactId
    memoVersion := pack.memoVersion
    memoStatus := pack.status
    lifecycleStatus := request.lifecycleStatus
    createdBy := request.call.createdBy
    createdAt := request.call.createdAt
    sourceInputHash := pack.sourceInputHash
    memoHash := pack.memoHash
    memoJson := pack.dump
    projectionJson := pack.projectionPolicy
    reviewEventsJson := []
    reportPackageEventsJson := []
    archiveRefsJson := []
    aiRefsJson := []
    replayMetadataJson :=
      [("proposal_request_hash", .str version.requestHash),
        ("proposal_artifact_hash", .str version.artifactHash),
        ("proposal_simulation_hash", .str version.simulationHash),
        ("memo_source_input_hash", .str pack.sourceInputHash),
        ("memo_request_hash", .str (request.requestHash services)),
        ("idempotency_key", Json.ofText? request.call.idempotencyKey),
        ("creation_reason", .obj request.call.reason),
        ("replay_policy", .str "EXACT_SOURCE_HASH_MATCH")] }

def createdEvent (memo : ProposalMemoRecord) : ProposalMemoEventRecord where
  eventId := request.call.eventId
  memoId := memo.memoId
  proposalId := memo.proposalId
  proposalVersionNo := memo.proposalVersionNo
  eventType := if memo.lifecycleStatus = .draft then .memoDraftCreated else .memoFinalized
  actorId := request.call.createdBy
  occurredAt := request.call.createdAt
  reasonJson :=
    [("memo_hash", .str memo.memoHash),
      ("source_input_hash", .str memo.sourceInputHash),
      ("memo_status", .str memo.memoStatus),
      ("lifecycle_status", .str memo.lifecycleStatus.text),
      ("idempotency_key", Json.ofText? request.call.idempotencyKey),
      ("idempotency_request_hash", .str (request.requestHash services)),
      ("creation_reason", .obj request.call.reason)]

end MemoRequest

/-- How far a call has come: which repository operation it makes next, or how it ended. -/
inductive MemoStage where
  | lookUpKey (request : MemoRequest) (key : String)
  | fetchReplay (request : MemoRequest) (memoId : String)
  | findMemo (request : MemoRequest)
  | saveKey (request : MemoRequest) (key : String) (existing : ProposalMemoRecord)
  | createMemo (request : MemoRequest) (memo : ProposalMemoRecord)
  | ended (request : MemoRequest) (outcome : Except ProposalError ProposalMemoPersistenceResult)
  | refused (call : MemoCall) (error : ProposalError)

/-- The first repository operation of a request. -/
def MemoRequest.firstStage (request : MemoRequest) : MemoStage :=
  match request.key? with
  | some key => .lookUpKey request key
  | none => .findMemo request

section Call

variable {S : Type*} (services : MemoServices) (repository : MemoRepository S)

/-- The beginning of `create_or_replay_proposal_memo`, before its first repository operation. -/
def startMemoCall (call : MemoCall) : MemoStage :=
  match h : memoLifecycleStatus call.lifecycleStatus with
  | .error error => .refused call error
  | .ok lifecycleStatus => (⟨call, lifecycleStatus, h⟩ : MemoRequest).firstStage

/-- The next repository operation of a call, and what it goes on to. -/
def stepMemoCall (store : S) : MemoStage → Unit → Option (S × MemoStage)
  | .lookUpKey request key, _ =>
    some (store, match repository.getMemoIdempotency store key with
      | none => .findMemo request
      | some existingKey =>
        if existingKey.requestHash = request.requestHash services then
          .fetchReplay request existingKey.memoId
        else .ended request (.error memoIdempotencyKeyConflict))
  | .fetchReplay request memoId, _ =>
    some (store, .ended request (match repository.getMemo store memoId with
      | none => .error (memoPersistenceError "MEMO_IDEMPOTENCY_RECORD_ORPHANED")
      | some memo => .ok ⟨memo, false, true, none⟩))
  | .findMemo request, _ =>
    some (store,
      match repository.getMemoByProposalVersion store request.call.version.proposalId
        request.call.version.versionNo with
      | some existing =>
        match ensureExistingSourceIsIdentical existing request.call.version, request.key? with
        | .error error, _ => .ended request (.error error)
        | .ok _, some key => .saveKey request key existing
        | .ok _, none => .ended request (.ok ⟨existing, false, false, none⟩)
      | none =>
        match request.buildMemoRecord services with
        | .error error => .ended request (.error error)
        | .ok memo => .createMemo request memo)
  | .saveKey request key existing, _ =>
    some (match repository.saveMemoIdempotency store (request.idempotencyRecord services key existing) with
      | .error error => (store, .ended request (.error error))
      | .ok store' => (store', .ended request (.ok ⟨existing, false, false, none⟩)))
  | .createMemo request memo, _ =>
    some (match repository.createMemoWithIdempotencyEvent store memo
        (request.optionalIdempotencyRecord services memo) (request.createdEvent services memo) with
      | .error error => (store, .ended request (.error error))
      | .ok store' =>
        (store', .ended request (.ok ⟨memo, true, false, some (request.createdEvent services memo)⟩)))
  | .ended _ _, _ => none
  | .refused _ _, _ => none

def memoCalls : Program S MemoStage MemoCall Unit where
  start := startMemoCall
  step := stepMemoCall services repository

end Call

/-- The memos of the in-memory repository. -/
structure MemoDicts where
  memos : String → Option ProposalMemoRecord
  memoByProposalVersion : String × ℕ → Option String
  memoIdempotency : String → Option ProposalMemoIdempotencyRecord
  memoEvents : String → List ProposalMemoEventRecord

namespace MemoDicts

def empty : MemoDicts := ⟨fun _ => none, fun _ => none, fun _ => none, fun _ => []⟩

variable (store : MemoDicts)

def getMemoByProposalVersion (proposalId : String) (proposalVersionNo : ℕ) :
    Option ProposalMemoRecord :=
  (store.memoByProposalVersion (proposalId, proposalVersionNo)).bind store.memos

/-- A key that is stored keeps its request hash and its memo. -/
def validateMemoIdempotencyWrite (idempotency : ProposalMemoIdempotencyRecord) :
    Except ProposalError Unit :=
  require (∀ existing ∈ store.memoIdempotency idempotency.idempotencyKey,
    existing.requestHash = idempotency.requestHash ∧ existing.memoId = idempotency.memoId)
    memoIdempotencyKeyConflict

def storeMemoIdempotencyIfAbsent (idempotency : ProposalMemoIdempotencyRecord) : MemoDicts :=
  { store with
    memoIdempotency := setDefault store.memoIdempotency idempotency.idempotencyKey idempotency }

def saveMemoIdempotency (record : ProposalMemoIdempotencyRecord) :
    Except ProposalError MemoDicts := do
  store.validateMemoIdempotencyWrite record
  return store.storeMemoIdempotencyIfAbsent record

def validateMemoWrite (memo : ProposalMemoRecord)
    (idempotency : Option ProposalMemoIdempotencyRecord) : Except ProposalError Unit := do
  require (∀ existingMemoId ∈
      store.memoByProposalVersion (memo.proposalId, memo.proposalVersionNo),
    existingMemoId = memo.memoId) (.valueError "MEMO_PROPOSAL_VERSION_CONFLICT")
  require (∀ existingMemo ∈ store.memos memo.memoId, existingMemo.memoHash = memo.memoHash)
    (.valueError "MEMO_HASH_CONFLICT")
  match idempotency with
  | none => return ()
  | some idempotency => store.validateMemoIdempotencyWrite idempotency

def storeMemoIfAbsent (memo : ProposalMemoRecord) : MemoDicts :=
  if (store.memos memo.memoId).isNone then
    { store with
      memos := Function.update store.memos memo.memoId (some memo)
      memoByProposalVersion := Function.update store.memoByProposalVersion
        (memo.proposalId, memo.proposalVersionNo) (some memo.memoId) }
  else store

def appendMemoEventIfAbsent (event : ProposalMemoEventRecord) : MemoDicts :=
  if ∃ existing ∈ store.memoEvents event.memoId, existing.eventId = event.eventId then store
  else
    { store with
      memoEvents := Function.update store.memoEvents event.memoId
        (store.memoEvents event.memoId ++ [event]) }

def createMemoWithIdempotencyEvent (memo : ProposalMemoRecord)
    (idempotency : Option ProposalMemoIdempotencyRecord) (event : ProposalMemoEventRecord) :
    Except ProposalError MemoDicts := do
  store.validateMemoWrite memo idempotency
  let stored := store.storeMemoIfAbsent memo
  let keyed := idempotency.elim stored stored.storeMemoIdempotencyIfAbsent
  return keyed.appendMemoEventIfAbsent event

end MemoDicts

def inMemoryMemos : MemoRepository MemoDicts where
  getMemoIdempotency store := store.memoIdempotency
  getMemo store := store.memos
  getMemoByProposalVersion store := store.getMemoByProposalVersion
  saveMemoIdempotency store := store.saveMemoIdempotency
  createMemoWithIdempotencyEvent store := store.createMemoWithIdempotencyEvent

/-- `proposal_memos`, `proposal_memo_idempotency` and `proposal_memo_events`. -/
structure MemoTables where
  memos : List ProposalMemoRecord
  idempotency : List ProposalMemoIdempotencyRecord
  events : List ProposalMemoEventRecord

namespace MemoTables

def empty : MemoTables := ⟨[], [], []⟩

variable (store : MemoTables)

def getMemoIdempotency (idempotencyKey : String) : Option ProposalMemoIdempotencyRecord :=
  lookup ProposalMemoIdempotencyRecord.idempotencyKey store.idempotency idempotencyKey

def getMemo (memoId : String) : Option ProposalMemoRecord :=
  lookup ProposalMemoRecord.memoId store.memos memoId

def getMemoByProposalVersion (proposalId : String) (proposalVersionNo : ℕ) :
    Option ProposalMemoRecord :=
  store.memos.find? fun memo =>
    memo.proposalId = proposalId && memo.proposalVersionNo = proposalVersionNo

def insertMemoIdempotency (record : ProposalMemoIdempotencyRecord) : MemoTables :=
  { store with
    idempotency := insertIfAbsent ProposalMemoIdempotencyRecord.idempotencyKey store.idempotency
      record }

def insertMemo (memo : ProposalMemoRecord) : Except ProposalError MemoTables := do
  require (store.getMemo memo.memoId = none) (.integrity "proposal_memos_pkey")
  require (store.getMemoByProposalVersion memo.proposalId memo.proposalVersionNo = none)
    (.integrity "proposal_memos_proposal_id_proposal_version_no_key")
  return { store with memos := store.memos ++ [memo] }

def insertMemoEvent (event : ProposalMemoEventRecord) : MemoTables :=
  { store with
    events := insertIfAbsent ProposalMemoEventRecord.eventId store.events event }

def saveMemoIdempotency (record : ProposalMemoIdempotencyRecord) :
    Except ProposalError MemoTables :=
  .ok (store.insertMemoIdempotency record)

/-- One transaction: when the memo cannot be inserted nothing is. -/
def createMemoWithIdempotencyEvent (memo : ProposalMemoRecord)
    (idempotency : Option ProposalMemoIdempotencyRecord) (event : ProposalMemoEventRecord) :
    Except ProposalError MemoTables := do
  let stored ← store.insertMemo memo
  let keyed := idempotency.elim stored stored.insertMemoIdempotency
  return keyed.insertMemoEvent event

end MemoTables

def postgresMemos : MemoRepository MemoTables where
  getMemoIdempotency store := store.getMemoIdempotency
  getMemo store := store.getMemo
  getMemoByProposalVersion store := store.getMemoByProposalVersion
  saveMemoIdempotency store := store.saveMemoIdempotency
  createMemoWithIdempotencyEvent store := store.createMemoWithIdempotencyEvent

/-- What a write leaves under a key of either table: what was there, or else what is written. -/
structure MemoRepository.Written {S : Type*} (repository : MemoRepository S) (store store' : S)
    (idempotency : Option ProposalMemoIdempotencyRecord) (memo : Option ProposalMemoRecord) :
    Prop where
  keys : ∀ key, repository.getMemoIdempotency store' key =
    (repository.getMemoIdempotency store key).or
      (idempotency.bind fun record => if record.idempotencyKey = key then some record else none)
  memos : ∀ memoId, repository.getMemo store' memoId =
    (repository.getMemo store memoId).or
      (memo.bind fun record => if record.memoId = memoId then some record else none)

/-- A repository that replaces neither a memo nor a key, from the states that meet an invariant. -/
structure MemoRepository.Lawful {S : Type*} (repository : MemoRepository S) (inv : S → Prop) :
    Prop where
  memoId : ∀ store memoId memo, inv store → repository.getMemo store memoId = some memo →
    memo.memoId = memoId
  found : ∀ store proposalId versionNo memo, inv store →
    repository.getMemoByProposalVersion store proposalId versionNo = some memo →
    repository.getMemo store memo.memoId = some memo
  save : ∀ store store' record, inv store →
    repository.saveMemoIdempotency store record = .ok store' →
    inv store' ∧ repository.Written store store' (some record) none
  create : ∀ store store' memo idempotency event, inv store →
    repository.createMemoWithIdempotencyEvent store memo idempotency event = .ok store' →
    inv store' ∧ repository.Written store store' idempotency (some memo)

namespace MemoDicts

variable {store store' : MemoDicts}

/-- Every memo is stored under its identifier. -/
def Keyed (store : MemoDicts) : Prop :=
  ∀ memoId memo, store.memos memoId = some memo → memo.memoId = memoId

@[simp] theorem storeMemoIfAbsent_memoIdempotency (memo : ProposalMemoRecord) :
    (store.storeMemoIfAbsent memo).memoIdempotency = store.memoIdempotency := by
  unfold storeMemoIfAbsent
  split <;> rfl

@[simp] theorem storeMemoIfAbsent_memos (memo : ProposalMemoRecord) :
    (store.storeMemoIfAbsent memo).memos = setDefault store.memos memo.memoId memo := by
  unfold storeMemoIfAbsent setDefault
  split <;> rfl

@[simp] theorem appendMemoEventIfAbsent_memos (event : ProposalMemoEventRecord) :
    (store.appendMemoEventIfAbsent event).memos = store.memos := by
  unfold appendMemoEventIfAbsent
  split <;> rfl

@[simp] theorem appendMemoEventIfAbsent_memoIdempotency (event : ProposalMemoEventRecord) :
    (store.appendMemoEventIfAbsent event).memoIdempotency = store.memoIdempotency := by
  unfold appendMemoEventIfAbsent
  split <;> rfl

theorem Keyed.setDefault (h : store.Keyed) (memo : ProposalMemoRecord)
    (hmemos : store'.memos = Tables.setDefault store.memos memo.memoId memo) : store'.Keyed := by
  intro memoId stored hstored
  rw [hmemos, setDefault_apply] at hstored
  rcases Option.or_eq_some_iff.mp hstored with hold | ⟨-, hnew⟩
  · exact h memoId stored hold
  · split at hnew
    · next heq =>
      cases hnew
      exact heq
    · cases hnew

theorem lawful : inMemoryMemos.Lawful Keyed where
  memoId _ memoId memo hinv h := hinv memoId memo h
  found store proposalId versionNo memo hinv h := by
    obtain ⟨memoId, -, hmemo⟩ := Option.bind_eq_some_iff.mp h
    show store.memos memo.memoId = some memo
    rwa [hinv memoId memo hmemo]
  save store store' record hinv h := by
    obtain ⟨_, -, h⟩ := bind_eq_ok.mp h
    obtain rfl := Except.ok.inj h
    exact ⟨hinv, fun key => setDefault_apply key, fun memoId => Option.or_none.symm⟩
  create store store' memo idempotency event hinv h := by
    obtain ⟨_, -, h⟩ := bind_eq_ok.mp h
    obtain rfl := Except.ok.inj h
    cases idempotency with
    | none =>
      refine ⟨hinv.setDefault memo (by simp), fun key => ?_, fun memoId => ?_⟩
      · simp [inMemoryMemos]
      · simp [inMemoryMemos, setDefault_apply]
    | some record =>
      refine ⟨hinv.setDefault memo (by simp [storeMemoIdempotencyIfAbsent]), fun key => ?_,
        fun memoId => ?_⟩
      · simp [inMemoryMemos, storeMemoIdempotencyIfAbsent, setDefault_apply]
      · simp [inMemoryMemos, storeMemoIdempotencyIfAbsent, setDefault_apply]

end MemoDicts

namespace MemoTables

/-- The identifiers of the memos are a primary key. -/
def Keyed (store : MemoTables) : Prop := (store.memos.map (·.memoId)).Nodup

theorem insertMemo_eq_ok {store store' : MemoTables} {memo : ProposalMemoRecord}
    (h : store.insertMemo memo = .ok store') :
    store.getMemo memo.memoId = none ∧ store' = { store with memos := store.memos ++ [memo] } := by
  obtain ⟨_, hfree, h⟩ := bind_eq_ok.mp h
  obtain ⟨_, -, h⟩ := bind_eq_ok.mp h
  exact ⟨require_eq_ok.mp hfree, (Except.ok.inj h).symm⟩

theorem lawful : postgresMemos.Lawful Keyed where
  memoId _ _ _ _ h := (lookup_some h).2
  found store proposalId versionNo memo hinv h := by
    exact lookup_of_mem hinv (List.mem_of_find?_eq_some h)
  save store store' record hinv h := by
    obtain rfl := Except.ok.inj h
    exact ⟨hinv, fun key => lookup_insertIfAbsent key, fun memoId => Option.or_none.symm⟩
  create store store' memo idempotency event hinv h := by
    obtain ⟨stored, hinsert, h⟩ := bind_eq_ok.mp h
    obtain ⟨hfree, rfl⟩ := insertMemo_eq_ok hinsert
    obtain rfl := Except.ok.inj h
    have hmemos : ∀ memoId, lookup ProposalMemoRecord.memoId (store.memos ++ [memo]) memoId = _ :=
      fun memoId => lookup_append memoId
    have hkeyed : ((store.memos ++ [memo]).map (·.memoId)).Nodup := nodup_keys_concat hinv hfree
    cases idempotency with
    | none => exact ⟨hkeyed, fun key => Option.or_none.symm, hmemos⟩
    | some record => exact ⟨hkeyed, fun key => lookup_insertIfAbsent key, hmemos⟩

end MemoTables

end LotusAdvise.Proposals

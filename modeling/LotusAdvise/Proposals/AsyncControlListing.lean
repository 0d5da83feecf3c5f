import LotusAdvise.Foundations.SortedPages
import LotusAdvise.Proposals.AsyncControl
import LotusAdvise.Proposals.AsyncRepository

/-! # Operations listed for control

An operator lists operations by type and by control status. The repository cuts its
candidates off before the service filters them, and succeeded operations are none of its
candidates; so the listing is complete only while the operations an operator asks for are
among the first candidates.
-/

namespace LotusAdvise.Proposals

open SortedPages Tables

def asyncOperationControlMaxListLimit : ℕ := 50

structure AsyncOperationControlFilters where
  controlStatuses : List AsyncOperationControlStatus :=
    [.pending, .leased, .recoverableStuck, .retryExhausted, .quarantined]
  operationTypes : List ProposalAsyncOperationType := [.createProposal, .createProposalVersion]
  limit : ℤ := asyncOperationControlMaxListLimit

structure AsyncOperationControlListItem where
  operationId : String
  operationType : ProposalAsyncOperationType
  status : ProposalAsyncOperationStatus
  controlStatus : AsyncOperationControlStatus
  correlationId : String
  proposalId : Option String
  createdAt : UtcDateTime
  startedAt : Option UtcDateTime
  leaseExpiresAt : Option UtcDateTime
  finishedAt : Option UtcDateTime
  attemptCount : ℕ
  maxAttempts : ℕ+
deriving DecidableEq

def normalizeAsyncOperationControlFilters (filters : AsyncOperationControlFilters) :
    AsyncOperationControlFilters where
  controlStatuses := filters.controlStatuses.eraseDups
  operationTypes := filters.operationTypes.eraseDups
  limit := max 0 (min filters.limit asyncOperationControlMaxListLimit)

def toListItem (asOf : UtcDateTime) (operation : ProposalAsyncOperationRecord) :
    AsyncOperationControlListItem where
  operationId := operation.operationId
  operationType := operation.operationType
  status := operation.status
  controlStatus := classifyAsyncOperationForControl operation asOf
  correlationId := operation.correlationId
  proposalId := operation.proposalId
  createdAt := operation.createdAt
  startedAt := operation.startedAt
  leaseExpiresAt := operation.leaseExpiresAt
  finishedAt := operation.finishedAt
  attemptCount := operation.attemptCount
  maxAttempts := operation.maxAttempts

/-- `(a.created_at, a.operation_id) <= (b.created_at, b.operation_id)` -/
def ItemBefore (a b : AsyncOperationControlListItem) : Prop :=
  a.createdAt.time.localMicroseconds < b.createdAt.time.localMicroseconds ∨
    a.createdAt.time.localMicroseconds = b.createdAt.time.localMicroseconds ∧
      a.operationId ≤ b.operationId

instance : DecidableRel ItemBefore := fun a b => by
  unfold ItemBefore
  infer_instance

def listAsyncOperationsForControl (operations : List ProposalAsyncOperationRecord)
    (filters : AsyncOperationControlFilters) (asOf : UtcDateTime) :
    List AsyncOperationControlListItem :=
  let normalized := normalizeAsyncOperationControlFilters filters
  if normalized.limit ≤ 0 then []
  else
    let items := (operations.filter fun operation =>
      operation.operationType ∈ normalized.operationTypes).map (toListItem asOf)
    let selected := items.filter fun item => item.controlStatus ∈ normalized.controlStatuses
    (selected.insertionSort ItemBefore).take normalized.limit.toNat

/-- `operation.status in {"PENDING", "RUNNING", "FAILED"}` -/
def isControlCandidate (operation : ProposalAsyncOperationRecord) : Bool :=
  operation.status ∈
    [ProposalAsyncOperationStatus.pending, .running, .failed]

def AsyncOperationDicts.listOperationsForControl (store : AsyncOperationDicts) (limit : ℕ) :
    List ProposalAsyncOperationRecord :=
  ((store.operations.filter isControlCandidate).insertionSort
    AsyncOperationDicts.CreatedBefore).take limit

def AsyncOperationTable.listOperationsForControl (collation : LinearOrder String)
    (table : AsyncOperationTable) (limit : ℕ) : List ProposalAsyncOperationRecord :=
  (orderBy collation (fun operation => operation.createdAt.isoformat)
    ProposalAsyncOperationRecord.operationId (table.filter isControlCandidate)).take limit

/-- The listing of the service over a repository's candidates. -/
def listForControl (listOperationsForControl : ℕ → List ProposalAsyncOperationRecord)
    (filters : AsyncOperationControlFilters) (asOf : UtcDateTime) :
    List AsyncOperationControlListItem :=
  listAsyncOperationsForControl (listOperationsForControl asyncOperationControlMaxListLimit) filters
    asOf

/-! ## What is asked for -/

section Selection

variable (operations : List ProposalAsyncOperationRecord) (filters : AsyncOperationControlFilters)
  (asOf : UtcDateTime)

/-- The filter selects the operation by its type and its control status. -/
def AsyncOperationControlFilters.selects (operation : ProposalAsyncOperationRecord) : Bool :=
  operation.operationType ∈ filters.operationTypes &&
    classifyAsyncOperationForControl operation asOf ∈ filters.controlStatuses

/-- How many operations are listed at most. -/
def AsyncOperationControlFilters.pageSize : ℕ :=
  (min filters.limit asyncOperationControlMaxListLimit).toNat

/-- The first of all selected operations. -/
def firstSelected : List AsyncOperationControlListItem :=
  (((operations.filter (filters.selects asOf)).insertionSort
    AsyncOperationDicts.CreatedBefore).take filters.pageSize).map (toListItem asOf)

/-- Every operation that is to be listed is a candidate of the repository, and fewer candidates come
before it than the repository returns. -/
def NothingHidden (r : ProposalAsyncOperationRecord → ProposalAsyncOperationRecord → Prop)
    [DecidableRel r] : Prop :=
  ∀ operation ∈ operations, filters.selects asOf operation = true →
    rank AsyncOperationDicts.CreatedBefore (operations.filter (filters.selects asOf)) operation <
      filters.pageSize →
    operation.status ≠ .succeeded ∧
      rank r (operations.filter isControlCandidate) operation < asyncOperationControlMaxListLimit

end Selection

namespace AsyncOperationDicts

instance : IsTrans ProposalAsyncOperationRecord CreatedBefore where
  trans a b c := by
    rintro (h | ⟨heq, h⟩) (h' | ⟨heq', h'⟩)
    · exact .inl (h.trans h')
    · exact .inl (h.trans_eq heq')
    · exact .inl (heq.trans_lt h')
    · exact .inr ⟨heq.trans heq', h.trans h'⟩

instance : Std.Total CreatedBefore where
  total a b := by
    rcases lt_trichotomy a.createdAt.time.localMicroseconds b.createdAt.time.localMicroseconds with
      h | heq | h
    · exact .inl (.inl h)
    · exact (le_total a.operationId b.operationId).imp (fun h => .inr ⟨heq, h⟩)
        fun h => .inr ⟨heq.symm, h⟩
    · exact .inr (.inl h)

theorem operationId_of_createdBefore {a b : ProposalAsyncOperationRecord} (hab : CreatedBefore a b)
    (hba : CreatedBefore b a) : a.operationId = b.operationId := by
  rcases hab with h | ⟨heq, h⟩
  · rcases hba with h' | ⟨heq', -⟩
    · exact (lt_asymm h h').elim
    · exact absurd heq' (ne_of_gt h)
  · rcases hba with h' | ⟨-, h'⟩
    · exact absurd heq (ne_of_gt h')
    · exact le_antisymm h h'

end AsyncOperationDicts

theorem isControlCandidate_iff {operation : ProposalAsyncOperationRecord} :
    isControlCandidate operation = true ↔ operation.status ≠ .succeeded := by
  cases h : operation.status <;> simp [isControlCandidate, h]

section Listing

variable {operations : List ProposalAsyncOperationRecord} {filters : AsyncOperationControlFilters}
  {asOf : UtcDateTime}

/-- The two filters and the sorting of the items, in terms of the operations. -/
theorem listAsyncOperationsForControl_eq :
    listAsyncOperationsForControl operations filters asOf =
      firstSelected operations filters asOf := by
  have hfilter : (((operations.filter fun operation =>
      operation.operationType ∈ (normalizeAsyncOperationControlFilters filters).operationTypes).map
        (toListItem asOf)).filter fun item =>
      item.controlStatus ∈ (normalizeAsyncOperationControlFilters filters).controlStatuses) =
      (operations.filter (filters.selects asOf)).map (toListItem asOf) := by
    rw [List.filter_map, List.filter_filter]
    refine congrArg _ (List.filter_congr fun operation _ => ?_)
    simp only [Function.comp_apply, AsyncOperationControlFilters.selects, toListItem,
      normalizeAsyncOperationControlFilters, List.mem_eraseDups]
    exact Bool.and_comm _ _
  have hsort : ((operations.filter (filters.selects asOf)).map (toListItem asOf)).insertionSort
      ItemBefore = ((operations.filter (filters.selects asOf)).insertionSort
        AsyncOperationDicts.CreatedBefore).map (toListItem asOf) :=
    (List.map_insertionSort _ _ (toListItem asOf) _ fun _ _ _ _ => Iff.rfl).symm
  have hlimit : (normalizeAsyncOperationControlFilters filters).limit.toNat = filters.pageSize := by
    simp only [normalizeAsyncOperationControlFilters, AsyncOperationControlFilters.pageSize]
    omega
  unfold listAsyncOperationsForControl
  dsimp only
  rw [hfilter, hsort, hlimit, ← List.map_take]
  split
  · next hnone =>
    have hzero : filters.pageSize = 0 := by rw [← hlimit]; omega
    rw [firstSelected, hzero, List.take_zero, List.map_nil]
  · rfl

/-- Listing the first candidates is listing all operations exactly when none is hidden. -/
theorem firstSelected_candidates_iff
    {r : ProposalAsyncOperationRecord → ProposalAsyncOperationRecord → Prop} [DecidableRel r]
    [IsTrans ProposalAsyncOperationRecord r] [Std.Total r]
    (hanti : ∀ a b, r a b → r b a → a.operationId = b.operationId)
    (hn : (operations.map ProposalAsyncOperationRecord.operationId).Nodup) :
    firstSelected (((operations.filter isControlCandidate).insertionSort r).take
        asyncOperationControlMaxListLimit) filters asOf = firstSelected operations filters asOf ↔
      NothingHidden operations filters asOf r := by
  have hkey : ∀ a ∈ operations, ∀ b ∈ operations, a.operationId = b.operationId → a = b :=
    fun a ha b hb => List.inj_on_of_nodup_map hn ha hb
  have hnodup : operations.Nodup := hn.of_map
  let listed := ((operations.filter isControlCandidate).insertionSort r).take
    asyncOperationControlMaxListLimit
  have hlisted : ∀ operation, operation ∈ listed ↔ (operation ∈ operations ∧
      operation.status ≠ .succeeded) ∧ rank r (operations.filter isControlCandidate) operation <
        asyncOperationControlMaxListLimit := by
    intro operation
    rw [mem_take_insertionSort_iff (hnodup.filter _) fun a ha b hb hab hba =>
      hkey a (List.mem_of_mem_filter ha) b (List.mem_of_mem_filter hb) (hanti a b hab hba),
      List.mem_filter, isControlCandidate_iff]
  have hsub : ∀ operation ∈ listed, operation ∈ operations :=
    fun operation h => ((hlisted operation).mp h).1.1
  -- the candidates that are selected, sorted again, are some of all that are selected, sorted
  have hsorted : (listed.filter (filters.selects asOf)).insertionSort
        AsyncOperationDicts.CreatedBefore =
      ((operations.filter (filters.selects asOf)).insertionSort
        AsyncOperationDicts.CreatedBefore).filter (· ∈ listed) := by
    have hdistinct : listed.Nodup :=
      ((List.perm_insertionSort r _).nodup_iff.mpr (hnodup.filter _)).sublist
        (List.take_sublist _ _)
    refine insertionSort_eq_filter (hdistinct.filter _) (hnodup.filter _) (fun a ha b hb hab hba =>
      hkey a (List.mem_of_mem_filter ha) b (List.mem_of_mem_filter hb)
        (AsyncOperationDicts.operationId_of_createdBefore hab hba)) fun a => ?_
    simp only [List.mem_filter, decide_eq_true_eq]
    constructor
    · rintro ⟨ha, hselected⟩
      exact ⟨⟨hsub a ha, hselected⟩, ha⟩
    · rintro ⟨⟨-, hselected⟩, ha⟩
      exact ⟨ha, hselected⟩
  have hpage : ∀ operation, operation ∈ ((operations.filter (filters.selects asOf)).insertionSort
        AsyncOperationDicts.CreatedBefore).take filters.pageSize ↔
      (operation ∈ operations ∧ filters.selects asOf operation = true) ∧
        rank AsyncOperationDicts.CreatedBefore (operations.filter (filters.selects asOf))
          operation < filters.pageSize := by
    intro operation
    rw [mem_take_insertionSort_iff (hnodup.filter _) fun a ha b hb hab hba =>
      hkey a (List.mem_of_mem_filter ha) b (List.mem_of_mem_filter hb)
        (AsyncOperationDicts.operationId_of_createdBefore hab hba), List.mem_filter]
  rw [firstSelected, firstSelected, map_inj_of_injOn, hsorted, take_filter_eq_take_iff]
  · constructor
    · intro h operation hmem hselected hrank
      have hin := h operation ((hpage operation).mpr ⟨⟨hmem, hselected⟩, hrank⟩)
      obtain ⟨⟨-, hstatus⟩, hfirst⟩ := (hlisted operation).mp (of_decide_eq_true hin)
      exact ⟨hstatus, hfirst⟩
    · intro h operation hmem
      obtain ⟨⟨hstored, hselected⟩, hrank⟩ := (hpage operation).mp hmem
      obtain ⟨hstatus, hfirst⟩ := h operation hstored hselected hrank
      exact decide_eq_true ((hlisted operation).mpr ⟨⟨hstored, hstatus⟩, hfirst⟩)
  · intro a ha b hb heq
    have ha := List.mem_of_mem_filter ((List.mem_insertionSort _).mp (List.mem_of_mem_take ha))
    have hb := List.mem_of_mem_filter ((List.mem_insertionSort _).mp (List.mem_of_mem_take hb))
    exact hkey a (hsub a ha) b hb (congrArg AsyncOperationControlListItem.operationId heq)

end Listing

/-- The listing is complete exactly when none of the operations asked for is hidden. -/
theorem list_for_control_complete_iff (store : AsyncOperationDicts)
    (filters : AsyncOperationControlFilters) (asOf : UtcDateTime)
    (hn : (store.operations.map ProposalAsyncOperationRecord.operationId).Nodup) :
    listForControl store.listOperationsForControl filters asOf =
        firstSelected store.operations filters asOf ↔
      NothingHidden store.operations filters asOf AsyncOperationDicts.CreatedBefore := by
  rw [listForControl, listAsyncOperationsForControl_eq]
  exact firstSelected_candidates_iff
    (fun _ _ => AsyncOperationDicts.operationId_of_createdBefore) hn

/-- The tables hide operations in the same way, in the order of the query. -/
theorem list_for_control_complete_iff_postgres (collation : LinearOrder String)
    (table : AsyncOperationTable) (filters : AsyncOperationControlFilters) (asOf : UtcDateTime)
    (hn : (table.map ProposalAsyncOperationRecord.operationId).Nodup) :
    listForControl (table.listOperationsForControl collation) filters asOf =
        firstSelected table filters asOf ↔
      NothingHidden table filters asOf (OrderedBefore collation
        (fun operation => operation.createdAt.isoformat)
          ProposalAsyncOperationRecord.operationId) := by
  rw [listForControl, listAsyncOperationsForControl_eq]
  refine firstSelected_candidates_iff (fun a b hab hba => ?_) hn
  let := collation
  rcases hab with h | ⟨heq, h⟩
  · rcases hba with h' | ⟨heq', -⟩
    · exact (lt_asymm h h').elim
    · exact absurd heq' (ne_of_gt h)
  · rcases hba with h' | ⟨-, h'⟩
    · exact absurd heq (ne_of_gt h')
    · exact le_antisymm h h'

namespace ControlSample

def minuteOf (minute : ℕ) : UtcDateTime := ⟨Sample.clock minute, Sample.clock_utc minute⟩

/-- A creation that was attempted once. -/
def attempted (operationId : String) (minute : ℕ) (status : ProposalAsyncOperationStatus)
    (leaseExpiresAt : Option UtcDateTime) : ProposalAsyncOperationRecord where
  operationId := operationId
  operationType := .createProposal
  status := status
  correlationId := operationId
  idempotencyKey := some operationId
  proposalId := none
  createdBy := "advisor_1"
  createdAt := minuteOf minute
  payloadJson := []
  attemptCount := 1
  maxAttempts := asyncDefaultMaxAttempts
  startedAt := some (minuteOf minute)
  leaseExpiresAt := leaseExpiresAt
  finishedAt := none
  resultJson := none
  errorJson := none

/-- An operation whose worker is gone. -/
def stuck : ProposalAsyncOperationRecord := attempted "pop_stuck" 1 .running (some (minuteOf 2))

/-- The stuck operation, stored after a number of operations that failed for good. -/
def storeOf (failed : ℕ) : AsyncOperationDicts :=
  ⟨(List.range failed).map (fun i => attempted (toString i) 0 .failed none) ++ [stuck],
    fun _ => none, fun _ => none⟩

end ControlSample

open ControlSample in
/-- Fifty failed operations, which the filter excludes, hide a stuck one. -/
theorem stuck_operation_hidden :
    listForControl (storeOf 50).listOperationsForControl {} (minuteOf 10) = [] ∧
      firstSelected (storeOf 50).operations {} (minuteOf 10) =
        [toListItem (minuteOf 10) stuck] := by decide +kernel

open ControlSample in
/-- The theorem at a store with one failed operation. -/
theorem list_for_control_complete_single :
    listForControl (storeOf 1).listOperationsForControl {} (minuteOf 10) =
      firstSelected (storeOf 1).operations {} (minuteOf 10) :=
  (list_for_control_complete_iff (storeOf 1) {} (minuteOf 10) (by decide +kernel)).mpr
    (by unfold NothingHidden; decide +kernel)

end LotusAdvise.Proposals

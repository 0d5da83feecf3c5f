import LotusAdvise.Foundations.NumberedLogs
import LotusAdvise.PolicyPacks.EvaluationStore

/-! # The evaluation tables in Postgres

A snapshot is loaded by three queries, one for each table, and saved in one transaction that
writes every record, event and key of the snapshot again. A stored record is overwritten
only by one with its evaluation hash, and only if no more events are stored for it than the
snapshot has; a stored event must be the same, and a stored key is bound to the same request
or repaired.
-/

namespace LotusAdvise.PolicyPacks

/-- A row of `policy_evaluation_records`. -/
structure PolicyEvaluationRecordRow where
  evaluationId : String
  proposalId : String
  proposalVersionId : String
  portfolioId : String
  policyPackId : String
  policyVersion : String
  generatedAt : String
  evaluationStatus : PolicyEvaluationStatus
  sourceEvidenceHash : String
  policyContentHash : String
  evaluationHash : String
  recordJson : PolicyEvaluationRecord
deriving DecidableEq

/-- A row of `policy_evaluation_idempotency`. -/
structure PolicyEvaluationIdempotencyRow where
  idempotencyKey : String
  bound : BoundRequest
  createdAt : String
deriving DecidableEq

/-- The columns that a conflicting insertion sets. -/
def PolicyEvaluationIdempotencyRow.rebound (stored row : PolicyEvaluationIdempotencyRow) :
    PolicyEvaluationIdempotencyRow :=
  { stored with bound := row.bound }

/-- The three tables, with their rows in the order of insertion. A row of the audit events is its
`event_json`, from which the other columns are copied. -/
structure PolicyEvaluationTables where
  records : List PolicyEvaluationRecordRow
  events : List PolicyEvaluationAuditEvent
  idempotency : List PolicyEvaluationIdempotencyRow

namespace PolicyEvaluationRecordRow

def ofRecord (record : PolicyEvaluationRecord) : PolicyEvaluationRecordRow where
  evaluationId := record.evaluationId
  proposalId := record.proposalId
  proposalVersionId := record.proposalVersionId
  portfolioId := record.portfolioId
  policyPackId := record.policyPackId
  policyVersion := record.policyVersion
  generatedAt := record.generatedAt
  evaluationStatus := record.evaluationStatus
  sourceEvidenceHash := record.sourceEvidenceHash
  policyContentHash := record.policyContentHash
  evaluationHash := record.evaluationHash
  recordJson := record

/-- The columns that a conflicting insertion sets. -/
def updated (stored row : PolicyEvaluationRecordRow) : PolicyEvaluationRecordRow :=
  { stored with evaluationStatus := row.evaluationStatus, recordJson := row.recordJson }

variable (row : PolicyEvaluationRecordRow)

/-- The columns of the unique constraint. -/
def identity : PolicyEvaluationIdentity where
  proposalId := row.proposalId
  proposalVersionId := row.proposalVersionId
  policyPackId := row.policyPackId
  policyVersion := row.policyVersion
  sourceEvidenceHash := row.sourceEvidenceHash

/-- The proposal version, the portfolio and the policy-pack version. -/
def scope : List String :=
  [row.proposalId, row.proposalVersionId, row.portfolioId, row.policyPackId, row.policyVersion]

def creationReason : Option Json :=
  (row.recordJson.replayMetadataJson.lookup "creation_reason").map Json.canonical

def hasLegalEntityGap : Prop := "legal_entity_code" ∈ row.recordJson.sourceGaps

def hasLegalEntityReason : Prop :=
  .str "POLICY_APPLICABILITY_LEGAL_ENTITY_SOURCE_MISSING" ∈ applicabilityReasonCodes row.recordJson

instance : Decidable row.hasLegalEntityGap := inferInstanceAs (Decidable (_ ∈ _))

instance : Decidable row.hasLegalEntityReason := inferInstanceAs (Decidable (_ ∈ _))

/-- The condition under which a key may be bound to another evaluation: the new one has the scope
and the reason of the old one, and the legal entity that the old one was blocked for. -/
def RepairedBy (new : PolicyEvaluationRecordRow) : Prop :=
  row.evaluationStatus = .blocked ∧ new.evaluationStatus ≠ .blocked ∧ row.scope = new.scope ∧
    row.creationReason.isSome ∧ row.creationReason = new.creationReason ∧
    row.hasLegalEntityGap ∧ row.hasLegalEntityReason ∧
    ¬ new.hasLegalEntityGap ∧ ¬ new.hasLegalEntityReason

instance (new : PolicyEvaluationRecordRow) : Decidable (row.RepairedBy new) :=
  inferInstanceAs (Decidable (_ ∧ _))

end PolicyEvaluationRecordRow

/-- The stored events of an evaluation, in the order in which they were appended. -/
def logOf (events : List PolicyEvaluationAuditEvent) (evaluationId : String) :
    List PolicyEvaluationAuditEvent :=
  events.filter fun event => event.evaluationId = evaluationId

/-- The row of an evaluation. -/
def recordOf (records : List PolicyEvaluationRecordRow) (evaluationId : String) :
    Option PolicyEvaluationRecordRow :=
  Tables.lookup PolicyEvaluationRecordRow.evaluationId records evaluationId

namespace PolicyEvaluationTables

def empty : PolicyEvaluationTables := ⟨[], [], []⟩

def keyOf (tables : PolicyEvaluationTables) (key : String) : Option PolicyEvaluationIdempotencyRow :=
  Tables.lookup PolicyEvaluationIdempotencyRow.idempotencyKey tables.idempotency key

section Load

variable (collation : LinearOrder String) (tables : PolicyEvaluationTables)

def selectRecords : Dict String PolicyEvaluationRecord :=
  (Tables.orderByColumns collation
    [PolicyEvaluationRecordRow.generatedAt, PolicyEvaluationRecordRow.evaluationId]
    tables.records).map fun row => (row.evaluationId, row.recordJson)

def selectEvents : Dict String (List PolicyEvaluationAuditEvent) :=
  Dict.groupBy PolicyEvaluationAuditEvent.evaluationId <| Tables.orderByColumns collation
    [PolicyEvaluationAuditEvent.evaluationId, PolicyEvaluationAuditEvent.occurredAt,
      PolicyEvaluationAuditEvent.eventId] tables.events

def selectIdempotency : Dict String BoundRequest :=
  (Tables.orderByColumns collation [PolicyEvaluationIdempotencyRow.idempotencyKey]
    tables.idempotency).map fun row => (row.idempotencyKey, row.bound)

end Load

section Save

variable (records : List PolicyEvaluationRecordRow) (events : List PolicyEvaluationAuditEvent)

/-- The conditions on an inserted row, or on the update of a stored one. -/
def checkRecord (record : PolicyEvaluationRecord) (eventCount : ℕ) : Except PolicyPackError Unit :=
  match recordOf records record.evaluationId with
  | none =>
    require (∀ row ∈ records, row.identity ≠ (PolicyEvaluationRecordRow.ofRecord record).identity)
      (.integrity "policy_evaluation_records_identity_key")
  | some stored =>
    require (stored.evaluationHash = record.evaluationHash ∧
        (logOf events record.evaluationId).length ≤ eventCount)
      (.idempotencyConflict "POLICY_EVALUATION_RECORD_CONFLICT")

def upsertPolicyEvaluationRecord (record : PolicyEvaluationRecord) (eventCount : ℕ) :
    Except PolicyPackError (List PolicyEvaluationRecordRow) :=
  (checkRecord records events record eventCount).map fun _ =>
    Tables.upsertWith PolicyEvaluationRecordRow.updated PolicyEvaluationRecordRow.evaluationId
      records (.ofRecord record)

def eventKey (event : PolicyEvaluationAuditEvent) : String × String :=
  (event.evaluationId, event.eventId)

def upsertPolicyEvaluationEvent (event : PolicyEvaluationAuditEvent) :
    Except PolicyPackError (List PolicyEvaluationAuditEvent) :=
  Tables.insertOnce eventKey events event
    (require (recordOf records event.evaluationId).isSome
      (.integrity "policy_evaluation_audit_events_evaluation_id_fkey"))
    (.idempotencyConflict "POLICY_EVALUATION_EVENT_CONFLICT")

/-- The evaluation of a key is repaired by another one. -/
def Repairs (old new : BoundRequest) : Prop :=
  ∃ oldRow ∈ recordOf records old.evaluationId, ∃ newRow ∈ recordOf records new.evaluationId,
    oldRow.RepairedBy newRow

instance (old new : BoundRequest) : Decidable (Repairs records old new) := by
  unfold Repairs
  infer_instance

def checkIdempotency (rows : List PolicyEvaluationIdempotencyRow)
    (row : PolicyEvaluationIdempotencyRow) : Except PolicyPackError Unit :=
  match Tables.lookup PolicyEvaluationIdempotencyRow.idempotencyKey rows row.idempotencyKey with
  | none =>
    require (recordOf records row.bound.evaluationId).isSome
      (.integrity "policy_evaluation_idempotency_evaluation_id_fkey")
  | some stored =>
    require (stored.bound = row.bound ∨ Repairs records stored.bound row.bound)
      (.idempotencyConflict "POLICY_EVALUATION_IDEMPOTENCY_KEY_CONFLICT")

def upsertPolicyEvaluationIdempotency (rows : List PolicyEvaluationIdempotencyRow)
    (row : PolicyEvaluationIdempotencyRow) :
    Except PolicyPackError (List PolicyEvaluationIdempotencyRow) :=
  (checkIdempotency records rows row).map fun _ =>
    Tables.upsertWith PolicyEvaluationIdempotencyRow.rebound
      PolicyEvaluationIdempotencyRow.idempotencyKey rows row

end Save

/-- The time of the event that a key is bound to, if the snapshot has it. -/
def eventCreatedAt (snapshot : PolicyEvaluationRecordStore) (bound : BoundRequest) : String :=
  (((snapshot.eventsOf bound.evaluationId).find? fun event => event.eventId = bound.eventId).map
    PolicyEvaluationAuditEvent.occurredAt).getD ""

def saveSnapshot (tables : PolicyEvaluationTables) (snapshot : PolicyEvaluationRecordStore) :
    Except PolicyPackError PolicyEvaluationTables := do
  let records ← snapshot.records.foldlM (fun records item =>
    upsertPolicyEvaluationRecord records tables.events item.2
      (snapshot.eventsOf item.2.evaluationId).length) tables.records
  let events ← (snapshot.events.flatMap Prod.snd).foldlM
    (upsertPolicyEvaluationEvent records) tables.events
  let idempotency ← snapshot.idempotency.foldlM (fun rows item =>
    upsertPolicyEvaluationIdempotency records rows
      ⟨item.1, item.2, eventCreatedAt snapshot item.2⟩) tables.idempotency
  return ⟨records, events, idempotency⟩

section LoadLemmas

variable {collation : LinearOrder String} {tables : PolicyEvaluationTables} {evaluationId : String}

theorem mem_selectRecords {record : PolicyEvaluationRecord}
    (h : (evaluationId, record) ∈ tables.selectRecords collation) :
    ∃ row ∈ tables.records, row.evaluationId = evaluationId ∧ row.recordJson = record := by
  obtain ⟨row, hrow, heq⟩ := List.mem_map.mp h
  cases heq
  exact ⟨row, (Tables.orderByColumns_perm collation _).mem_iff.mp hrow, rfl, rfl⟩

/-- A snapshot has as many events of an evaluation as are stored when they are read. -/
theorem length_selectEvents :
    ((Dict.get? (tables.selectEvents collation) evaluationId).getD []).length =
      (logOf tables.events evaluationId).length := by
  rw [selectEvents, Dict.getD_get?_groupBy]
  exact ((Tables.orderByColumns_perm collation _).filter _).length_eq

theorem mem_selectEvents {group : List PolicyEvaluationAuditEvent}
    (h : (evaluationId, group) ∈ tables.selectEvents collation)
    {event : PolicyEvaluationAuditEvent} (hevent : event ∈ group) :
    event ∈ tables.events ∧ event.evaluationId = evaluationId := by
  rw [Dict.mem_groupBy h, List.mem_filter, (Tables.orderByColumns_perm collation _).mem_iff]
    at hevent
  simpa using hevent

end LoadLemmas

section SaveLemmas

variable {records records' : List PolicyEvaluationRecordRow}
  {events : List PolicyEvaluationAuditEvent} {record : PolicyEvaluationRecord} {eventCount : ℕ}
  {row : PolicyEvaluationRecordRow} {evaluationId : String}

/-- A record is inserted, or replaces the one that is stored with no more events than it has. -/
theorem upsertRecord_spec
    (h : upsertPolicyEvaluationRecord records events record eventCount = .ok records') :
    records' = Tables.upsertWith PolicyEvaluationRecordRow.updated
      PolicyEvaluationRecordRow.evaluationId records (.ofRecord record) ∧
    (recordOf records record.evaluationId = none ∨
      (logOf events record.evaluationId).length ≤ eventCount) := by
  obtain ⟨_, hguard, rfl⟩ := map_eq_ok.mp h
  refine ⟨rfl, ?_⟩
  unfold checkRecord at hguard
  split at hguard
  · next hnone => exact .inl hnone
  · exact .inr (require_eq_ok.mp hguard).2

theorem recordOf_upsertWith : recordOf (Tables.upsertWith PolicyEvaluationRecordRow.updated
      PolicyEvaluationRecordRow.evaluationId records (.ofRecord record)) evaluationId =
    if record.evaluationId = evaluationId then
      some ((recordOf records evaluationId).elim (.ofRecord record) fun stored =>
        stored.updated (.ofRecord record))
    else recordOf records evaluationId := by
  have hmerge : ∀ stored row : PolicyEvaluationRecordRow, stored.evaluationId = row.evaluationId →
      (stored.updated row).evaluationId = row.evaluationId := fun _ _ heq => heq
  exact Tables.lookup_upsertWith hmerge evaluationId

variable {items : List (String × PolicyEvaluationRecord)} (count : PolicyEvaluationRecord → ℕ)

/-- After the records are saved, a row has a record of the snapshot or is the one of before. -/
theorem saveRecords_row
    (h : items.foldlM (fun records item =>
      upsertPolicyEvaluationRecord records events item.2 (count item.2)) records = .ok records')
    (hrow : recordOf records' evaluationId = some row) :
    (∃ item ∈ items, item.2.evaluationId = evaluationId ∧ row.recordJson = item.2 ∧
      (recordOf records evaluationId = none ∨
        (logOf events evaluationId).length ≤ count item.2)) ∨
    recordOf records evaluationId = some row ∧
      ∀ item ∈ items, item.2.evaluationId ≠ evaluationId := by
  induction items generalizing records with
  | nil =>
    obtain rfl := foldlM_nil_eq_ok.mp h
    exact .inr ⟨hrow, by simp⟩
  | cons item items ih =>
    obtain ⟨records₁, hitem, hrest⟩ := foldlM_cons_eq_ok.mp h
    obtain ⟨rfl, hguard⟩ := upsertRecord_spec hitem
    rcases ih hrest with ⟨later, hlater, hid, hjson, hcount⟩ | ⟨hbefore, hother⟩
    · refine .inl ⟨later, List.mem_cons_of_mem _ hlater, hid, hjson, ?_⟩
      rw [recordOf_upsertWith] at hcount
      split at hcount
      · exact .inr (hcount.resolve_left nofun)
      · exact hcount
    · rw [recordOf_upsertWith] at hbefore
      split at hbefore
      · next hid =>
        subst hid
        refine .inl ⟨item, List.mem_cons_self, rfl, ?_, hguard⟩
        rw [← Option.some.inj hbefore]
        cases recordOf records item.2.evaluationId <;> rfl
      · next hid =>
        refine .inr ⟨hbefore, fun other hmem => ?_⟩
        rcases List.mem_cons.mp hmem with rfl | hmem
        · exact hid
        · exact hother other hmem

/-- Saving the records keeps every row with its scope. -/
theorem saveRecords_kept
    (h : items.foldlM (fun records item =>
      upsertPolicyEvaluationRecord records events item.2 (count item.2)) records = .ok records')
    (hrow : recordOf records evaluationId = some row) :
    ∃ row', recordOf records' evaluationId = some row' ∧ row'.scope = row.scope := by
  induction items generalizing records row with
  | nil =>
    obtain rfl := foldlM_nil_eq_ok.mp h
    exact ⟨row, hrow, rfl⟩
  | cons item items ih =>
    obtain ⟨records₁, hitem, hrest⟩ := foldlM_cons_eq_ok.mp h
    obtain ⟨rfl, -⟩ := upsertRecord_spec hitem
    have hstep : ∃ row₁, recordOf (Tables.upsertWith PolicyEvaluationRecordRow.updated
        PolicyEvaluationRecordRow.evaluationId records (.ofRecord item.2)) evaluationId = some row₁ ∧
        row₁.scope = row.scope := by
      rw [recordOf_upsertWith, hrow]
      split
      · exact ⟨_, rfl, rfl⟩
      · exact ⟨row, rfl, rfl⟩
    obtain ⟨row₁, hrow₁, hscope⟩ := hstep
    obtain ⟨row', hrow', hscope'⟩ := ih hrest hrow₁
    exact ⟨row', hrow', hscope'.trans hscope⟩

theorem saveRecords_stored
    (h : items.foldlM (fun records item =>
      upsertPolicyEvaluationRecord records events item.2 (count item.2)) records = .ok records')
    {item : String × PolicyEvaluationRecord} (hitem : item ∈ items) :
    (recordOf records' item.2.evaluationId).isSome := by
  induction items generalizing records with
  | nil => cases hitem
  | cons first items ih =>
    obtain ⟨records₁, hfirst, hrest⟩ := foldlM_cons_eq_ok.mp h
    rcases List.mem_cons.mp hitem with rfl | hitem
    · obtain ⟨rfl, -⟩ := upsertRecord_spec hfirst
      obtain ⟨row', hrow', -⟩ := saveRecords_kept count hrest
        (recordOf_upsertWith.trans (if_pos rfl))
      rw [hrow', Option.isSome_some]
    · exact ih hrest hitem

theorem saveRecords_nodup
    (h : items.foldlM (fun records item =>
      upsertPolicyEvaluationRecord records events item.2 (count item.2)) records = .ok records')
    (hn : (records.map PolicyEvaluationRecordRow.evaluationId).Nodup) :
    (records'.map PolicyEvaluationRecordRow.evaluationId).Nodup := by
  induction items generalizing records with
  | nil =>
    obtain rfl := foldlM_nil_eq_ok.mp h
    exact hn
  | cons item items ih =>
    obtain ⟨records₁, hitem, hrest⟩ := foldlM_cons_eq_ok.mp h
    obtain ⟨rfl, -⟩ := upsertRecord_spec hitem
    exact ih hrest (Tables.nodup_keys_upsertWith (fun _ _ heq => heq) hn)

end SaveLemmas

/-- The evaluations have the same proposal version, portfolio and policy-pack version. -/
def SameScope (records : List PolicyEvaluationRecordRow) (a b : String) : Prop :=
  ∃ rowA ∈ recordOf records a, ∃ rowB ∈ recordOf records b, rowA.scope = rowB.scope

/-- A key is bound to an event, or to an evaluation of the scope of that event's. -/
def BoundTo (records : List PolicyEvaluationRecordRow) (evaluationId eventId : String)
    (bound : BoundRequest) : Prop :=
  bound.evaluationId = evaluationId ∧ bound.eventId = eventId ∨
    SameScope records evaluationId bound.evaluationId

section KeyLemmas

variable {records records' : List PolicyEvaluationRecordRow}
  {rows rows' : List PolicyEvaluationIdempotencyRow} {row : PolicyEvaluationIdempotencyRow}
  {bound new : BoundRequest} {evaluationId eventId key : String}
  {items : List (String × BoundRequest)} {createdAt : BoundRequest → String}

theorem BoundTo.self : BoundTo records bound.evaluationId bound.eventId bound := .inl ⟨rfl, rfl⟩

theorem BoundTo.trans (h : BoundTo records evaluationId eventId bound)
    (h' : BoundTo records bound.evaluationId bound.eventId new) :
    BoundTo records evaluationId eventId new := by
  rcases h with ⟨rfl, rfl⟩ | ⟨rowA, hrowA, rowB, hrowB, hscope⟩
  · exact h'
  · rcases h' with ⟨heval, -⟩ | ⟨rowB', hrowB', rowC, hrowC, hscope'⟩
    · exact .inr ⟨rowA, hrowA, rowB, heval ▸ hrowB, hscope⟩
    · obtain rfl := Option.some.inj (hrowB.symm.trans hrowB')
      exact .inr ⟨rowA, hrowA, rowC, hrowC, hscope.trans hscope'⟩

/-- Rows that keep their scope stay of one scope. -/
theorem BoundTo.kept (h : BoundTo records evaluationId eventId bound)
    (hkept : ∀ evaluationId row, recordOf records evaluationId = some row →
      ∃ row', recordOf records' evaluationId = some row' ∧ row'.scope = row.scope) :
    BoundTo records' evaluationId eventId bound := by
  rcases h with h | ⟨rowA, hrowA, rowB, hrowB, hscope⟩
  · exact .inl h
  · obtain ⟨rowA', hrowA', hscopeA⟩ := hkept _ _ hrowA
    obtain ⟨rowB', hrowB', hscopeB⟩ := hkept _ _ hrowB
    exact .inr ⟨rowA', hrowA', rowB', hrowB', by rw [hscopeA, hscopeB, hscope]⟩

theorem Repairs.boundTo (h : Repairs records bound new) :
    BoundTo records bound.evaluationId bound.eventId new := by
  obtain ⟨rowA, hrowA, rowB, hrowB, hrepaired⟩ := h
  exact .inr ⟨rowA, hrowA, rowB, hrowB, hrepaired.2.2.1⟩

/-- A key is bound once, or to what its row may be rebound to. -/
theorem upsertIdempotency_spec
    (h : upsertPolicyEvaluationIdempotency records rows row = .ok rows') :
    rows' = Tables.upsertWith PolicyEvaluationIdempotencyRow.rebound
      PolicyEvaluationIdempotencyRow.idempotencyKey rows row ∧
    ∀ stored ∈ Tables.lookup PolicyEvaluationIdempotencyRow.idempotencyKey rows row.idempotencyKey,
      BoundTo records stored.bound.evaluationId stored.bound.eventId row.bound := by
  obtain ⟨_, hguard, rfl⟩ := map_eq_ok.mp h
  refine ⟨rfl, fun stored hstored => ?_⟩
  rw [checkIdempotency, hstored] at hguard
  rcases require_eq_ok.mp hguard with heq | hrepairs
  · rw [heq]
    exact .self
  · exact hrepairs.boundTo

theorem lookup_rebound : Tables.lookup PolicyEvaluationIdempotencyRow.idempotencyKey
      (Tables.upsertWith PolicyEvaluationIdempotencyRow.rebound
        PolicyEvaluationIdempotencyRow.idempotencyKey rows row) key =
    if row.idempotencyKey = key then
      some ((Tables.lookup PolicyEvaluationIdempotencyRow.idempotencyKey rows key).elim row
        fun stored => stored.rebound row)
    else Tables.lookup PolicyEvaluationIdempotencyRow.idempotencyKey rows key := by
  have hmerge : ∀ stored row : PolicyEvaluationIdempotencyRow,
      stored.idempotencyKey = row.idempotencyKey →
      (stored.rebound row).idempotencyKey = row.idempotencyKey := fun _ _ heq => heq
  exact Tables.lookup_upsertWith hmerge key

/-- Saving the keys keeps every key bound. -/
theorem saveIdempotency_kept
    (h : items.foldlM (fun rows item =>
      upsertPolicyEvaluationIdempotency records rows ⟨item.1, item.2, createdAt item.2⟩) rows =
        .ok rows')
    (hrow : Tables.lookup PolicyEvaluationIdempotencyRow.idempotencyKey rows key = some row) :
    ∃ row', Tables.lookup PolicyEvaluationIdempotencyRow.idempotencyKey rows' key = some row' ∧
      BoundTo records row.bound.evaluationId row.bound.eventId row'.bound := by
  induction items generalizing rows row with
  | nil =>
    obtain rfl := foldlM_nil_eq_ok.mp h
    exact ⟨row, hrow, .self⟩
  | cons item items ih =>
    obtain ⟨rows₁, hitem, hrest⟩ := foldlM_cons_eq_ok.mp h
    obtain ⟨rfl, hbound⟩ := upsertIdempotency_spec hitem
    by_cases hkey : item.1 = key
    · subst hkey
      obtain ⟨row', hrow', hbound'⟩ := ih hrest (lookup_rebound.trans (if_pos rfl))
      rw [hrow, Option.elim_some] at hbound'
      exact ⟨row', hrow', (hbound row hrow).trans hbound'⟩
    · exact ih hrest ((lookup_rebound.trans (if_neg hkey)).trans hrow)

/-- A key of the snapshot is bound as in the snapshot, or to an evaluation of the same scope. -/
theorem saveIdempotency_stored
    (h : items.foldlM (fun rows item =>
      upsertPolicyEvaluationIdempotency records rows ⟨item.1, item.2, createdAt item.2⟩) rows =
        .ok rows')
    (hitem : (key, bound) ∈ items) :
    ∃ row', Tables.lookup PolicyEvaluationIdempotencyRow.idempotencyKey rows' key = some row' ∧
      BoundTo records bound.evaluationId bound.eventId row'.bound := by
  induction items generalizing rows with
  | nil => cases hitem
  | cons first items ih =>
    obtain ⟨rows₁, hfirst, hrest⟩ := foldlM_cons_eq_ok.mp h
    rcases List.mem_cons.mp hitem with rfl | hitem
    · obtain ⟨rfl, -⟩ := upsertIdempotency_spec hfirst
      obtain ⟨row', hrow', hbound⟩ :=
        saveIdempotency_kept hrest (lookup_rebound.trans (if_pos rfl))
      refine ⟨row', hrow', ?_⟩
      cases hl : Tables.lookup PolicyEvaluationIdempotencyRow.idempotencyKey rows key with
      | none => rwa [hl] at hbound
      | some stored => rwa [hl] at hbound
    · exact ih hrest hitem

end KeyLemmas

/-- The evaluations, events and keys of one state are there in the other: an evaluation with its
scope, and a key bound to its event or to an evaluation of that scope. -/
structure Grows (tables tables' : PolicyEvaluationTables) : Prop where
  events : tables.events <+: tables'.events
  records : ∀ evaluationId row, recordOf tables.records evaluationId = some row →
    ∃ row', recordOf tables'.records evaluationId = some row' ∧ row'.scope = row.scope
  keys : ∀ key row, tables.keyOf key = some row → ∃ row', tables'.keyOf key = some row' ∧
    BoundTo tables'.records row.bound.evaluationId row.bound.eventId row'.bound

/-- What a transaction that commits did with a snapshot. -/
structure Saved (tables : PolicyEvaluationTables) (snapshot : PolicyEvaluationRecordStore)
    (tables' : PolicyEvaluationTables) : Prop where
  row : ∀ evaluationId row, recordOf tables'.records evaluationId = some row →
    (∃ item ∈ snapshot.records, item.2.evaluationId = evaluationId ∧ row.recordJson = item.2 ∧
      (recordOf tables.records evaluationId = none ∨
        (logOf tables.events evaluationId).length ≤ (snapshot.eventsOf evaluationId).length)) ∨
    recordOf tables.records evaluationId = some row ∧
      ∀ item ∈ snapshot.records, item.2.evaluationId ≠ evaluationId
  kept : ∀ evaluationId row, recordOf tables.records evaluationId = some row →
    ∃ row', recordOf tables'.records evaluationId = some row' ∧ row'.scope = row.scope
  stored : ∀ item ∈ snapshot.records, (recordOf tables'.records item.2.evaluationId).isSome
  keyed : (tables.records.map PolicyEvaluationRecordRow.evaluationId).Nodup →
    (tables'.records.map PolicyEvaluationRecordRow.evaluationId).Nodup
  events : ∀ event, (∀ other ∈ snapshot.events.flatMap Prod.snd,
      other ∈ tables.events ∨ other = event) →
    (tables'.events = tables.events ∨ Tables.lookup eventKey tables.events (eventKey event) = none ∧
      tables'.events = tables.events ++ [event]) ∧
    ∀ other ∈ snapshot.events.flatMap Prod.snd, other ∈ tables'.events
  keysKept : ∀ key row, tables.keyOf key = some row → ∃ row', tables'.keyOf key = some row' ∧
    BoundTo tables'.records row.bound.evaluationId row.bound.eventId row'.bound
  keysStored : ∀ key bound, (key, bound) ∈ snapshot.idempotency →
    ∃ row', tables'.keyOf key = some row' ∧
      BoundTo tables'.records bound.evaluationId bound.eventId row'.bound

theorem saved_of_saveSnapshot {tables tables' : PolicyEvaluationTables}
    {snapshot : PolicyEvaluationRecordStore} (h : saveSnapshot tables snapshot = .ok tables') :
    Saved tables snapshot tables' := by
  obtain ⟨records, hrecords, h⟩ := bind_eq_ok.mp h
  obtain ⟨events, hevents, h⟩ := bind_eq_ok.mp h
  obtain ⟨idempotency, hidempotency, h⟩ := bind_eq_ok.mp h
  cases h
  constructor
  · intro evaluationId row hrow
    rcases saveRecords_row (fun record => (snapshot.eventsOf record.evaluationId).length)
      hrecords hrow with
      ⟨item, hitem, rfl, hjson, hcount⟩ | hold
    · exact .inl ⟨item, hitem, rfl, hjson, hcount⟩
    · exact .inr hold
  · intro evaluationId row hrow
    exact saveRecords_kept (fun record => (snapshot.eventsOf record.evaluationId).length)
      hrecords hrow
  · intro item hitem
    exact saveRecords_stored (fun record => (snapshot.eventsOf record.evaluationId).length)
      hrecords hitem
  · exact saveRecords_nodup (fun record => (snapshot.eventsOf record.evaluationId).length)
      hrecords
  · intro event hnew
    exact Tables.foldlM_insertOnce hevents hnew
  · intro key row hrow
    exact saveIdempotency_kept hidempotency hrow
  · intro key bound hitem
    exact saveIdempotency_stored hidempotency hitem

end PolicyEvaluationTables

end LotusAdvise.PolicyPacks

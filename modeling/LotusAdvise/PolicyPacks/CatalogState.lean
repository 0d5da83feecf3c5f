import LotusAdvise.Foundations.NumberedLogs
import LotusAdvise.PolicyPacks.CatalogStore

/-! # The catalog tables in Postgres

A snapshot is loaded by three queries and saved in one transaction, which writes every
version, event and key of the snapshot again. A stored version is overwritten only if its
content hash is the same and no more events are stored for it than the snapshot has, and
one version of a pack can be active at a time.
-/

namespace LotusAdvise.PolicyPacks

/-- A row of `policy_pack_catalog_idempotency`. -/
structure PolicyPackIdempotencyRow where
  bound : PolicyPackBoundRequest
  createdAt : String
deriving DecidableEq

def PolicyPackIdempotencyRow.idempotencyKey (row : PolicyPackIdempotencyRow) : String :=
  row.bound.idempotencyKey

/-- The three tables, with their rows in the order of insertion. A row of the versions is its
`definition_json` and one of the audit events its `event_json`, from which the other columns are
copied. -/
structure PolicyPackCatalogTables where
  versions : List PolicyPackDefinition
  events : List PolicyPackAuditEvent
  idempotency : List PolicyPackIdempotencyRow

/-- The versions that a catalog starts from, under the constraints of their table. -/
structure SeededVersions where
  versions : List PolicyPackDefinition
  keyed : (versions.map PolicyPackDefinition.key).Nodup
  single : ∀ a ∈ versions, ∀ b ∈ versions, a.policyPackId = b.policyPackId →
    a.activationState = .active → b.activationState = .active → a = b

namespace PolicyPackCatalogTables

/-- The tables with some versions and nothing else. -/
def seeded (seeds : SeededVersions) : PolicyPackCatalogTables := ⟨seeds.versions, [], []⟩

def versionOf (versions : List PolicyPackDefinition) (key : String × String) :
    Option PolicyPackDefinition :=
  Tables.lookup PolicyPackDefinition.key versions key

/-- The activation state of a version among some definitions. -/
def stateIn (versions : List PolicyPackDefinition) (key : String × String) :
    Option PolicyPackActivationState :=
  (versionOf versions key).map PolicyPackDefinition.activationState

/-- The events of a version. -/
def eventsOf (events : List PolicyPackAuditEvent) (key : String × String) :
    List PolicyPackAuditEvent :=
  events.filter fun event => event.version = key

def keyOf (tables : PolicyPackCatalogTables) (key : String) : Option PolicyPackIdempotencyRow :=
  Tables.lookup PolicyPackIdempotencyRow.idempotencyKey tables.idempotency key

section Load

variable (collation : LinearOrder String) (tables : PolicyPackCatalogTables)

def selectDefinitions : List PolicyPackDefinition :=
  Tables.orderByColumns collation
    [PolicyPackDefinition.policyPackId, PolicyPackDefinition.policyVersion] tables.versions

def selectEvents : List PolicyPackAuditEvent :=
  Tables.orderByColumns collation
    [PolicyPackAuditEvent.policyPackId, PolicyPackAuditEvent.policyVersion,
      PolicyPackAuditEvent.occurredAt, PolicyPackAuditEvent.eventId] tables.events

def selectIdempotency : List PolicyPackBoundRequest :=
  (Tables.orderByColumns collation [PolicyPackIdempotencyRow.idempotencyKey] tables.idempotency).map
    PolicyPackIdempotencyRow.bound

end Load

section Save

variable (events : List PolicyPackAuditEvent)

/-- The conditions on an inserted version, or on the update of a stored one: the update is skipped
where the stored version has other content or more events, and the unique index on the active
versions is checked row by row. -/
def checkVersion (definition : PolicyPackDefinition) (eventCount : ℕ)
    (versions : List PolicyPackDefinition) : Except PolicyPackError Unit := do
  require (∀ stored ∈ versionOf versions definition.key,
      stored.contentHash = definition.contentHash ∧
        (eventsOf events definition.key).length ≤ eventCount)
    (.idempotencyConflict "POLICY_PACK_CATALOG_VERSION_CONFLICT")
  require (definition.activationState = .active → ∀ row ∈ versions, row.key ≠ definition.key →
      row.policyPackId = definition.policyPackId → row.activationState ≠ .active)
    (.integrity "ux_policy_pack_catalog_one_active_version")

def upsertPolicyPackCatalogVersion (versions : List PolicyPackDefinition)
    (definition : PolicyPackDefinition) (eventCount : ℕ) :
    Except PolicyPackError (List PolicyPackDefinition) :=
  (checkVersion events definition eventCount versions).map fun _ =>
    Tables.upsert PolicyPackDefinition.key versions definition

def catalogEventKey (event : PolicyPackAuditEvent) : (String × String) × String :=
  (event.version, event.eventId)

def upsertPolicyPackCatalogEvent (events : List PolicyPackAuditEvent)
    (event : PolicyPackAuditEvent) : Except PolicyPackError (List PolicyPackAuditEvent) :=
  Tables.insertOnce catalogEventKey events event (.ok ())
    (.idempotencyConflict "POLICY_PACK_CATALOG_EVENT_CONFLICT")

/-- A key that is stored stays as it is, and is bound to the same request. -/
def upsertPolicyPackCatalogIdempotency (rows : List PolicyPackIdempotencyRow)
    (row : PolicyPackIdempotencyRow) : Except PolicyPackError (List PolicyPackIdempotencyRow) :=
  (require (∀ stored ∈ Tables.lookup PolicyPackIdempotencyRow.idempotencyKey rows
      row.idempotencyKey, stored.bound = row.bound)
    (.idempotencyConflict "POLICY_PACK_IDEMPOTENCY_KEY_CONFLICT")).map fun _ =>
      Tables.insertIfAbsent PolicyPackIdempotencyRow.idempotencyKey rows row

end Save

/-- The time of the event that a key is bound to, if the snapshot has it. -/
def catalogEventCreatedAt (snapshot : PolicyPackCatalogSnapshot) (bound : PolicyPackBoundRequest) :
    String :=
  ((snapshot.events.find? fun event =>
    event.version = (bound.policyPackId, bound.policyVersion) ∧
      event.eventId = bound.eventId).map PolicyPackAuditEvent.occurredAt).getD ""

def saveSnapshot (tables : PolicyPackCatalogTables) (snapshot : PolicyPackCatalogSnapshot) :
    Except PolicyPackError PolicyPackCatalogTables := do
  let versions ← snapshot.definitions.foldlM (fun versions definition =>
    upsertPolicyPackCatalogVersion tables.events versions definition
      (eventsOf snapshot.events definition.key).length) tables.versions
  let events ← snapshot.events.foldlM upsertPolicyPackCatalogEvent tables.events
  let idempotency ← snapshot.idempotency.foldlM (fun rows bound =>
    upsertPolicyPackCatalogIdempotency rows ⟨bound, catalogEventCreatedAt snapshot bound⟩)
    tables.idempotency
  return ⟨versions, events, idempotency⟩

section SaveLemmas

variable {rows rows' : List PolicyPackIdempotencyRow} {row : PolicyPackIdempotencyRow}
  {bounds : List PolicyPackBoundRequest} {bound : PolicyPackBoundRequest}
  {createdAt : PolicyPackBoundRequest → String} {key : String}

/-- A bound key stays bound to the same request. -/
theorem saveKeys_kept
    (h : bounds.foldlM (fun rows bound =>
      upsertPolicyPackCatalogIdempotency rows ⟨bound, createdAt bound⟩) rows = .ok rows')
    (hrow : Tables.lookup PolicyPackIdempotencyRow.idempotencyKey rows key = some row) :
    Tables.lookup PolicyPackIdempotencyRow.idempotencyKey rows' key = some row := by
  induction bounds generalizing rows with
  | nil =>
    obtain rfl := foldlM_nil_eq_ok.mp h
    exact hrow
  | cons bound bounds ih =>
    obtain ⟨rows₁, hbound, hrest⟩ := foldlM_cons_eq_ok.mp h
    obtain ⟨_, -, rfl⟩ := map_eq_ok.mp hbound
    exact ih hrest (by rw [Tables.lookup_insertIfAbsent, hrow, Option.some_or])

/-- The keys of a snapshot are bound as it says. -/
theorem saveKeys_stored
    (h : bounds.foldlM (fun rows bound =>
      upsertPolicyPackCatalogIdempotency rows ⟨bound, createdAt bound⟩) rows = .ok rows')
    (hbound : bound ∈ bounds) :
    ∃ row, Tables.lookup PolicyPackIdempotencyRow.idempotencyKey rows' bound.idempotencyKey =
      some row ∧ row.bound = bound := by
  induction bounds generalizing rows with
  | nil => cases hbound
  | cons first bounds ih =>
    obtain ⟨rows₁, hfirst, hrest⟩ := foldlM_cons_eq_ok.mp h
    rcases List.mem_cons.mp hbound with rfl | hbound
    · obtain ⟨_, hguard, rfl⟩ := map_eq_ok.mp hfirst
      have hsame := require_eq_ok.mp hguard
      rcases hl : Tables.lookup PolicyPackIdempotencyRow.idempotencyKey rows bound.idempotencyKey
        with _ | stored
      · refine ⟨⟨bound, createdAt bound⟩, saveKeys_kept hrest ?_, rfl⟩
        rw [Tables.lookup_insertIfAbsent, hl, Option.none_or]
        exact if_pos rfl
      · refine ⟨stored, saveKeys_kept hrest ?_, hsame stored hl⟩
        rw [Tables.lookup_insertIfAbsent, hl, Option.some_or]
    · exact ih hrest hbound

end SaveLemmas

/-- What a transaction that commits did with a snapshot. -/
structure Saved (tables : PolicyPackCatalogTables) (snapshot : PolicyPackCatalogSnapshot)
    (tables' : PolicyPackCatalogTables) : Prop where
  guarded : ∀ definition ∈ snapshot.definitions,
    versionOf tables.versions definition.key = none ∨
      (eventsOf tables.events definition.key).length ≤
        (eventsOf snapshot.events definition.key).length
  stored : ∀ definition ∈ snapshot.definitions,
    versionOf tables'.versions definition.key = some definition
  others : ∀ key, (∀ definition ∈ snapshot.definitions, definition.key ≠ key) →
    versionOf tables'.versions key = versionOf tables.versions key
  keyed : (tables.versions.map PolicyPackDefinition.key).Nodup →
    (tables'.versions.map PolicyPackDefinition.key).Nodup
  events : ∀ event, (∀ other ∈ snapshot.events, other ∈ tables.events ∨ other = event) →
    (tables'.events = tables.events ∨
      Tables.lookup catalogEventKey tables.events (catalogEventKey event) = none ∧
        tables'.events = tables.events ++ [event]) ∧
    ∀ other ∈ snapshot.events, other ∈ tables'.events
  keysKept : ∀ key row, tables.keyOf key = some row → tables'.keyOf key = some row
  keysStored : ∀ bound ∈ snapshot.idempotency,
    ∃ row, tables'.keyOf bound.idempotencyKey = some row ∧ row.bound = bound

theorem saved_of_saveSnapshot {tables tables' : PolicyPackCatalogTables}
    {snapshot : PolicyPackCatalogSnapshot}
    (hn : (snapshot.definitions.map PolicyPackDefinition.key).Nodup)
    (h : saveSnapshot tables snapshot = .ok tables') : Saved tables snapshot tables' := by
  obtain ⟨versions, hversions, h⟩ := bind_eq_ok.mp h
  obtain ⟨events, hevents, h⟩ := bind_eq_ok.mp h
  obtain ⟨idempotency, hidempotency, h⟩ := bind_eq_ok.mp h
  cases h
  -- the check of a version sees the row that was stored before all of them
  have hupserts : snapshot.definitions.foldlM (fun versions definition =>
      (checkVersion tables.events definition (eventsOf snapshot.events definition.key).length
        versions).map fun _ => Tables.upsert PolicyPackDefinition.key versions definition)
      tables.versions = .ok versions := hversions
  obtain ⟨hstored, hothers⟩ := Tables.foldlM_upsert hupserts hn
  constructor
  · intro definition hdefinition
    obtain ⟨-, before, hcheck, hsame⟩ := hstored definition hdefinition
    obtain ⟨_, hguard, -⟩ := bind_eq_ok.mp hcheck
    have hguard := require_eq_ok.mp hguard
    rw [versionOf, hsame] at hguard
    rcases hl : versionOf tables.versions definition.key with _ | stored
    · exact .inl rfl
    · exact .inr (hguard stored hl).2
  · exact fun definition hdefinition => (hstored definition hdefinition).1
  · exact hothers
  · exact Tables.nodup_keys_foldlM_upsert hupserts
  · intro event hnew
    exact Tables.foldlM_insertOnce hevents hnew
  · intro key row hrow
    exact saveKeys_kept hidempotency hrow
  · intro bound hbound
    exact saveKeys_stored hidempotency hbound

end PolicyPackCatalogTables

end LotusAdvise.PolicyPacks

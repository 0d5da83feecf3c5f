import LotusAdvise.PolicyPacks.Finalizations

/-! # Keys that are bound again

The rule by which a bound key may be bound to another evaluation is stated twice: the store
asks whether the request repairs the missing legal entity of the record that the key is
bound to, and the statement that saves the key asks whether the new record does. In runs of
commands the two agree up to what the evaluation of the new evidence finds.
-/

namespace LotusAdvise.PolicyPacks

open Runs PolicyEvaluationTables

section Rules

variable {Catalog : Type} (services : PolicyServices Catalog) (collation : LinearOrder String)

/-- The tables after a command that nobody interrupts; one that fails leaves them as they were. -/
def durableStep (tables : PolicyEvaluationTables) (call : PolicyEvaluationCommand × Drawn Catalog) :
    Option PolicyEvaluationTables :=
  match runDurable services collation tables call.2 call.1 with
  | .ok (_, tables') => some tables'
  | .error _ => some tables

/-- The rule of the store: a bound key is neither replayed nor a conflict. -/
def LetsRebind (tables : PolicyEvaluationTables) (request : FinalizeRequest) : Prop :=
  (tables.keyOf request.idempotencyKey).isSome ∧
    (request.lookUp services collation tables).toOption = some none

instance (tables : PolicyEvaluationTables) (request : FinalizeRequest) :
    Decidable (LetsRebind services collation tables request) :=
  inferInstanceAs (Decidable (_ ∧ _))

/-- The new record is not blocked, and has the legal entity that the old one was blocked for. -/
def CompletesRepair (record : PolicyEvaluationRecord) : Prop :=
  record.evaluationStatus ≠ .blocked ∧ "legal_entity_code" ∉ record.sourceGaps ∧
    .str "POLICY_APPLICABILITY_LEGAL_ENTITY_SOURCE_MISSING" ∉ applicabilityReasonCodes record

instance (record : PolicyEvaluationRecord) : Decidable (CompletesRepair record) :=
  inferInstanceAs (Decidable (_ ∧ _))

/-- The records of a snapshot, saved as the first part of the transaction. -/
def saveRecords (tables : PolicyEvaluationTables) (snapshot : PolicyEvaluationRecordStore) :
    Except PolicyPackError (List PolicyEvaluationRecordRow) :=
  snapshot.records.foldlM (fun records item =>
    upsertPolicyEvaluationRecord records tables.events item.2
      (snapshot.eventsOf item.2.evaluationId).length) tables.records

/-- The conditional upsert of a key of a snapshot, once the records are saved. -/
def saveKey (tables : PolicyEvaluationTables) (snapshot : PolicyEvaluationRecordStore)
    (records : List PolicyEvaluationRecordRow) (key : String) (bound : BoundRequest) :
    Except PolicyPackError (List PolicyEvaluationIdempotencyRow) :=
  upsertPolicyEvaluationIdempotency records tables.idempotency
    ⟨key, bound, eventCreatedAt snapshot bound⟩

/-- The rule and the condition agree on a command: the key that the rule lets a finalization bind
again is accepted exactly when the new record completes the repair, and a key is bound to another
request only by a finalization that the rule lets bind it. -/
structure RulesAgree (tables : PolicyEvaluationTables)
    (call : PolicyEvaluationCommand × Drawn Catalog) (tables' : PolicyEvaluationTables) : Prop where
  accepted : ∀ request, call.1 = .finalize request → LetsRebind services collation tables request →
    ∀ result snapshot records, (tables.loadStore collation).finalizePolicyEvaluationRecord services
        request call.2 = .ok (result, snapshot) → saveRecords tables snapshot = .ok records →
      ∀ bound ∈ Dict.get? snapshot.idempotency request.idempotencyKey,
        ((∃ rows, saveKey tables snapshot records request.idempotencyKey bound = .ok rows) ↔
          CompletesRepair result.record)
  kept : ∀ key stored, tables.keyOf key = some stored → ∃ stored', tables'.keyOf key = some stored' ∧
    (stored'.bound ≠ stored.bound → ∃ request, call.1 = .finalize request ∧
      request.idempotencyKey = key ∧ LetsRebind services collation tables request)

/-- A finalization finds no other evaluation under the identifier of its own. -/
def Identified (tables : PolicyEvaluationTables) (call : PolicyEvaluationCommand × Drawn Catalog)
    (_ : PolicyEvaluationTables) : Prop :=
  match call.1 with
  | .finalize request => request.Identifies services tables
  | .appendEvent _ => True

instance (tables : PolicyEvaluationTables) (call : PolicyEvaluationCommand × Drawn Catalog)
    (tables' : PolicyEvaluationTables) : Decidable (Identified services tables call tables') := by
  unfold Identified
  split <;> infer_instance

end Rules

/-- The reason that a repair is compared by is the one that its record keeps. -/
theorem repairBase_eq (reason : JsonObject) :
    repairBaseReplaySafeReason reason = replaySafeReason reason := by
  refine List.filter_eq_self.mpr fun kv hkv => ?_
  have hsafe : ∀ kv ∈ reason.filter fun kv => decide (kv.1 ≠ "system_repair_intent"),
      decide (kv.1 ≠ "system_repair_intent") = true := fun kv hkv => (List.mem_filter.mp hkv).2
  unfold replaySafeReason at hkv
  dsimp only at hkv
  split at hkv
  · rcases JsonObject.mem_set hkv with rfl | hkv
    · simp
    · exact hsafe kv hkv
  · exact hsafe kv hkv

section Repairs

variable {Catalog : Type} {services : PolicyServices Catalog} {collation : LinearOrder String}
  {tables : PolicyEvaluationTables} {request : FinalizeRequest} {drawn : Drawn Catalog}
  {record : PolicyEvaluationRecord} {records : List PolicyEvaluationRecordRow}

/-- A key that may be bound again is bound to a record that the request repairs. -/
theorem LetsRebind.repairs (hc : tables.Coherent) (h : LetsRebind services collation tables request) :
    ∃ portfolioId stored old, portfolioIdFromEvidence request.evidenceBundle = .ok portfolioId ∧
      tables.keyOf request.idempotencyKey = some stored ∧
      stored.bound.requestHash ≠ request.requestHash services ∧
      recordOf tables.records stored.bound.evaluationId = some old ∧
      canRepairTrustedLegalEntityGap services old.recordJson request portfolioId
        (request.sourceEvidenceHash services) = true := by
  obtain ⟨hbound, hfree⟩ := h
  obtain ⟨portfolioId, hportfolio, hreplayed⟩ := bind_eq_ok.mp (toOption_eq_some.mp hfree)
  rcases (findReplayedEvent_loadStore hc).mp hreplayed with ⟨hnone, -⟩ |
    ⟨stored, old, event, hstored, hold, -, hrule⟩
  · rw [hnone] at hbound
    cases hbound
  · split at hrule
    · cases hrule
    · next hother =>
      exact ⟨portfolioId, stored, old, hportfolio, hstored, fun heq => hother (.inl heq), hold,
        hrule.1⟩

/-- The row of a record that was built for a request has the columns of the request. -/
theorem mergedRecord_spec (hrequested : record.Requested services request)
    (hid : request.Identifies services tables) :
    (mergedRecord tables.records record).recordJson = record ∧
      (mergedRecord tables.records record).evaluationStatus = record.evaluationStatus ∧
      (mergedRecord tables.records record).identity = request.identity services ∧
      portfolioIdFromEvidence request.evidenceBundle =
        .ok (some (mergedRecord tables.records record).portfolioId) := by
  unfold mergedRecord
  rw [hrequested.evaluationId]
  rcases hstored : recordOf tables.records (request.evaluationId services) with _ | stored
  · exact ⟨rfl, rfl, hrequested.identity, hrequested.portfolioId⟩
  · obtain ⟨hidentity, hportfolio⟩ := hid stored hstored
    exact ⟨rfl, rfl, hidentity, hportfolio⟩

theorem scope_eq {row other : PolicyEvaluationRecordRow} : row.scope = other.scope ↔
    row.proposalId = other.proposalId ∧ row.proposalVersionId = other.proposalVersionId ∧
      row.portfolioId = other.portfolioId ∧ row.policyPackId = other.policyPackId ∧
      row.policyVersion = other.policyVersion := by
  simp [PolicyEvaluationRecordRow.scope]

/-- A record that a request may repair is blocked for the legal entity, has the scope and the reason
of the request, and was made from other evidence. -/
theorem repairable_spec {old : PolicyEvaluationRecordRow} {portfolioId : Option String}
    (hc : tables.Coherent) (hscoped : tables.Scoped) (hold : old ∈ tables.records)
    (h : canRepairTrustedLegalEntityGap services old.recordJson request portfolioId
      (request.sourceEvidenceHash services) = true) :
    (old.evaluationStatus = .blocked ∧ old.hasLegalEntityGap ∧ old.hasLegalEntityReason) ∧
      (old.proposalId = request.proposalId ∧ old.proposalVersionId = request.proposalVersionId ∧
        old.policyPackId = request.policyPackId ∧ old.policyVersion = request.policyVersion ∧
        some old.portfolioId = portfolioId) ∧
      old.creationReason = some (Json.obj (replaySafeReason request.reason)).canonical ∧
      old.identity ≠ request.identity services := by
  obtain ⟨hidentity, hportfolio⟩ := hscoped old hold
  simp only [canRepairTrustedLegalEntityGap, decide_eq_true_eq] at h
  obtain ⟨-, hblocked, hscope, hreason, -, hchanges, -⟩ := h
  simp only [isLegalEntityGapBlockedRecord, decide_eq_true_eq] at hblocked
  simp only [matchesRecordScope, decide_eq_true_eq] at hscope
  simp only [repairChangesOnlyMissingLegalEntity, decide_eq_true_eq] at hchanges
  simp only [PolicyEvaluationRecord.identity, PolicyEvaluationRecordRow.identity,
    PolicyEvaluationRecordRow.ofRecord, PolicyEvaluationIdentity.mk.injEq] at hidentity
  obtain ⟨hproposal, hversion, hpack, hpackVersion, hevidence⟩ := hidentity
  rw [hproposal, hversion, hpack, hpackVersion, hportfolio] at hscope
  refine ⟨⟨(hc.copied old hold).2.2.symm.trans hblocked.1, hblocked.2⟩, hscope, ?_, ?_⟩
  · -- a missing reason is no object
    rw [repairBase_eq, JsonObject.get] at hreason
    rw [PolicyEvaluationRecordRow.creationReason]
    rcases hlookup : old.recordJson.replayMetadataJson.lookup "creation_reason" with _ | value
    · rw [hlookup] at hreason
      simp [Json.canonical] at hreason
    · rw [hlookup, Option.getD_some] at hreason
      rw [Option.map_some, hreason]
  · intro heq
    exact hchanges.1 (hevidence.trans (congrArg PolicyEvaluationIdentity.sourceEvidenceHash heq)).symm

/-- The condition of the statement on a key that the rule lets a finalization bind again. -/
theorem saveKey_iff (hs : tables.Sound) (hscoped : tables.Scoped)
    (hrequested : record.Requested services request) (hid : request.Identifies services tables)
    (hlets : LetsRebind services collation tables request)
    (hsaved : saveRecords tables (finalizedStore services collation tables request drawn record) =
      .ok records) (createdAt eventId : String) :
    (∃ rows, upsertPolicyEvaluationIdempotency records tables.idempotency ⟨request.idempotencyKey,
        ⟨request.requestHash services, record.evaluationId, eventId⟩, createdAt⟩ = .ok rows) ↔
      CompletesRepair record := by
  obtain ⟨portfolioId, stored, old, hportfolio, hstored, hother, hold, hrule⟩ := hlets.repairs hs.1
  obtain ⟨hblocked, hscope, hreason, hidentity⟩ :=
    repairable_spec hs.1 hscoped (Tables.lookup_some hold).1 hrule
  obtain ⟨hjson, hstatus, hnewIdentity, hnewPortfolio⟩ := mergedRecord_spec hrequested hid
  have hlookups := recordOf_saveRecords (wellKeyed_finalizedStore hs.1) hsaved
  have hnew : recordOf records record.evaluationId = some (mergedRecord tables.records record) := by
    rw [hlookups, finalizedStore, PolicyEvaluationRecordStore.putFinalized, Dict.get?_set_self]
    rfl
  -- the evaluation of the old record is another one, and is saved as it was
  have hne : record.evaluationId ≠ stored.bound.evaluationId := by
    intro heq
    rw [← heq, hrequested.evaluationId] at hold
    exact hidentity (hid old hold).1
  have hkept : recordOf records stored.bound.evaluationId = some old := by
    rw [hlookups, finalizedStore, PolicyEvaluationRecordStore.putFinalized, Dict.get?_set_of_ne hne,
      get?_loadStore_records hs.1, hold, Option.map_some, Option.elim_some]
    rw [← (Tables.lookup_some hold).2] at hold
    rw [mergedRecord_recordJson hs.1 hold]
  generalize mergedRecord tables.records record = new at hnew hjson hstatus hnewIdentity hnewPortfolio
  have hsameScope : old.scope = new.scope := by
    simp only [PolicyEvaluationRecordRow.identity, FinalizeRequest.identity,
      PolicyEvaluationIdentity.mk.injEq] at hnewIdentity
    obtain ⟨hproposal, hversion, hpack, hpackVersion, -⟩ := hnewIdentity
    rw [scope_eq, hproposal, hversion, hpack, hpackVersion]
    refine ⟨hscope.1, hscope.2.1, ?_, hscope.2.2.1, hscope.2.2.2.1⟩
    have hsame := Except.ok.inj (hportfolio.symm.trans hnewPortfolio)
    rw [← hscope.2.2.2.2] at hsame
    exact Option.some.inj hsame
  have hsameReason : old.creationReason = new.creationReason := by
    rw [hreason, PolicyEvaluationRecordRow.creationReason, hjson, hrequested.creationReason]
    rfl
  have hrepairs : Repairs records stored.bound
      ⟨request.requestHash services, record.evaluationId, eventId⟩ ↔ CompletesRepair record := by
    have hrepaired : old.RepairedBy new ↔ CompletesRepair record := by
      rw [CompletesRepair, ← hstatus, ← hjson]
      constructor
      · rintro ⟨-, hready, -, -, -, -, -, hgap, hcode⟩
        exact ⟨hready, hgap, hcode⟩
      · rintro ⟨hready, hgap, hcode⟩
        exact ⟨hblocked.1, hready, hsameScope, by rw [hreason]; rfl, hsameReason, hblocked.2.1,
          hblocked.2.2, hgap, hcode⟩
    constructor
    · rintro ⟨row, hrow, row', hrow', h⟩
      obtain rfl := Option.mem_unique hkept hrow
      obtain rfl := Option.mem_unique hnew hrow'
      exact hrepaired.mp h
    · intro h
      exact ⟨old, hkept, new, hnew, hrepaired.mpr h⟩
  rw [← hrepairs]
  change Tables.lookup _ tables.idempotency _ = _ at hstored
  simp only [upsertPolicyEvaluationIdempotency, checkIdempotency, hstored]
  constructor
  · rintro ⟨rows, h⟩
    obtain ⟨_, hcheck, -⟩ := map_eq_ok.mp h
    refine (require_eq_ok.mp hcheck).resolve_left fun heq => hother ?_
    rw [heq]
  · intro h
    exact ⟨_, map_eq_ok.mpr ⟨(), require_eq_ok.mpr (.inr h), rfl⟩⟩

end Repairs

section Runs

variable {Catalog : Type} {services : PolicyServices Catalog} {collation : LinearOrder String}
  {tables tables' : PolicyEvaluationTables} {call : PolicyEvaluationCommand × Drawn Catalog}

theorem durableStep_cases (h : durableStep services collation tables call = some tables') :
    tables' = tables ∨
      ∃ answer, runDurable services collation tables call.2 call.1 = .ok (answer, tables') := by
  unfold durableStep at h
  split at h
  · next answer saved hrun =>
    obtain rfl := Option.some.inj h
    exact .inr ⟨answer, hrun⟩
  · exact .inl (Option.some.inj h).symm

/-- A key that a snapshot has as it was read stays bound as it was. -/
theorem keyOf_of_read (hs : tables.Sound) {snapshot : PolicyEvaluationRecordStore}
    (hk : WellKeyed snapshot) (hsave : saveSnapshot tables snapshot = .ok tables') {key : String}
    {stored : PolicyEvaluationIdempotencyRow} (hstored : tables.keyOf key = some stored)
    (hread : Dict.get? snapshot.idempotency key =
      Dict.get? (tables.loadStore collation).idempotency key) :
    tables'.keyOf key = some stored := by
  rw [(lookups_of_saveSnapshot hk hsave).2, hread, get?_loadStore_idempotency hs.1, hstored,
    Option.map_some, Option.elim_some, mergedKey_bound hstored]

/-- A command binds a bound key to another request only when the rule lets it. -/
theorem kept_of_runDurable (hs : tables.Sound) {answer : PolicyEvaluationAnswer}
    (h : runDurable services collation tables call.2 call.1 = .ok (answer, tables')) {key : String}
    {stored : PolicyEvaluationIdempotencyRow} (hstored : tables.keyOf key = some stored) :
    ∃ stored', tables'.keyOf key = some stored' ∧
      (stored'.bound ≠ stored.bound → ∃ request, call.1 = .finalize request ∧
        request.idempotencyKey = key ∧ LetsRebind services collation tables request) := by
  obtain ⟨command, drawn⟩ := call
  obtain ⟨snapshot, hrun, hsave⟩ := runDurable_eq_ok.mp h
  have hunchanged : ∀ {snapshot : PolicyEvaluationRecordStore}, WellKeyed snapshot →
      saveSnapshot tables snapshot = .ok tables' → Dict.get? snapshot.idempotency key =
        Dict.get? (tables.loadStore collation).idempotency key →
      ∃ stored', tables'.keyOf key = some stored' ∧
        (stored'.bound ≠ stored.bound → ∃ request, command = .finalize request ∧
          request.idempotencyKey = key ∧ LetsRebind services collation tables request) :=
    fun hk hsave hread => ⟨stored, keyOf_of_read hs hk hsave hstored hread, fun hne => absurd rfl hne⟩
  cases command with
  | appendEvent request =>
    obtain ⟨⟨event, after⟩, happend, heq⟩ := map_eq_ok.mp hrun
    obtain ⟨-, rfl⟩ := Prod.mk.inj heq
    have hby := (append_loadStore hs).mp happend
    refine hunchanged (hby.wellKeyed hs) hsave ?_
    cases hby with
    | replayed => rfl
    | recorded row hrecords =>
      refine get?_appendedStore_other fun hkey => ?_
      rw [hrecords.free key hkey] at hstored
      cases hstored
  | finalize request =>
    obtain ⟨⟨result, after⟩, hfinalize, heq⟩ := map_eq_ok.mp hrun
    obtain ⟨-, rfl⟩ := Prod.mk.inj heq
    have hby := finalize_loadStore.mp hfinalize
    have hk := hby.wellKeyed hs.1
    cases hby with
    | replayed => exact hunchanged hk hsave rfl
    | recorded record hfree hbuilt =>
      by_cases hkey : request.idempotencyKey = key
      · subst hkey
        have hlets : LetsRebind services collation tables request :=
          ⟨by rw [hstored]; rfl, by rw [hfree]; rfl⟩
        have hafter := (lookups_of_saveSnapshot hk hsave).2 request.idempotencyKey
        rw [finalizedStore, PolicyEvaluationRecordStore.putFinalized, Dict.get?_set_self,
          Option.elim_some] at hafter
        exact ⟨_, hafter, fun _ => ⟨request, rfl, rfl, hlets⟩⟩
      · exact hunchanged hk hsave (Dict.get?_set_of_ne hkey)

theorem rulesAgree_of_step (hservices : EvaluatesRequested services) (hs : tables.Sound)
    (hscoped : tables.Scoped) (hid : Identified services tables call tables')
    (h : durableStep services collation tables call = some tables') :
    RulesAgree services collation tables call tables' := by
  constructor
  · intro request hcall hlets result snapshot records hfinalize hsaved bound hbound
    rw [Identified, hcall] at hid
    cases finalize_loadStore.mp hfinalize with
    | replayed event record hfound =>
      have hnone := hlets.2
      rw [hfound] at hnone
      cases hnone
    | recorded record hfree hbuilt =>
      rw [finalizedStore, PolicyEvaluationRecordStore.putFinalized, Dict.get?_set_self] at hbound
      obtain rfl := Option.some.inj hbound
      exact saveKey_iff hs hscoped (requested_of_build hservices hbuilt) hid hlets hsaved _ _
  · intro key stored hstored
    rcases durableStep_cases h with rfl | ⟨answer, hrun⟩
    · exact ⟨stored, hstored, fun hne => absurd rfl hne⟩
    · exact kept_of_runDurable hs hrun hstored

end Runs

namespace RepairSample

def textOf : Json → String
  | .str s => s
  | _ => ""

def policyContextPath : List String := ["context_resolution", "advisory_policy_context"]

/-- A digest of the evidence that an object names, of its legal entity and of its texts. -/
def digest (j : Json) : String :=
  textOf (nestedValue j ["source_evidence_hash"]) ++
    textOf (nestedValue j (policyContextPath ++ ["legal_entity_code"])) ++
    match j with
    | .obj items => items.foldl (fun digest kv => digest ++ textOf kv.2) ""
    | _ => ""

def missingEvidence (evidenceBundle : JsonObject) (others : List String) : List String :=
  if nestedValue (.obj evidenceBundle) (policyContextPath ++ ["legal_entity_code"]) = .null then
    "legal_entity_code" :: others
  else others

/-- An evaluation is blocked while evidence is missing: the legal entity, or what is missing besides
it. -/
def services (others : List String) : PolicyServices Unit where
  sha256 := digest
  dateFromIsoformat := some
  datetimeFromIsoformat text :=
    if text = (Sample.moment 0).isoformat then some (Sample.moment 0).time else none
  dateIn _ t := t.isoDate
  evaluatePolicyPackVersion _ evidenceBundle policyPackId policyVersion :=
    let missing := missingEvidence evidenceBundle others
    .ok
      { contractVersion := "rfc0025.policy-evaluation-engine.v1"
        policyPack := Sample.summary policyPackId policyVersion
        evaluationStatus := if missing = [] then .ready else .blocked
        applicability :=
          { status := if missing = [] then .applicable else .blocked
            matchedSelectors := []
            missingEvidence := missing
            reasonCodes := if "legal_entity_code" ∈ missing then
              ["POLICY_APPLICABILITY_LEGAL_ENTITY_SOURCE_MISSING"] else [] }
        sourcePosture := []
        ruleResults := []
        supportability := [] }
  policyContentHash _ _ _ := .ok "sha256:content"

theorem evaluatesRequested (others : List String) : EvaluatesRequested (services others) := by
  constructor <;>
    · rintro _ _ _ _ _ ⟨⟩
      rfl

def evidenceBundle (policyContext : JsonObject) : JsonObject :=
  [("inputs", .obj [("portfolio_snapshot",
      .obj [("portfolio_id", .str "PB_SG_001"), ("as_of_date", .str "2026-05-25")])]),
    ("context_resolution", .obj [("advisory_policy_context", .obj policyContext)])]

def request (policyContext reason : JsonObject) : FinalizeRequest where
  evidenceBundle := evidenceBundle policyContext
  policyPackId := "SG_REFERENCE"
  policyVersion := "2026.05"
  proposalId := "pp_001"
  proposalVersionId := "ppv_001"
  createdBy := "advisor_1"
  idempotencyKey := "finalize pp_001"
  reason := ("trusted_principal", Sample.principal "advisor_1") :: reason

/-- A finalization without the legal entity. -/
def withGap : PolicyEvaluationCommand × Drawn Unit :=
  (.finalize (request [] []), Sample.drawnAt 0)

/-- The same finalization with the legal entity of the principal, under the same key. -/
def repairRequest : FinalizeRequest :=
  request [("legal_entity_code", .str "REFERENCE")]
    [("system_repair_intent", .obj
      [("repair_code", .str "POLICY_EVALUATION_TRUSTED_LEGAL_ENTITY_BINDING_REPAIR"),
        ("source_gap", .str "legal_entity_code"),
        ("authority_source", .str "trusted_policy_control_principal")])]

def repair : PolicyEvaluationCommand × Drawn Unit := (.finalize repairRequest, Sample.drawnAt 1)

/-- The tables that the repair meets. -/
def reached (others : List String) : Option PolicyEvaluationTables :=
  run (durableStep (services others) inferInstance) .empty [withGap]

/-- The error of the statement that saves the key of the repair. -/
def keyRefused (services : PolicyServices Unit) (tables : PolicyEvaluationTables) :
    Option PolicyPackError := do
  let (_, snapshot) ← ((tables.loadStore inferInstance).finalizePolicyEvaluationRecord services
    repairRequest repair.2).toOption
  let records ← (saveRecords tables snapshot).toOption
  let bound ← Dict.get? snapshot.idempotency repairRequest.idempotencyKey
  match saveKey tables snapshot records repairRequest.idempotencyKey bound with
  | .error error => some error
  | .ok _ => none

end RepairSample

end LotusAdvise.PolicyPacks

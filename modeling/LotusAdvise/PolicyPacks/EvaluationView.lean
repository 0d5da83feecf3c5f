import LotusAdvise.PolicyPacks.WorkflowCommands

/-! # What is stored for each evaluation

Of a repository the workflow sees a record and its audit events, in the order in which they
were appended, and which keys are bound. A command leaves all of it as it was, or replaces
an evaluation that has nothing but finalizations, or appends one event; so do the store in
memory and the tables.
-/

namespace LotusAdvise.PolicyPacks

open PolicyEvaluationTables

structure EvaluationView where
  record : String → Option PolicyEvaluationRecord
  log : String → List PolicyEvaluationAuditEvent
  bound : String → Bool

/-- The outcome of a conflict review in an event's reason. -/
def PolicyEvaluationAuditEvent.conflictReviewOutcome (event : PolicyEvaluationAuditEvent) : Json :=
  JsonObject.get event.reasonJson "conflict_review_outcome"

/-- An event that an append records: what it has of its request. -/
structure PolicyEvaluationAuditEvent.RecordedFor (event : PolicyEvaluationAuditEvent)
    (request : AppendEventRequest) : Prop where
  eventType : event.eventType = request.eventType
  actorId : event.actorId = request.actorId
  reason : ∀ key, key ≠ "idempotency_request_hash" → key ≠ "persistence_contract_version" →
    JsonObject.get event.reasonJson key = JsonObject.get request.reason key

/-- Everything a command can do to what is stored. -/
inductive EvaluationView.Change (view : EvaluationView) :
    PolicyEvaluationCommand → EvaluationView → Prop
  | unchanged (command : PolicyEvaluationCommand) (bound : String → Bool) :
    Change view command { view with bound }
  | finalized (request : FinalizeRequest) (record : PolicyEvaluationRecord)
    (events : List PolicyEvaluationAuditEvent) (bound : String → Bool)
    (all : ∀ event ∈ events, event.eventType = .finalized ∧
      (event ∈ view.log record.evaluationId ∨ event.conflictReviewOutcome = .null)) :
    Change view (.finalize request)
      { record := Function.update view.record record.evaluationId (some record)
        log := Function.update view.log record.evaluationId events
        bound }
  | appended (request : AppendEventRequest) (record : PolicyEvaluationRecord)
    (event : PolicyEvaluationAuditEvent) (bound : String → Bool)
    (stored : view.record request.evaluationId = some record)
    (authorized : validatePolicyEvaluationEventAuthority request.eventType request.reason
      record.evaluationHash request.authority = .ok ())
    (free : ∀ key ∈ request.key?, view.bound key = false) (recorded : event.RecordedFor request) :
    Change view (.appendEvent request)
      { record := Function.update view.record request.evaluationId
          (some (attachPolicyEvaluationEvent record event))
        log := Function.update view.log request.evaluationId
          (view.log request.evaluationId ++ [event])
        bound }

/-- A repository shows what is stored: its reads agree with it, and its commands change it only as
they may. -/
structure PolicyEvaluationRepository.Shows {Catalog S : Type}
    (repository : PolicyEvaluationRepository Catalog S) (inv : S → Prop)
    (view : S → EvaluationView) : Prop where
  getRecord : ∀ s evaluationId record, inv s → repository.getRecord s evaluationId = .ok record →
    (view s).record evaluationId = some record
  listEvents : ∀ s evaluationId events, inv s → repository.listEvents s evaluationId = .ok events →
    events.Perm ((view s).log evaluationId)
  run : ∀ s drawn command answer s', inv s → repository.run s drawn command = .ok (answer, s') →
    inv s' ∧ (view s).Change command (view s')

section Events

variable {Catalog : Type} {services : PolicyServices Catalog} {store : PolicyEvaluationRecordStore}
  {drawn : Drawn Catalog} {record : PolicyEvaluationRecord}

theorem recordedFor_appendedEvent {request : AppendEventRequest} :
    (store.appendedEvent services record request drawn).RecordedFor request := by
  refine ⟨rfl, rfl, fun key hhash hversion => ?_⟩
  change JsonObject.get (JsonObject.set (JsonObject.set request.reason _ _) _ _) key = _
  rw [JsonObject.get_set_of_ne _ _ _ _ hversion, JsonObject.get_set_of_ne _ _ _ _ hhash]

theorem finalizedEvent_conflictReviewOutcome {request : FinalizeRequest} :
    (store.finalizedEvent services record request drawn).conflictReviewOutcome = .null := by
  unfold PolicyEvaluationAuditEvent.conflictReviewOutcome
  change JsonObject.get (JsonObject.set (JsonObject.set _ _ _) _ _) _ = _
  rw [JsonObject.get_set_of_ne _ _ _ _ (by decide), JsonObject.get_set_of_ne _ _ _ _ (by decide)]
  unfold PolicyEvaluationRecordStore.trustedPrincipalFromReason
  split <;> simp [JsonObject.get_cons]

end Events

section InMemory

variable {Catalog : Type} {services : PolicyServices Catalog}
  {store store' : PolicyEvaluationRecordStore} {drawn : Drawn Catalog}

def PolicyEvaluationRecordStore.view (store : PolicyEvaluationRecordStore) : EvaluationView where
  record := Dict.get? store.records
  log := store.eventsOf
  bound key := (Dict.get? store.idempotency key).isSome

theorem get?_set_eq_update {K V : Type} [DecidableEq K] (d : Dict K V) (k : K) (v : V) :
    Dict.get? (Dict.set d k v) = Function.update (Dict.get? d) k (some v) := by
  funext k'
  rw [Dict.get?_set, Function.update_apply]
  simp only [eq_comm]

theorem eventsOf_set_eq_update {events : Dict String (List PolicyEvaluationAuditEvent)}
    {evaluationId : String} {group : List PolicyEvaluationAuditEvent} :
    (fun id => (Dict.get? (Dict.set events evaluationId group) id).getD []) =
      Function.update (fun id => (Dict.get? events id).getD []) evaluationId group := by
  funext id
  rw [Dict.get?_set, Function.update_apply]
  simp only [eq_comm (a := id)]
  split <;> rfl

/-- A bound key is replayed by an append, or is a conflict. -/
theorem free_of_append {request : AppendEventRequest} {evaluationHash : String}
    (h : (request.key?.elim (.ok none) fun key => store.findReplayedEvent services key
      (request.requestHash services evaluationHash) (.event request evaluationHash)) = .ok none) :
    ∀ key ∈ request.key?, store.view.bound key = false := by
  intro key hkey
  rw [Option.mem_def.mp hkey, Option.elim_some] at h
  unfold PolicyEvaluationRecordStore.findReplayedEvent at h
  split at h
  · next hnone =>
    change (Dict.get? store.idempotency key).isSome = false
    rw [hnone]
    rfl
  · obtain ⟨⟨record, event⟩, -, h⟩ := bind_eq_ok.mp h
    dsimp only at h
    split at h
    · cases h
    · split at h
      · next hskip => exact absurd hskip Bool.false_ne_true
      · cases h

theorem view_change_of_run {command : PolicyEvaluationCommand} {answer : PolicyEvaluationAnswer}
    (h : store.run services drawn command = .ok (answer, store')) :
    store.view.Change command store'.view := by
  cases command with
  | finalize request =>
    obtain ⟨⟨result, after⟩, hfinalize, heq⟩ := map_eq_ok.mp h
    obtain ⟨-, rfl⟩ := Prod.mk.inj heq
    obtain ⟨portfolioId, -, h⟩ := bind_eq_ok.mp hfinalize
    obtain ⟨replayed, -, h⟩ := bind_eq_ok.mp h
    split at h
    · obtain ⟨-, rfl⟩ := Prod.mk.inj (Except.ok.inj h)
      exact .unchanged _ _
    · obtain ⟨record, -, h⟩ := bind_eq_ok.mp h
      obtain ⟨events, -, h⟩ := bind_eq_ok.mp h
      split at h
      · cases h
      · obtain ⟨-, rfl⟩ := Prod.mk.inj (Except.ok.inj h)
        exact .unchanged _ _
    · obtain ⟨record, -, h⟩ := bind_eq_ok.mp h
      obtain ⟨-, rfl⟩ := Prod.mk.inj (Except.ok.inj h)
      have hview : (store.putFinalized services record request
          (store.finalizedEvent services record request drawn)).view =
          { record := Function.update store.view.record record.evaluationId (some record)
            log := Function.update store.view.log record.evaluationId
              [store.finalizedEvent services record request drawn]
            bound := (store.putFinalized services record request
              (store.finalizedEvent services record request drawn)).view.bound } := by
        unfold PolicyEvaluationRecordStore.view PolicyEvaluationRecordStore.putFinalized
        congr 1
        · exact get?_set_eq_update _ _ _
        · exact eventsOf_set_eq_update
      rw [hview]
      refine .finalized request record _ _ fun event hevent => ?_
      rw [List.mem_singleton.mp hevent]
      exact ⟨rfl, .inr finalizedEvent_conflictReviewOutcome⟩
  | appendEvent request =>
    obtain ⟨⟨event, after⟩, happend, heq⟩ := map_eq_ok.mp h
    obtain ⟨-, rfl⟩ := Prod.mk.inj heq
    obtain ⟨record, hrecord, h⟩ := bind_eq_ok.mp happend
    obtain ⟨⟨⟩, hauthorized, h⟩ := bind_eq_ok.mp h
    obtain ⟨replayed, hreplayed, h⟩ := bind_eq_ok.mp h
    split at h
    · obtain ⟨-, rfl⟩ := Prod.mk.inj (Except.ok.inj h)
      exact .unchanged _ _
    · obtain ⟨events, hevents, h⟩ := bind_eq_ok.mp h
      obtain ⟨-, rfl⟩ := Prod.mk.inj (Except.ok.inj h)
      have hlog : store.view.log request.evaluationId = events := by
        change (Dict.get? store.events request.evaluationId).getD [] = events
        rw [PolicyEvaluationRecordStore.loadEvents_eq_ok.mp hevents, Option.getD_some]
      have hview : (store.putAppended services record events request
          (store.appendedEvent services record request drawn)).view =
          { record := Function.update store.view.record request.evaluationId (some
              (attachPolicyEvaluationEvent record
                (store.appendedEvent services record request drawn)))
            log := Function.update store.view.log request.evaluationId
              (store.view.log request.evaluationId ++
                [store.appendedEvent services record request drawn])
            bound := (store.putAppended services record events request
              (store.appendedEvent services record request drawn)).view.bound } := by
        rw [hlog]
        unfold PolicyEvaluationRecordStore.view PolicyEvaluationRecordStore.putAppended
        congr 1
        · exact get?_set_eq_update _ _ _
        · exact eventsOf_set_eq_update
      rw [hview]
      exact .appended request record _ _ (PolicyEvaluationRecordStore.loadRecord_eq_ok.mp hrecord)
        hauthorized (free_of_append hreplayed) recordedFor_appendedEvent

theorem inMemory_shows : (inMemoryRepository services).Shows (fun _ => True)
    PolicyEvaluationRecordStore.view where
  getRecord _ _ _ _ h := PolicyEvaluationRecordStore.loadRecord_eq_ok.mp h
  listEvents store evaluationId events _ h := by
    obtain ⟨record, -, hevents⟩ := bind_eq_ok.mp h
    change events.Perm ((Dict.get? store.events evaluationId).getD [])
    rw [PolicyEvaluationRecordStore.loadEvents_eq_ok.mp hevents, Option.getD_some]
  run _ _ _ _ _ _ h := ⟨trivial, view_change_of_run h⟩

end InMemory

section Durable

variable {Catalog : Type} {services : PolicyServices Catalog} {collation : LinearOrder String}
  {tables tables' : PolicyEvaluationTables} {drawn : Drawn Catalog}

def PolicyEvaluationTables.view (tables : PolicyEvaluationTables) : EvaluationView where
  record evaluationId :=
    (recordOf tables.records evaluationId).map PolicyEvaluationRecordRow.recordJson
  log := logOf tables.events
  bound key := (tables.keyOf key).isSome

theorem Unchanged.view_eq (h : Unchanged tables tables') :
    tables'.view = { tables.view with bound := tables'.view.bound } := by
  unfold PolicyEvaluationTables.view
  congr 1
  · funext evaluationId
    rw [h.records]
  · rw [h.events]

theorem log_concat {event : PolicyEvaluationAuditEvent}
    (h : tables'.events = tables.events ++ [event]) :
    tables'.view.log = Function.update tables.view.log event.evaluationId
      (tables.view.log event.evaluationId ++ [event]) := by
  funext evaluationId
  change logOf tables'.events evaluationId = _
  rw [h, logOf_concat, Function.update_apply]
  split
  · next heq => rw [if_pos heq.symm, heq]; rfl
  · next hne => rw [if_neg fun heq => hne heq.symm]; rfl

theorem RecordedIn.view_eq {request : FinalizeRequest} {record : PolicyEvaluationRecord}
    {event : PolicyEvaluationAuditEvent} (h : RecordedIn services tables request record event tables')
    (hown : event.evaluationId = record.evaluationId) :
    tables'.view =
      { record := Function.update tables.view.record record.evaluationId (some record)
        log := Function.update tables.view.log record.evaluationId
          (tables.view.log record.evaluationId ++ [event])
        bound := tables'.view.bound } := by
  have hrecord : tables'.view.record =
      Function.update tables.view.record record.evaluationId (some record) := by
    funext evaluationId
    change (recordOf tables'.records evaluationId).map _ = _
    rw [Function.update_apply]
    split
    · next heq =>
      rw [heq, h.stored, Option.map_some]
      unfold mergedRecord
      cases recordOf tables.records record.evaluationId <;> rfl
    · next hne => rw [h.records _ hne]; rfl
  have hlog := log_concat h.events
  rw [hown] at hlog
  rw [← hlog, ← hrecord]

theorem Recorded.view_eq {request : AppendEventRequest} {row : PolicyEvaluationRecordRow}
    {event : PolicyEvaluationAuditEvent} (h : Recorded services tables request event row tables')
    (hown : event.evaluationId = request.evaluationId) :
    tables'.view =
      { record := Function.update tables.view.record request.evaluationId
          (some (attachPolicyEvaluationEvent row.recordJson event))
        log := Function.update tables.view.log request.evaluationId
          (tables.view.log request.evaluationId ++ [event])
        bound := tables'.view.bound } := by
  have hrecord : tables'.view.record = Function.update tables.view.record request.evaluationId
      (some (attachPolicyEvaluationEvent row.recordJson event)) := by
    funext evaluationId
    change (recordOf tables'.records evaluationId).map _ = _
    rw [Function.update_apply]
    split
    · next heq =>
      rw [heq, h.record, Option.map_some]
      rfl
    · next hne => rw [h.records _ hne]; rfl
  have hlog := log_concat h.events
  rw [hown] at hlog
  rw [← hlog, ← hrecord]

theorem view_change_of_runDurable (hs : tables.Sound) {command : PolicyEvaluationCommand}
    {answer : PolicyEvaluationAnswer}
    (h : runDurable services collation tables drawn command = .ok (answer, tables')) :
    tables.view.Change command tables'.view := by
  cases command with
  | finalize request =>
    cases answer with
    | appended event =>
      obtain ⟨snapshot, hrun, -⟩ := runDurable_eq_ok.mp h
      obtain ⟨_, -, heq⟩ := map_eq_ok.mp hrun
      cases heq
    | finalized result =>
      obtain ⟨⟨snapshot, hby⟩, ⟨-, hunchanged⟩ | ⟨hcreated, hrecorded⟩⟩ := runDurable_finalize hs h
      · rw [hunchanged.view_eq]
        exact .unchanged _ _
      · cases hby with
        | replayed => cases hcreated
        | recorded record hfree hbuilt =>
          rw [hrecorded.view_eq rfl]
          refine .finalized request record _ _ fun event hevent => ?_
          rcases List.mem_append.mp hevent with hold | hnew
          · exact ⟨hrecorded.earlier event hold, .inl hold⟩
          · rw [List.mem_singleton.mp hnew]
            exact ⟨rfl, .inr finalizedEvent_conflictReviewOutcome⟩
  | appendEvent request =>
    cases answer with
    | finalized result =>
      obtain ⟨snapshot, hrun, -⟩ := runDurable_eq_ok.mp h
      obtain ⟨_, -, heq⟩ := map_eq_ok.mp hrun
      cases heq
    | appended event =>
      obtain ⟨snapshot, -, -, hby, heffect⟩ := runDurable_append hs h
      cases heffect with
      | unchanged _ hsame =>
        rw [hsame.view_eq]
        exact .unchanged _ _
      | recorded row hrow hown hnew hrecorded =>
        rw [hrecorded.view_eq hown]
        cases hby with
        | replayed _ _ _ hreplays => exact absurd (Tables.lookup_some hreplays.found).1 hnew
        | recorded row' h =>
          obtain rfl := Option.some.inj (hrow.symm.trans h.record)
          refine .appended request row.recordJson event _ ?_ h.authorized (fun key hkey => ?_) ?_
          · change (recordOf tables.records request.evaluationId).map _ = _
            rw [hrow, Option.map_some]
          · change (tables.keyOf key).isSome = false
            rw [h.free key hkey]
            rfl
          · rw [h.event_eq]
            exact recordedFor_appendedEvent

theorem durable_shows : (durableRepository services collation).Shows
    PolicyEvaluationTables.Sound PolicyEvaluationTables.view where
  getRecord tables evaluationId record hs h := by
    have hget := PolicyEvaluationRecordStore.loadRecord_eq_ok.mp h
    rwa [get?_loadStore_records hs.1] at hget
  listEvents tables evaluationId events _ h := by
    obtain ⟨record, -, hevents⟩ := bind_eq_ok.mp h
    have hget := PolicyEvaluationRecordStore.loadEvents_eq_ok.mp hevents
    have hperm : ((tables.loadStore collation).eventsOf evaluationId).Perm _ :=
      eventsOf_loadStore_perm
    rwa [PolicyEvaluationRecordStore.eventsOf, hget, Option.getD_some] at hperm
  run _ _ _ _ _ hs h := ⟨hs.runDurable h, view_change_of_runDurable hs h⟩

end Durable

end LotusAdvise.PolicyPacks

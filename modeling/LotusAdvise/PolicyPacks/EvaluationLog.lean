import LotusAdvise.PolicyPacks.EvaluationWorkers

/-! # Records follow their audit log

The events of an evaluation are numbered in the order in which they are appended, and a
record that is saved has attached the events that its snapshot has. The transaction compares
the number of stored events with that of the snapshot, so that it never overwrites a record
with one that misses an event, as long as the records and the events of the snapshot belong
together. They are read by separate queries: when a commit between the two attaches an event
to a record that is already read, the snapshot counts the event and its record lacks it.
-/

namespace LotusAdvise.PolicyPacks

open Runs Workers PolicyEvaluationTables

/-- Every stored record lists exactly the stored events of its evaluation, type by type in the order
of their numbers. -/
structure RecordsFollowLog (tables : PolicyEvaluationTables) : Prop where
  numbered : ∀ evaluationId, Numbered eventIdOf PolicyEvaluationAuditEvent.eventId
    (logOf tables.events evaluationId)
  follows : ∀ row ∈ tables.records,
    row.recordJson.Follows (logOf tables.events row.evaluationId)

/-- The event of every command that returned is stored, and its key is bound to the event, or to an
evaluation of the same scope that repaired the one of the event. -/
def NothingMissing (pool : Pool PolicyEvaluationTables EvaluationStage) : Prop :=
  ∀ i command answer, pool.worker i = some (.returned command answer) →
    answer.event ∈ pool.store.events ∧ ∀ key ∈ command.key?, ∃ row ∈ pool.store.keyOf key,
      BoundTo pool.store.records answer.event.evaluationId answer.event.eventId row.bound

/-- The records list the same events. -/
def PolicyEvaluationRecord.SameLists (record other : PolicyEvaluationRecord) : Prop :=
  record.reviewEventsJson = other.reviewEventsJson ∧
    record.signOffEventsJson = other.signOffEventsJson ∧
    record.reportArchiveRefsJson = other.reportArchiveRefsJson

instance (record other : PolicyEvaluationRecord) : Decidable (record.SameLists other) :=
  inferInstanceAs (Decidable (_ ∧ _))

/-- When the events are read, no record that was read before has got another event. -/
def LoadsWhole {Input : Type} (tables : PolicyEvaluationTables) (stage : EvaluationStage)
    (_ : Input) : Prop :=
  match stage with
  | .selectEvents _ records => ∀ item ∈ records, ∀ row ∈ recordOf tables.records item.1,
    item.2.SameLists row.recordJson
  | _ => True

instance {Input : Type} (tables : PolicyEvaluationTables) (stage : EvaluationStage)
    (input : Input) : Decidable (LoadsWhole tables stage input) := by
  unfold LoadsWhole
  cases stage <;> infer_instance

namespace PolicyEvaluationTables

/-- The invariant of the tables. -/
structure Consistent (tables : PolicyEvaluationTables) : Prop where
  keyed : (tables.records.map PolicyEvaluationRecordRow.evaluationId).Nodup
  numbered : ∀ evaluationId, Numbered eventIdOf PolicyEvaluationAuditEvent.eventId
    (logOf tables.events evaluationId)
  recorded : ∀ evaluationId row, recordOf tables.records evaluationId = some row →
    row.recordJson.evaluationId = evaluationId ∧
    row.recordJson.Follows (logOf tables.events evaluationId) ∧
    ∃ first ∈ (logOf tables.events evaluationId).head?, first.eventType = .finalized
  known : ∀ event ∈ tables.events, (recordOf tables.records event.evaluationId).isSome

/-- What a snapshot that was read whole knows: of each evaluation, a part of the log as it was when
the events were read, which its record follows. -/
structure Loaded (tables : PolicyEvaluationTables) (records : Dict String PolicyEvaluationRecord)
    (events : Dict String (List PolicyEvaluationAuditEvent)) : Prop where
  grouped : ∀ evaluationId group, (evaluationId, group) ∈ events → ∀ event ∈ group,
    event ∈ tables.events ∧ event.evaluationId = evaluationId
  seen : ∀ evaluationId, ∃ seen, seen <+: logOf tables.events evaluationId ∧
    ((Dict.get? events evaluationId).getD []).length = seen.length ∧
    ∀ record, (evaluationId, record) ∈ records → record.evaluationId = evaluationId ∧
      record.Follows seen ∧ (recordOf tables.records evaluationId).isSome

section Logs

variable {tables tables' : PolicyEvaluationTables} {events events' : List PolicyEvaluationAuditEvent}
  {event : PolicyEvaluationAuditEvent} {evaluationId : String}

theorem isPrefix_logOf (h : events <+: events') (evaluationId : String) :
    logOf events evaluationId <+: logOf events' evaluationId :=
  h.filter _

theorem logOf_concat : logOf (events ++ [event]) evaluationId =
    if event.evaluationId = evaluationId then logOf events evaluationId ++ [event]
    else logOf events evaluationId := by
  rw [logOf, List.filter_append]
  split
  · next h => simp [h, logOf]
  · next h => simp [h, logOf]

theorem mem_logOf : event ∈ logOf events evaluationId ↔
    event ∈ events ∧ event.evaluationId = evaluationId := by
  simp [logOf]

theorem Grows.refl (tables : PolicyEvaluationTables) : Grows tables tables :=
  ⟨List.prefix_rfl, fun _ row h => ⟨row, h, rfl⟩, fun _ row h => ⟨row, h, .self⟩⟩

theorem Loaded.grows {records : Dict String PolicyEvaluationRecord}
    {events : Dict String (List PolicyEvaluationAuditEvent)} (h : Loaded tables records events)
    (hgrows : Grows tables tables') : Loaded tables' records events := by
  constructor
  · intro evaluationId group hgroup event hevent
    obtain ⟨hmem, hid⟩ := h.grouped evaluationId group hgroup event hevent
    exact ⟨hgrows.events.subset hmem, hid⟩
  · intro evaluationId
    obtain ⟨seen, hseen, hlength, hrecords⟩ := h.seen evaluationId
    refine ⟨seen, hseen.trans (isPrefix_logOf hgrows.events evaluationId), hlength, ?_⟩
    intro record hrecord
    obtain ⟨hid, hfollows, hstored⟩ := hrecords record hrecord
    obtain ⟨row, hrow⟩ := Option.isSome_iff_exists.mp hstored
    obtain ⟨row', hrow', -⟩ := hgrows.records evaluationId row hrow
    exact ⟨hid, hfollows, by rw [hrow', Option.isSome_some]⟩

theorem Loaded.evaluationId_eq {records : Dict String PolicyEvaluationRecord}
    {events : Dict String (List PolicyEvaluationAuditEvent)} (h : Loaded tables records events)
    {record : PolicyEvaluationRecord} (hrecord : (evaluationId, record) ∈ records) :
    record.evaluationId = evaluationId := by
  obtain ⟨_, _, _, hrecords⟩ := h.seen evaluationId
  exact (hrecords record hrecord).1

/-- An evaluation keeps its first event. -/
theorem head?_logOf (h : events <+: events') (hevent : event ∈ (logOf events evaluationId).head?) :
    event ∈ (logOf events' evaluationId).head? := by
  obtain ⟨rest, heq⟩ := isPrefix_logOf h evaluationId
  rw [← heq, List.head?_append, Option.mem_def.mp hevent, Option.some_or]
  rfl

end Logs

section Save

variable {tables tables' : PolicyEvaluationTables} {loaded snapshot : PolicyEvaluationRecordStore}
  {key? : Option String} {event : PolicyEvaluationAuditEvent} {evaluationId : String}
  {record : PolicyEvaluationRecord}

/-- The event of a command is stored already, or appended under a free number; the logs of the
other evaluations stay as they are. -/
theorem Saved.log (hs : Saved tables snapshot tables')
    (hl : Loaded tables loaded.records loaded.events) (hstep : loaded.Step key? event snapshot) :
    tables.events <+: tables'.events ∧
    (∀ evaluationId, evaluationId ≠ event.evaluationId →
      logOf tables'.events evaluationId = logOf tables.events evaluationId) ∧
    (event ∈ logOf tables.events event.evaluationId ∧
        logOf tables'.events event.evaluationId = logOf tables.events event.evaluationId ∨
      (∀ other ∈ logOf tables.events event.evaluationId, other.eventId ≠ event.eventId) ∧
        logOf tables'.events event.evaluationId =
          logOf tables.events event.evaluationId ++ [event]) := by
  have hnew : ∀ other ∈ snapshot.events.flatMap Prod.snd, other ∈ tables.events ∨ other = event := by
    intro other hother
    refine (hstep.mem_events hother).imp_left fun hmem => ?_
    obtain ⟨⟨evaluationId, group⟩, hgroup, hmem⟩ := List.mem_flatMap.mp hmem
    exact (hl.grouped evaluationId group hgroup other hmem).1
  obtain ⟨hevents, hstored⟩ := hs.events event hnew
  have hmem : event ∈ tables'.events := hstored event hstep.event_mem
  rcases hevents with heq | ⟨hfree, heq⟩
  · rw [heq] at hmem ⊢
    exact ⟨List.prefix_rfl, fun _ _ => rfl, .inl ⟨mem_logOf.mpr ⟨hmem, rfl⟩, rfl⟩⟩
  · rw [heq]
    refine ⟨List.prefix_append _ _, fun evaluationId hne => ?_, .inr ⟨?_, ?_⟩⟩
    · rw [logOf_concat, if_neg hne.symm]
    · intro other hother hid
      obtain ⟨hother, heval⟩ := mem_logOf.mp hother
      exact Tables.lookup_eq_none.mp hfree other hother (Prod.ext heval hid)
    · rw [logOf_concat, if_pos rfl]

/-- A record of a snapshot that the transaction lets through follows the stored log, unless the
command has touched it. -/
theorem Loaded.whole (hc : tables.Consistent) (hl : Loaded tables loaded.records loaded.events)
    (hitem : (evaluationId, record) ∈ loaded.records)
    (hguard : recordOf tables.records evaluationId = none ∨
      (logOf tables.events evaluationId).length ≤ (loaded.eventsOf evaluationId).length) :
    record.Follows (logOf tables.events evaluationId) ∧
      ∃ first ∈ (logOf tables.events evaluationId).head?, first.eventType = .finalized := by
  obtain ⟨seen, hseen, hlength, hrecords⟩ := hl.seen evaluationId
  obtain ⟨-, hfollows, hstored⟩ := hrecords record hitem
  obtain ⟨row, hrow⟩ := Option.isSome_iff_exists.mp hstored
  rw [hrow] at hguard
  have hcount := hguard.resolve_left nofun
  have hall : seen = logOf tables.events evaluationId :=
    hseen.eq_of_length_le (hcount.trans hlength.le)
  exact ⟨hall ▸ hfollows, (hc.recorded evaluationId row hrow).2.2⟩

/-- What may be replaced by a fresh record has no event but its finalization. -/
theorem Consistent.finalized_of_count (hc : tables.Consistent)
    (hguard : recordOf tables.records evaluationId = none ∨
      (logOf tables.events evaluationId).length ≤ 1)
    (hevent : event ∈ logOf tables.events evaluationId) : event.eventType = .finalized := by
  obtain ⟨hmem, hid⟩ := mem_logOf.mp hevent
  obtain ⟨row, hrow⟩ := Option.isSome_iff_exists.mp (hid ▸ hc.known event hmem)
  rw [hrow] at hguard
  have hcount := hguard.resolve_left nofun
  obtain ⟨-, -, first, hfirst, htype⟩ := hc.recorded evaluationId row hrow
  rcases hlog : logOf tables.events evaluationId with _ | ⟨head, _ | ⟨second, rest⟩⟩
  · rw [hlog] at hevent
    cases hevent
  · rw [hlog] at hevent hfirst
    obtain rfl := List.mem_singleton.mp hevent
    obtain rfl := Option.some.inj hfirst
    exact htype
  · rw [hlog] at hcount
    simp at hcount

/-- The invariant holds after a transaction if every record that it let through follows the new
log, and only logs of such records have changed. -/
theorem Consistent.of_saved (hc : tables.Consistent) (hs : Saved tables snapshot tables')
    (hgrown : tables.events <+: tables'.events)
    (hnumbered : ∀ evaluationId, Numbered eventIdOf PolicyEvaluationAuditEvent.eventId
      (logOf tables'.events evaluationId))
    (hitems : ∀ item ∈ snapshot.records,
      (recordOf tables.records item.2.evaluationId = none ∨
        (logOf tables.events item.2.evaluationId).length ≤
          (snapshot.eventsOf item.2.evaluationId).length) →
      item.2.Follows (logOf tables'.events item.2.evaluationId) ∧
        ∃ first ∈ (logOf tables'.events item.2.evaluationId).head?, first.eventType = .finalized)
    (hchanged : ∀ evaluationId, (∃ item ∈ snapshot.records, item.2.evaluationId = evaluationId) ∨
      logOf tables'.events evaluationId = logOf tables.events evaluationId) :
    tables'.Consistent := by
  refine ⟨hs.keyed hc.keyed, hnumbered, ?_, ?_⟩
  · intro evaluationId row hrow
    rcases hs.row evaluationId row hrow with ⟨item, hitem, rfl, hjson, hguard⟩ | ⟨hold, hother⟩
    · rw [hjson]
      exact ⟨rfl, hitems item hitem hguard⟩
    · rcases hchanged evaluationId with ⟨item, hitem, hid⟩ | hsame
      · exact absurd hid (hother item hitem)
      · rw [hsame]
        exact hc.recorded evaluationId row hold
  · intro event hevent
    rcases hchanged event.evaluationId with ⟨item, hitem, hid⟩ | hsame
    · rw [← hid]
      exact hs.stored item hitem
    · have hlog : event ∈ logOf tables.events event.evaluationId := by
        rw [← hsame]
        exact mem_logOf.mpr ⟨hevent, rfl⟩
      obtain ⟨row, hrow⟩ := Option.isSome_iff_exists.mp (hc.known event (mem_logOf.mp hlog).1)
      obtain ⟨row', hrow', -⟩ := hs.kept event.evaluationId row hrow
      rw [hrow', Option.isSome_some]

/-- A transaction of a snapshot that only has stored events changes no log. -/
theorem Saved.consistent_of_stored (hc : tables.Consistent)
    (hl : Loaded tables loaded.records loaded.events) (hs : Saved tables snapshot tables')
    (hrecords : snapshot.records = loaded.records) (hevents : snapshot.events = loaded.events)
    (hgrown : tables.events <+: tables'.events)
    (hsame : ∀ evaluationId,
      logOf tables'.events evaluationId = logOf tables.events evaluationId) :
    tables'.Consistent := by
  refine hc.of_saved hs hgrown (fun evaluationId => hsame evaluationId ▸ hc.numbered evaluationId)
    (fun item hitem hguard => ?_) fun evaluationId => .inr (hsame evaluationId)
  rw [hrecords] at hitem
  have hid : item.2.evaluationId = item.1 := hl.evaluationId_eq hitem
  rw [hid] at hguard ⊢
  rw [hsame]
  refine hl.whole hc hitem ?_
  rwa [PolicyEvaluationRecordStore.eventsOf, hevents] at hguard

theorem Saved.consistent_of_finalized (hc : tables.Consistent)
    (hl : Loaded tables loaded.records loaded.events) (hs : Saved tables snapshot tables')
    (hstep : loaded.Step key? event snapshot)
    (hrecords : snapshot.records = Dict.set loaded.records record.evaluationId record)
    (hevents : snapshot.events = Dict.set loaded.events record.evaluationId [event])
    (hunattached : record.reviewEventsJson = [] ∧ record.signOffEventsJson = [] ∧
      record.reportArchiveRefsJson = [])
    (htype : event.eventType = .finalized) (hevent : event.evaluationId = record.evaluationId)
    (hnumber : event.eventId = eventIdOf ((loaded.eventsOf record.evaluationId).length + 1)) :
    tables'.Consistent := by
  obtain ⟨hgrown, hsame, hwrite⟩ := hs.log hl hstep
  rw [hevent] at hsame hwrite
  obtain ⟨seen, hseen, hlength, -⟩ := hl.seen record.evaluationId
  rw [PolicyEvaluationRecordStore.eventsOf, hlength] at hnumber
  refine hc.of_saved hs hgrown (fun evaluationId => ?_) (fun item hitem hguard => ?_)
    fun evaluationId => ?_
  · by_cases hid : evaluationId = record.evaluationId
    · rw [hid]
      exact (hc.numbered _).write hseen hnumber hwrite
    · rw [hsame evaluationId hid]
      exact hc.numbered evaluationId
  · obtain ⟨evaluationId, other⟩ := item
    rw [hrecords] at hitem
    rcases Dict.mem_set hitem with ⟨rfl, rfl⟩ | ⟨hne, hold⟩
    · -- the fresh record replaces one that has been finalized and nothing else
      have hcount : recordOf tables.records other.evaluationId = none ∨
          (logOf tables.events other.evaluationId).length ≤ 1 := by
        rwa [PolicyEvaluationRecordStore.eventsOf, hevents, Dict.get?_set_self] at hguard
      have hall : ∀ e ∈ logOf tables'.events other.evaluationId, e.eventType = .finalized := by
        intro e he
        rcases hwrite with ⟨-, heq⟩ | ⟨-, heq⟩ <;> rw [heq] at he
        · exact hc.finalized_of_count hcount he
        · rcases List.mem_append.mp he with he | he
          · exact hc.finalized_of_count hcount he
          · rw [List.mem_singleton.mp he, htype]
      refine ⟨follows_of_finalized hunattached.1 hunattached.2.1 hunattached.2.2 hall, ?_⟩
      have hmem : event ∈ logOf tables'.events other.evaluationId := by
        rcases hwrite with ⟨hmem, heq⟩ | ⟨-, heq⟩ <;> rw [heq]
        · exact hmem
        · simp
      obtain ⟨first, rest, hlog⟩ := List.exists_cons_of_ne_nil (List.ne_nil_of_mem hmem)
      exact ⟨first, by rw [hlog]; rfl, hall first (by rw [hlog]; simp)⟩
    · have hid := hl.evaluationId_eq hold
      simp only [hid] at hguard ⊢
      rw [hsame evaluationId hne]
      refine hl.whole hc hold ?_
      rwa [PolicyEvaluationRecordStore.eventsOf, hevents, Dict.get?_set_of_ne (Ne.symm hne)]
        at hguard
  · by_cases hid : evaluationId = record.evaluationId
    · refine .inl ⟨(record.evaluationId, record), ?_, hid.symm⟩
      rw [hrecords]
      exact Dict.mem_of_get? Dict.get?_set_self
    · exact .inr (hsame evaluationId hid)

theorem Saved.consistent_of_appended (hc : tables.Consistent)
    (hl : Loaded tables loaded.records loaded.events) (hs : Saved tables snapshot tables')
    (hstep : loaded.Step key? event snapshot) {events : List PolicyEvaluationAuditEvent}
    (hrecords : snapshot.records =
      Dict.set loaded.records evaluationId (attachPolicyEvaluationEvent record event))
    (hevents : snapshot.events = Dict.set loaded.events evaluationId (events ++ [event]))
    (hstored : Dict.get? loaded.records evaluationId = some record)
    (hlisted : Dict.get? loaded.events evaluationId = some events)
    (hevent : event.evaluationId = record.evaluationId)
    (hnumber : event.eventId = eventIdOf ((loaded.eventsOf record.evaluationId).length + 1)) :
    tables'.Consistent := by
  obtain ⟨hgrown, hsame, hwrite⟩ := hs.log hl hstep
  obtain ⟨seen, hseen, hlength, hseenRecords⟩ := hl.seen evaluationId
  obtain ⟨hid, hfollows, hrow⟩ := hseenRecords record (Dict.mem_of_get? hstored)
  obtain ⟨row, hrow⟩ := Option.isSome_iff_exists.mp hrow
  rw [hevent, hid] at hsame hwrite
  rw [hid, PolicyEvaluationRecordStore.eventsOf, hlength] at hnumber
  rw [hlisted, Option.getD_some] at hlength
  refine hc.of_saved hs hgrown (fun other => ?_) (fun item hitem hguard => ?_) fun other => ?_
  · by_cases hother : other = evaluationId
    · rw [hother]
      exact (hc.numbered _).write hseen hnumber hwrite
    · rw [hsame other hother]
      exact hc.numbered other
  · obtain ⟨other, otherRecord⟩ := item
    rw [hrecords] at hitem
    rcases Dict.mem_set hitem with ⟨rfl, rfl⟩ | ⟨hne, hold⟩
    · -- nobody has appended an event that this command did not see
      simp only [attach_evaluationId, hid] at hguard ⊢
      rw [hrow] at hguard
      have hcount : (logOf tables.events other).length ≤ seen.length + 1 := by
        have := hguard.resolve_left nofun
        rwa [PolicyEvaluationRecordStore.eventsOf, hevents, Dict.get?_set_self, Option.getD_some,
          List.length_append, hlength] at this
      have hlog : logOf tables'.events other = seen ++ [event] :=
        (hc.numbered other).eq_seen_concat eventIdOf_injective hseen hcount hnumber hwrite
      refine ⟨hlog ▸ hfollows.attach, ?_⟩
      obtain ⟨-, -, first, hfirst, htype⟩ := hc.recorded other row hrow
      exact ⟨first, head?_logOf hgrown hfirst, htype⟩
    · have hotherId := hl.evaluationId_eq hold
      simp only [hotherId] at hguard ⊢
      rw [hsame other hne]
      refine hl.whole hc hold ?_
      rwa [PolicyEvaluationRecordStore.eventsOf, hevents, Dict.get?_set_of_ne (Ne.symm hne)]
        at hguard
  · by_cases hother : other = evaluationId
    · refine .inl ⟨(evaluationId, attachPolicyEvaluationEvent record event), ?_, ?_⟩
      · rw [hrecords]
        exact Dict.mem_of_get? Dict.get?_set_self
      · rw [attach_evaluationId, hid, hother]
    · exact .inr (hsame other hother)

/-- A key is bound to the event that its command answers with. -/
theorem Loaded.bound_of_step (hl : Loaded tables loaded.records loaded.events)
    (hindex : loaded.identityIndex = []) (hstep : loaded.Step key? event snapshot) {key : String}
    (hkey : key ∈ key?) :
    ∃ bound, (key, bound) ∈ snapshot.idempotency ∧ bound.evaluationId = event.evaluationId ∧
      bound.eventId = event.eventId := by
  cases hstep with
  | replayed key' bound events key_eq stored listed mem eventId_eq =>
    obtain rfl := Option.some.inj (key_eq.symm.trans hkey)
    have hid := (hl.grouped _ _ (Dict.mem_of_get? listed) event mem).2
    exact ⟨bound, Dict.mem_of_get? stored, hid.symm, eventId_eq.symm⟩
  | identified key' requestHash evaluationId identity events key_eq indexed =>
    rw [hindex] at indexed
    cases indexed
  | finalized key' requestHash record index key_eq unattached type evaluationId_eq =>
    obtain rfl := Option.some.inj (key_eq.symm.trans hkey)
    exact ⟨_, Dict.mem_of_get? Dict.get?_set_self, evaluationId_eq.symm, rfl⟩
  | appended evaluationId requestHash record events stored listed type evaluationId_eq =>
    obtain rfl := Option.mem_def.mp hkey
    have hid := hl.evaluationId_eq (Dict.mem_of_get? stored)
    exact ⟨_, Dict.mem_of_get? Dict.get?_set_self, (evaluationId_eq.trans hid).symm, rfl⟩

theorem Saved.consistent (hc : tables.Consistent)
    (hl : Loaded tables loaded.records loaded.events) (hindex : loaded.identityIndex = [])
    (hstep : loaded.Step key? event snapshot) (hs : Saved tables snapshot tables') :
    tables'.Consistent := by
  obtain ⟨hgrown, hother, hwrite⟩ := hs.log hl hstep
  cases hstep' : hstep with
  | replayed key bound events key_eq stored listed mem =>
    -- the event is stored, so that it is not appended
    obtain ⟨hmem, -⟩ := hl.grouped _ _ (Dict.mem_of_get? listed) event mem
    refine hs.consistent_of_stored hc hl rfl rfl hgrown fun evaluationId => ?_
    by_cases hid : evaluationId = event.evaluationId
    · rcases hwrite with ⟨-, heq⟩ | ⟨hfree, -⟩
      · rw [hid, heq]
      · exact absurd rfl (hfree event (mem_logOf.mpr ⟨hmem, rfl⟩))
    · exact hother evaluationId hid
  | identified key requestHash evaluationId identity events key_eq indexed =>
    rw [hindex] at indexed
    cases indexed
  | finalized key requestHash record index key_eq unattached type evaluationId_eq eventId_eq =>
    exact hs.consistent_of_finalized hc hl hstep rfl rfl unattached type evaluationId_eq eventId_eq
  | appended evaluationId requestHash record events stored listed type evaluationId_eq eventId_eq =>
    exact hs.consistent_of_appended hc hl hstep rfl rfl stored listed evaluationId_eq eventId_eq

end Save

/-- The event of a command is stored, and its key is bound. -/
def Kept (tables : PolicyEvaluationTables) (key? : Option String)
    (event : PolicyEvaluationAuditEvent) : Prop :=
  event ∈ tables.events ∧ ∀ key ∈ key?, ∃ row ∈ tables.keyOf key,
    BoundTo tables.records event.evaluationId event.eventId row.bound

section Kept

variable {tables tables' : PolicyEvaluationTables} {loaded snapshot : PolicyEvaluationRecordStore}
  {key? : Option String} {event : PolicyEvaluationAuditEvent}

theorem Kept.grows (h : Kept tables key? event) (hgrows : Grows tables tables') :
    Kept tables' key? event := by
  refine ⟨hgrows.events.subset h.1, fun key hkey => ?_⟩
  obtain ⟨row, hrow, hbound⟩ := h.2 key hkey
  obtain ⟨row', hrow', hbound'⟩ := hgrows.keys key row hrow
  exact ⟨row', hrow', (hbound.kept hgrows.records).trans hbound'⟩

theorem Saved.grows_kept (hs : Saved tables snapshot tables')
    (hl : Loaded tables loaded.records loaded.events) (hindex : loaded.identityIndex = [])
    (hstep : loaded.Step key? event snapshot) :
    Grows tables tables' ∧ Kept tables' key? event := by
  obtain ⟨hgrown, -, hwrite⟩ := hs.log hl hstep
  refine ⟨⟨hgrown, hs.kept, hs.keysKept⟩, ?_, fun key hkey => ?_⟩
  · rcases hwrite with ⟨hmem, -⟩ | ⟨-, heq⟩
    · exact hgrown.subset (mem_logOf.mp hmem).1
    · have hmem : event ∈ logOf tables'.events event.evaluationId := by simp [heq]
      exact (mem_logOf.mp hmem).1
  · obtain ⟨bound, hitem, hid, hevent⟩ := hl.bound_of_step hindex hstep hkey
    obtain ⟨row, hrow, hbound⟩ := hs.keysStored key bound hitem
    exact ⟨row, hrow, hid ▸ hevent ▸ hbound⟩

end Kept

end PolicyEvaluationTables

/-- What a command knows of the tables. -/
def EvaluationStage.Holds (tables : PolicyEvaluationTables) : EvaluationStage → Prop
  | .selectEvents _ records => ∀ item ∈ records,
    item.2.evaluationId = item.1 ∧ (recordOf tables.records item.1).isSome
  | .selectIdempotency _ records events => Loaded tables records events
  | .running _ loaded => Loaded tables loaded.records loaded.events ∧ loaded.identityIndex = []
  | .saving command answer snapshot => ∃ loaded : PolicyEvaluationRecordStore,
    Loaded tables loaded.records loaded.events ∧ loaded.identityIndex = [] ∧
      loaded.Step command.key? answer.event snapshot
  | .returned command answer => Kept tables command.key? answer.event
  | _ => True

section Outline

variable {Catalog : Type} {services : PolicyServices Catalog} {collation : LinearOrder String}
  {tables tables' : PolicyEvaluationTables} {stage stage' : EvaluationStage} {drawn : Drawn Catalog}

theorem EvaluationStage.Holds.grows (h : stage.Holds tables) (hgrows : Grows tables tables') :
    stage.Holds tables' := by
  cases stage with
  | selectEvents command records =>
    intro item hitem
    obtain ⟨hid, hstored⟩ := h item hitem
    obtain ⟨row, hrow⟩ := Option.isSome_iff_exists.mp hstored
    obtain ⟨row', hrow', -⟩ := hgrows.records item.1 row hrow
    exact ⟨hid, by rw [hrow', Option.isSome_some]⟩
  | selectIdempotency command records events => exact Loaded.grows h hgrows
  | running command loaded => exact ⟨h.1.grows hgrows, h.2⟩
  | saving command answer snapshot =>
    obtain ⟨loaded, hl, hindex, hstep⟩ := h
    exact ⟨loaded, hl.grows hgrows, hindex, hstep⟩
  | returned command answer => exact Kept.grows h hgrows
  | selectRecords => trivial
  | raised => trivial

/-- A snapshot whose records are still those stored when the events are read is read whole. -/
theorem loaded_of_loadsWhole (hc : tables.Consistent)
    {records : Dict String PolicyEvaluationRecord}
    (hrecords : ∀ item ∈ records,
      item.2.evaluationId = item.1 ∧ (recordOf tables.records item.1).isSome)
    (hwhole : ∀ item ∈ records, ∀ row ∈ recordOf tables.records item.1,
      item.2.SameLists row.recordJson) :
    Loaded tables records (tables.selectEvents collation) := by
  constructor
  · intro evaluationId group hgroup event hevent
    exact mem_selectEvents hgroup hevent
  · intro evaluationId
    refine ⟨logOf tables.events evaluationId, List.prefix_rfl, length_selectEvents, ?_⟩
    intro record hrecord
    obtain ⟨hid, hstored⟩ := hrecords _ hrecord
    obtain ⟨row, hrow⟩ := Option.isSome_iff_exists.mp hstored
    obtain ⟨hreviews, hsignOffs, hreports⟩ := hwhole _ hrecord row hrow
    obtain ⟨-, hfollows, -⟩ := hc.recorded evaluationId row hrow
    exact ⟨hid, ⟨hreviews.trans hfollows.reviews, hsignOffs.trans hfollows.signOffs,
      hreports.trans hfollows.reportArchives⟩, hstored⟩

/-- A step keeps the invariant, lets the tables grow, and leaves the command with what it knows. -/
theorem holds_of_step (hc : tables.Consistent) (hstage : stage.Holds tables)
    (hwhole : LoadsWhole tables stage drawn)
    (h : stepEvaluation services collation tables stage drawn = some (tables', stage')) :
    tables'.Consistent ∧ Grows tables tables' ∧ stage'.Holds tables' := by
  cases stage with
  | selectRecords command =>
    obtain ⟨rfl, rfl⟩ := Prod.mk.inj (Option.some.inj h)
    refine ⟨hc, .refl _, fun item hitem => ?_⟩
    obtain ⟨row, hrow, hid, hjson⟩ := mem_selectRecords hitem
    have hlookup := Tables.lookup_of_mem hc.keyed hrow
    rw [hid] at hlookup
    obtain ⟨hevaluationId, -, -⟩ := hc.recorded item.1 row hlookup
    exact ⟨hjson ▸ hevaluationId, Option.isSome_of_mem hlookup⟩
  | selectEvents command records =>
    obtain ⟨rfl, rfl⟩ := Prod.mk.inj (Option.some.inj h)
    exact ⟨hc, .refl _, loaded_of_loadsWhole hc hstage hwhole⟩
  | selectIdempotency command records events =>
    obtain ⟨rfl, rfl⟩ := Prod.mk.inj (Option.some.inj h)
    exact ⟨hc, .refl _, hstage, rfl⟩
  | running command loaded =>
    simp only [stepEvaluation] at h
    split at h
    · obtain ⟨rfl, rfl⟩ := Prod.mk.inj (Option.some.inj h)
      exact ⟨hc, .refl _, trivial⟩
    · next answer snapshot hrun =>
      obtain ⟨rfl, rfl⟩ := Prod.mk.inj (Option.some.inj h)
      exact ⟨hc, .refl _, loaded, hstage.1, hstage.2,
        PolicyEvaluationRecordStore.step_of_run hrun⟩
  | saving command answer snapshot =>
    simp only [stepEvaluation] at h
    split at h
    · obtain ⟨rfl, rfl⟩ := Prod.mk.inj (Option.some.inj h)
      exact ⟨hc, .refl _, trivial⟩
    · next saved hsave =>
      obtain ⟨rfl, rfl⟩ := Prod.mk.inj (Option.some.inj h)
      obtain ⟨loaded, hl, hindex, hstep⟩ := hstage
      have hs := saved_of_saveSnapshot hsave
      obtain ⟨hgrows, hkept⟩ := hs.grows_kept hl hindex hstep
      exact ⟨hs.consistent hc hl hindex hstep, hgrows, hkept⟩
  | returned => cases h
  | raised => cases h

theorem evaluations_outline : (durableEvaluations services collation).Outline
    PolicyEvaluationTables.Consistent (fun _ tables stage => stage.Holds tables) LoadsWhole where
  start _ _ _ _ := trivial
  step _ _ _ _ _ _ hc hstage hwhole h :=
    ⟨(holds_of_step hc hstage hwhole h).1, (holds_of_step hc hstage hwhole h).2.2⟩
  stable _ _ _ _ _ _ _ _ hc hstage hwhole h hother :=
    hother.grows (holds_of_step hc hstage hwhole h).2.1

theorem consistent_empty : PolicyEvaluationTables.empty.Consistent where
  keyed := List.nodup_nil
  numbered _ := numbered_nil
  recorded _ _ h := by cases h
  known _ h := by cases h

end Outline

/-- In every interleaving of commands, as long as no record gets another event between the queries
that load it and its events, records follow their log and nothing of a returned command is lost. -/
theorem records_follow_log {Catalog : Type} (services : PolicyServices Catalog)
    (collation : LinearOrder String) (labels : List (Label PolicyEvaluationCommand (Drawn Catalog)))
    (h : EveryStep (durableEvaluations services collation).next (Program.Guard LoadsWhole)
      (.initial .empty) labels) :
    EveryState (durableEvaluations services collation).next
      (fun pool => RecordsFollowLog pool.store ∧ NothingMissing pool) (.initial .empty) labels := by
  have hkeep : (durableEvaluations services collation).Outline _ _ _ := evaluations_outline
  refine everyState_iff_prefixes.mpr fun pre hpre pool hpool => ?_
  obtain ⟨post, rfl⟩ := hpre
  have hpool := hkeep.holds_run (Program.holds_initial consistent_empty)
    (everyStep_append.mp h).1 hpool
  refine ⟨⟨hpool.store.numbered, fun row hrow => ?_⟩, fun i command answer hworker => ?_⟩
  · exact (hpool.store.recorded _ row (Tables.lookup_of_mem hpool.store.keyed hrow)).2.1
  · exact hpool.worker i _ hworker

section Examples

/-- All steps of a call that is alone. -/
def runAlone (worker : ℕ) (command : PolicyEvaluationCommand) (minute : ℕ) :
    List (Label PolicyEvaluationCommand (Drawn Unit)) :=
  .start worker command :: List.replicate 5 (.advance worker (Sample.drawnAt minute))

/-- The second review commits when the first has taken some of its steps. -/
def overlappingReviews (before after : ℕ) : List (Label PolicyEvaluationCommand (Drawn Unit)) :=
  runAlone 0 (Sample.finalize "finalize-1") 0 ++
    .start 1 (Sample.review "compliance_1" "review-1") ::
      List.replicate before (.advance 1 (Sample.drawnAt 2)) ++
    runAlone 2 (Sample.review "compliance_2" "review-2") 1 ++
    List.replicate after (.advance 1 (Sample.drawnAt 2))

/-- A review that commits after the events of another one were read makes this one fail. -/
theorem records_follow_log_overlapping :
    EveryState (durableEvaluations Sample.services inferInstance).next
        (fun pool => RecordsFollowLog pool.store ∧ NothingMissing pool) (.initial .empty)
        (overlappingReviews 2 3) ∧
      ((run (durableEvaluations Sample.services inferInstance).next (.initial .empty)
        (overlappingReviews 2 3)).map fun pool => pool.store.events.map fun event => event.actorId) =
        some ["advisor_1", "compliance_2"] :=
  ⟨records_follow_log Sample.services inferInstance (overlappingReviews 2 3) (by decide +kernel),
    by decide +kernel⟩

/-- A review that commits between the queries for the records and the events of another one is lost
from the record: both reviews are stored, and the record lists one of them. -/
theorem records_follow_log_torn :
    ¬ EveryState (durableEvaluations Sample.services inferInstance).next
      (fun pool => RecordsFollowLog pool.store ∧ NothingMissing pool) (.initial .empty)
      (overlappingReviews 1 4) := by
  intro h
  have hview : (run (durableEvaluations Sample.services inferInstance).next (.initial .empty)
      (overlappingReviews 1 4)).map (fun pool => pool.store.records.map fun row =>
        (row.recordJson.reviewEventsJson.length,
          (payloads .reviewRecorded (logOf pool.store.events row.evaluationId)).length)) =
      some [(1, 2)] := by
    decide +kernel
  obtain ⟨pool, hpool, hlists⟩ := Option.map_eq_some_iff.mp hview
  obtain ⟨row, hrow, hlengths⟩ :=
    List.mem_map.mp (show (1, 2) ∈ _ from hlists ▸ List.mem_singleton_self _)
  have hfollows := ((h.of_run hpool).1.follows row hrow).reviews
  obtain ⟨hone, htwo⟩ := Prod.mk.inj hlengths
  rw [hfollows, htwo] at hone
  cases hone

end Examples

end LotusAdvise.PolicyPacks

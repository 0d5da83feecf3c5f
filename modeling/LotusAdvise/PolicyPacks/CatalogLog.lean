import LotusAdvise.Foundations.Workers
import LotusAdvise.PolicyPacks.CatalogState

/-! # The catalog follows its log

A command of `DurablePolicyPackCatalogRepository` loads a snapshot with three queries, runs
on the store that is built from it, and saves the whole store in one transaction. The
transaction compares the number of events of every version, so that it goes through only if
the snapshot has seen all of them. Then the activation states are those that the log of the
activations gives, as long as the definitions and the events of the snapshot belong
together: definitions that were read before an activation and events that were read after it
undo the activation.
-/

namespace LotusAdvise.PolicyPacks

open Runs Workers PolicyPackCatalogTables

inductive CatalogStage where
  | selectDefinitions (command : PolicyPackCatalogCommand)
  | selectEvents (command : PolicyPackCatalogCommand) (definitions : List PolicyPackDefinition)
  | selectIdempotency (command : PolicyPackCatalogCommand)
    (definitions : List PolicyPackDefinition) (events : List PolicyPackAuditEvent)
  | running (command : PolicyPackCatalogCommand) (loaded : PolicyPackCatalogSnapshot)
  | saving (command : PolicyPackCatalogCommand) (answer : PolicyPackCatalogAnswer)
    (snapshot : PolicyPackCatalogSnapshot)
  | returned (command : PolicyPackCatalogCommand) (answer : PolicyPackCatalogAnswer)
  | raised (command : PolicyPackCatalogCommand) (error : PolicyPackError)

section Steps

variable (services : CatalogServices) (collation : LinearOrder String)

/-- A command on the store of a snapshot, with the snapshot of what it leaves. -/
def runLoaded (loaded : PolicyPackCatalogSnapshot) (now : UtcDateTime)
    (command : PolicyPackCatalogCommand) :
    Except PolicyPackError (PolicyPackCatalogAnswer × PolicyPackCatalogSnapshot) := do
  let store ← PolicyPackCatalogStore.fromSnapshot services loaded
  let (answer, store') ← store.run services now command
  return (answer, store'.snapshot)

/-- One step of a command, which reads the clock when it records an event. -/
def stepCatalog (tables : PolicyPackCatalogTables) :
    CatalogStage → UtcDateTime → Option (PolicyPackCatalogTables × CatalogStage)
  | .selectDefinitions command, _ =>
    some (tables, .selectEvents command (tables.selectDefinitions collation))
  | .selectEvents command definitions, _ =>
    some (tables, .selectIdempotency command definitions (tables.selectEvents collation))
  | .selectIdempotency command definitions events, _ =>
    some (tables, .running command ⟨definitions, events, tables.selectIdempotency collation⟩)
  | .running command loaded, now =>
    match runLoaded services loaded now command with
    | .error error => some (tables, .raised command error)
    | .ok (answer, snapshot) => some (tables, .saving command answer snapshot)
  | .saving command answer snapshot, _ =>
    match saveSnapshot tables snapshot with
    | .error error => some (tables, .raised command error)
    | .ok tables' => some (tables', .returned command answer)
  | .returned _ _, _ => none
  | .raised _ _, _ => none

def durableCatalog :
    Program PolicyPackCatalogTables CatalogStage PolicyPackCatalogCommand UtcDateTime where
  start := .selectDefinitions
  step := stepCatalog services collation

end Steps

section Property

/-- The activation that was committed last for a pack. -/
def latestActivation (events : List PolicyPackAuditEvent) (policyPackId : String) :
    Option PolicyPackAuditEvent :=
  (events.filter fun event =>
    event.eventType = .activated ∧ event.policyPackId = policyPackId).getLast?

/-- A pack has one active version at most, and once a version of it was activated, the active one
is that of the last activation. -/
structure CatalogFollowsLog (tables : PolicyPackCatalogTables) : Prop where
  single : ∀ a ∈ tables.versions, ∀ b ∈ tables.versions, a.policyPackId = b.policyPackId →
    a.activationState = .active → b.activationState = .active → a = b
  latest : ∀ policyPackId, ∀ event ∈ latestActivation tables.events policyPackId,
    ∃ row ∈ tables.versions, row.key = event.version ∧ row.activationState = .active

/-- The key is bound to the event. -/
def BoundToEvent (tables : PolicyPackCatalogTables) (key : String) (event : PolicyPackAuditEvent) :
    Prop :=
  ∃ row ∈ tables.keyOf key, (row.bound.policyPackId, row.bound.policyVersion) = event.version ∧
    row.bound.eventId = event.eventId

/-- The event of every command that returned is stored, and its key is bound to it. -/
def NoEventLost (pool : Pool PolicyPackCatalogTables CatalogStage) : Prop :=
  ∀ i command answer, pool.worker i = some (.returned command answer) →
    answer.event ∈ pool.store.events ∧ BoundToEvent pool.store command.idempotencyKey answer.event

/-- When the events are read, no definition that was read before has changed its state. -/
def LoadsStatesWhole (tables : PolicyPackCatalogTables) (stage : CatalogStage) (_ : UtcDateTime) :
    Prop :=
  match stage with
  | .selectEvents _ definitions =>
    ∀ definition ∈ PolicyPackCatalogStore.sourceDefinitions definitions,
      ∀ row ∈ versionOf tables.versions definition.key,
        row.activationState = definition.activationState
  | _ => True

instance (tables : PolicyPackCatalogTables) (stage : CatalogStage) (input : UtcDateTime) :
    Decidable (LoadsStatesWhole tables stage input) := by
  unfold LoadsStatesWhole
  cases stage <;> infer_instance

end Property

namespace PolicyPackCatalogTables

/-- The states that a catalog starts from; without versions, those of the reference packs. -/
def initialState (seeds : SeededVersions) : String × String → Option PolicyPackActivationState :=
  stateIn (PolicyPackCatalogStore.sourceDefinitions seeds.versions)

/-- The versions that were activated, in the order of a log. -/
def activations (events : List PolicyPackAuditEvent) : List (String × String) :=
  (events.filter fun event => event.eventType = .activated).map PolicyPackAuditEvent.version

/-- The states that a log leads to. -/
def loggedState (seeds : SeededVersions) (events : List PolicyPackAuditEvent) :
    String × String → Option PolicyPackActivationState :=
  statesAfter .active .superseded (initialState seeds) (activations events)

/-- The invariant of the tables: as soon as versions are stored, they have the states that the log
leads to. -/
structure Consistent (seeds : SeededVersions) (tables : PolicyPackCatalogTables) : Prop where
  keyed : (tables.versions.map PolicyPackDefinition.key).Nodup
  numbered : NumberedBy catalogEventIdOf PolicyPackAuditEvent.version PolicyPackAuditEvent.eventId
    tables.events
  known : ∀ event ∈ tables.events, (initialState seeds event.version).isSome
  states : (tables.versions = [] ∧ tables.events = [] ∧ seeds.versions = []) ∨
    tables.versions ≠ [] ∧ stateIn tables.versions = loggedState seeds tables.events

/-- What a snapshot knows that was read whole: a part of the log, and the states it leads to. -/
structure Loaded (seeds : SeededVersions) (tables : PolicyPackCatalogTables)
    (definitions : List PolicyPackDefinition) (events : List PolicyPackAuditEvent) : Prop where
  keyed : ((PolicyPackCatalogStore.sourceDefinitions definitions).map
    PolicyPackDefinition.key).Nodup
  seen : ∃ seen, seen <+: tables.events ∧ events.Perm seen ∧
    stateIn (PolicyPackCatalogStore.sourceDefinitions definitions) = loggedState seeds seen

/-- The event of a command is among those that it has seen, or comes after them. -/
inductive Adds (seeds : SeededVersions) (seen : List PolicyPackAuditEvent)
    (event : PolicyPackAuditEvent) : List PolicyPackAuditEvent → Prop where
  | replayed (mem : event ∈ seen) : Adds seeds seen event []
  | recorded (known : (initialState seeds event.version).isSome)
    (eventId_eq : event.eventId = catalogEventIdOf ((eventsOf seen event.version).length + 1)) :
    Adds seeds seen event [event]

/-- What a snapshot that is to be saved says: a part of the log with the event of the command, the
states that this leads to, and the key bound to the event. -/
structure Intends (seeds : SeededVersions) (tables : PolicyPackCatalogTables) (key : String)
    (event : PolicyPackAuditEvent) (snapshot : PolicyPackCatalogSnapshot) : Prop where
  keyed : (snapshot.definitions.map PolicyPackDefinition.key).Nodup
  log : ∃ seen new, seen <+: tables.events ∧ Adds seeds seen event new ∧
    snapshot.events.Perm (seen ++ new) ∧
    stateIn snapshot.definitions = loggedState seeds (seen ++ new)
  bound : ∃ bound ∈ snapshot.idempotency, bound.idempotencyKey = key ∧
    (bound.policyPackId, bound.policyVersion) = event.version ∧ bound.eventId = event.eventId

/-- The tables only grow: no event and no key is lost. -/
structure Grows (tables tables' : PolicyPackCatalogTables) : Prop where
  events : tables.events <+: tables'.events
  versions : tables'.versions = [] → tables.versions = []
  keys : ∀ key row, tables.keyOf key = some row → tables'.keyOf key = some row

def Kept (tables : PolicyPackCatalogTables) (key : String) (event : PolicyPackAuditEvent) : Prop :=
  event ∈ tables.events ∧ BoundToEvent tables key event

section States

variable {seeds : SeededVersions} {versions : List PolicyPackDefinition}
  {events : List PolicyPackAuditEvent} {event : PolicyPackAuditEvent} {key : String × String}
  {definition : PolicyPackDefinition}

theorem activations_concat : activations (events ++ [event]) =
    activations events ++ if event.eventType = .activated then [event.version] else [] := by
  rw [activations, List.filter_append, List.map_append]
  by_cases h : event.eventType = .activated <;> simp [h, activations]

theorem loggedState_validated (h : event.eventType = .validated) :
    loggedState seeds (events ++ [event]) = loggedState seeds events := by
  rw [loggedState, activations_concat, if_neg (by rw [h]; exact nofun), List.append_nil,
    loggedState]

theorem loggedState_activated (h : event.eventType = .activated) :
    loggedState seeds (events ++ [event]) =
      activateMember .active .superseded (loggedState seeds events) event.version := by
  rw [loggedState, activations_concat, if_pos h, statesAfter_concat, loggedState]

/-- A log about known versions keeps the versions known. -/
theorem isSome_loggedState (h : ∀ event ∈ events, (initialState seeds event.version).isSome) :
    (loggedState seeds events key).isSome = (initialState seeds key).isSome := by
  refine isSome_statesAfter fun version hversion => ?_
  obtain ⟨event, hevent, rfl⟩ := List.mem_map.mp hversion
  exact h event (List.mem_filter.mp hevent).1

theorem stateIn_of_mem (hn : (versions.map PolicyPackDefinition.key).Nodup)
    (h : definition ∈ versions) :
    stateIn versions definition.key = some definition.activationState := by
  rw [stateIn, versionOf, Tables.lookup_of_mem hn h, Option.map_some]

theorem isSome_stateIn : (stateIn versions key).isSome ↔ ∃ row ∈ versions, row.key = key := by
  rw [stateIn, Option.isSome_map]
  constructor
  · intro h
    obtain ⟨row, hrow⟩ := Option.isSome_iff_exists.mp h
    exact ⟨row, (Tables.lookup_some hrow).1, (Tables.lookup_some hrow).2⟩
  · rintro ⟨row, hrow, rfl⟩
    by_contra hnone
    rw [Option.not_isSome_iff_eq_none] at hnone
    exact Tables.lookup_eq_none.mp hnone row hrow rfl

/-- The reference packs satisfy the constraints of the table, too. -/
theorem keyed_sourceDefinitions (hn : (versions.map PolicyPackDefinition.key).Nodup) :
    ((PolicyPackCatalogStore.sourceDefinitions versions).map PolicyPackDefinition.key).Nodup := by
  unfold PolicyPackCatalogStore.sourceDefinitions
  split
  · decide
  · exact hn

theorem single_sourceDefinitions (seeds : SeededVersions) :
    ∀ a ∈ PolicyPackCatalogStore.sourceDefinitions seeds.versions,
    ∀ b ∈ PolicyPackCatalogStore.sourceDefinitions seeds.versions, a.policyPackId = b.policyPackId →
    a.activationState = .active → b.activationState = .active → a = b := by
  unfold PolicyPackCatalogStore.sourceDefinitions
  split
  · intro a ha b hb hpack
    rcases List.mem_pair.mp ha with rfl | rfl <;> rcases List.mem_pair.mp hb with rfl | rfl
    · exact fun _ _ => rfl
    · exact absurd hpack (by decide)
    · exact absurd hpack (by decide)
    · exact fun _ _ => rfl
  · exact seeds.single

theorem singleActive_initialState (seeds : SeededVersions) :
    SingleActive PolicyPackActivationState.active (initialState seeds) := by
  intro a b hpack ha hb
  obtain ⟨rowA, hrowA, hactiveA⟩ := Option.map_eq_some_iff.mp ha
  obtain ⟨rowB, hrowB, hactiveB⟩ := Option.map_eq_some_iff.mp hb
  obtain ⟨hmemA, rfl⟩ := Tables.lookup_some hrowA
  obtain ⟨hmemB, rfl⟩ := Tables.lookup_some hrowB
  rw [single_sourceDefinitions seeds rowA hmemA rowB hmemB hpack hactiveA hactiveB]

end States

section Load

variable {services : CatalogServices} {seeds : SeededVersions} {tables : PolicyPackCatalogTables}
  {loaded : PolicyPackCatalogSnapshot} {store store' : PolicyPackCatalogStore} {key : String}
  {event : PolicyPackAuditEvent} {seen : List PolicyPackAuditEvent}

open PolicyPackCatalogStore

/-- The definitions of the store that is built from a snapshot. -/
theorem preparedDefinitions_spec (services : CatalogServices) {definitions : List PolicyPackDefinition}
    (hn : (definitions.map PolicyPackDefinition.key).Nodup) :
    ((preparedDefinitions services definitions).map Prod.fst).Nodup ∧
      (∀ item ∈ preparedDefinitions services definitions, item.2.key = item.1) ∧
      stateOf (preparedDefinitions services definitions) = stateIn definitions := by
  refine ⟨Dict.nodup_keys_ofItems _, fun item hitem => ?_, funext fun key => ?_⟩
  · obtain ⟨definition, -, rfl⟩ := List.mem_map.mp (Dict.mem_ofItems hitem)
    rfl
  · have hitems : ((definitions.map fun definition =>
        (definition.key, prepareDefinition services definition)).map Prod.fst).Nodup := by
      rw [List.map_map]
      exact hn
    rw [preparedDefinitions, Dict.ofItems_of_nodup hitems, stateOf, Dict.get?_map_key,
      Option.map_map]
    rfl

/-- The events of the store that is built from a snapshot. -/
theorem groupedEvents_spec {definitions : Dict (String × String) PolicyPackDefinition}
    (events : List PolicyPackAuditEvent) (hn : (definitions.map Prod.fst).Nodup) :
    ((groupedEvents definitions events).map Prod.fst).Nodup ∧
      ((groupedEvents definitions events).flatMap Prod.snd).Perm events ∧
      ∀ version, (Dict.get? (groupedEvents definitions events) version).getD [] =
        eventsOf events version := by
  have hkeys : ((definitions.map fun item =>
      (item.1, ([] : List PolicyPackAuditEvent))).map Prod.fst).Nodup := by
    rw [List.map_map]
    exact hn
  have hempty : (definitions.map fun item =>
      (item.1, ([] : List PolicyPackAuditEvent))).flatMap Prod.snd = [] := by
    simp [List.flatMap_map]
  refine ⟨Dict.nodup_keys_foldl_push hkeys, ?_, fun version => ?_⟩
  · have hperm : ((groupedEvents definitions events).flatMap Prod.snd).Perm
        ((definitions.map fun item =>
          (item.1, ([] : List PolicyPackAuditEvent))).flatMap Prod.snd ++ events) :=
      Dict.flatMap_foldl_push_perm hkeys
    rwa [hempty, List.nil_append] at hperm
  · have hnone : (Dict.get? (definitions.map fun item =>
        (item.1, ([] : List PolicyPackAuditEvent))) version).getD [] = [] := by
      rw [Dict.get?_map_key]
      cases Tables.lookup Prod.fst definitions version <;> rfl
    rw [groupedEvents, Dict.getD_get?_foldl_push, hnone, List.nil_append, eventsOf]

/-- A store has the states and the events of its snapshot, and its keys are bound to events of
it. -/
structure Built (loaded : PolicyPackCatalogSnapshot) (store : PolicyPackCatalogStore) : Prop where
  keyed : store.WellKeyed
  states : stateOf store.definitions = stateIn (sourceDefinitions loaded.definitions)
  events : (store.events.flatMap Prod.snd).Perm loaded.events
  logs : ∀ version, (Dict.get? store.events version).getD [] = eventsOf loaded.events version
  bound : ∀ item ∈ store.idempotency, item.2.2 ∈ store.events.flatMap Prod.snd

theorem built_of_fromSnapshot
    (hn : ((sourceDefinitions loaded.definitions).map PolicyPackDefinition.key).Nodup)
    (h : fromSnapshot services loaded = .ok store) : Built loaded store := by
  obtain ⟨items, hitems, h⟩ := bind_eq_ok.mp h
  cases h
  obtain ⟨hnodup, hkey, hstates⟩ := preparedDefinitions_spec services hn
  obtain ⟨hgroups, hperm, hlogs⟩ := groupedEvents_spec loaded.events hnodup
  refine ⟨⟨hnodup, hkey, hgroups⟩, hstates, hperm, hlogs, fun item hitem => ?_⟩
  obtain ⟨row, -, hrow⟩ := mem_mapM hitems (Dict.mem_ofItems hitem)
  obtain ⟨event, hevent, rfl⟩ := map_eq_ok.mp hrow
  rw [indexedEvent, elim_error_eq_ok] at hevent
  exact List.mem_reverse.mp (List.mem_of_find?_eq_some hevent)

/-- The definitions of a snapshot have the states of its store. -/
theorem stateIn_snapshot (h : store.WellKeyed) :
    (store.snapshot.definitions.map PolicyPackDefinition.key).Nodup ∧
      stateIn store.snapshot.definitions = stateOf store.definitions := by
  have hkeys : store.snapshot.definitions.map PolicyPackDefinition.key =
      store.definitions.map Prod.fst := by
    rw [snapshot, List.map_map]
    exact List.map_congr_left h.key
  refine ⟨hkeys ▸ h.definitions, funext fun key => ?_⟩
  rw [stateIn, versionOf, snapshot, Dict.lookup_map_snd h.key, stateOf]

/-- A store with a new event intends to add it. -/
theorem intends_of_putEvent (hc : tables.Consistent seeds) (hbuilt : Built loaded store)
    (hseen : seen <+: tables.events) (hperm : loaded.events.Perm seen)
    {definitions : Dict (String × String) PolicyPackDefinition} {requestHash : String}
    {events : List PolicyPackAuditEvent} (hn : (definitions.map Prod.fst).Nodup)
    (hkey : ∀ item ∈ definitions, item.2.key = item.1)
    (hstates : stateOf definitions = loggedState seeds (seen ++ [event]))
    (hknown : (loggedState seeds seen event.version).isSome)
    (hlisted : Dict.get? store.events event.version = some events)
    (heventId : event.eventId = catalogEventIdOf (events.length + 1)) :
    Intends seeds tables key event
      (store.putEvent definitions events key requestHash event).snapshot := by
  have hkeyed : (store.putEvent definitions events key requestHash event).WellKeyed :=
    ⟨hn, hkey, Dict.nodup_keys_set hbuilt.keyed.events⟩
  have hlog : (Dict.get? store.events event.version).getD [] = events := by
    rw [hlisted, Option.getD_some]
  have hlength : events.length = (eventsOf seen event.version).length := by
    rw [← hlog, hbuilt.logs]
    exact (hperm.filter _).length_eq
  obtain ⟨hkeys, hstatesIn⟩ := stateIn_snapshot hkeyed
  refine ⟨hkeys, ⟨seen, [event], hseen, .recorded ?_ (hlength ▸ heventId), ?_, ?_⟩, _,
    List.mem_map_of_mem (Dict.mem_of_get? Dict.get?_set_self), rfl, rfl, rfl⟩
  · rwa [isSome_loggedState fun event hevent => hc.known event (hseen.subset hevent)] at hknown
  · exact (Dict.flatMap_set_perm hbuilt.keyed.events hlog [event]).trans
      ((hbuilt.events.trans hperm).append_right [event])
  · exact hstatesIn.trans hstates

/-- A command that ran on a store that was loaded whole intends to add its event. -/
theorem intends_of_step (hc : tables.Consistent seeds)
    (hloaded : Loaded seeds tables loaded.definitions loaded.events) (hbuilt : Built loaded store)
    (h : store.Step key event store') : Intends seeds tables key event store'.snapshot := by
  obtain ⟨seen, hseen, hperm, hstates⟩ := hloaded.seen
  have hstates : stateOf store.definitions = loggedState seeds seen := hbuilt.states.trans hstates
  have hknown : ∀ definition, Dict.get? store.definitions event.version = some definition →
      (loggedState seeds seen event.version).isSome := by
    intro definition hstored
    rw [← hstates, stateOf, hstored, Option.map_some, Option.isSome_some]
  cases h with
  | replayed requestHash bound =>
    obtain ⟨hkeys, hstatesIn⟩ := stateIn_snapshot hbuilt.keyed
    have hmem : event ∈ seen :=
      (hbuilt.events.trans hperm).mem_iff.mp (hbuilt.bound _ (Dict.mem_of_get? bound))
    refine ⟨hkeys, ⟨seen, [], hseen, .replayed hmem, ?_, ?_⟩, _,
      List.mem_map_of_mem (Dict.mem_of_get? bound), rfl, rfl, rfl⟩
    · rw [List.append_nil]
      exact hbuilt.events.trans hperm
    · rw [List.append_nil, hstatesIn, hstates]
  | validated requestHash definition events stored listed type eventId_eq =>
    refine intends_of_putEvent hc hbuilt hseen hperm hbuilt.keyed.definitions hbuilt.keyed.key ?_
      (hknown definition stored) listed eventId_eq
    rw [loggedState_validated type, hstates]
  | activated requestHash definition active events stored single listed type eventId_eq =>
    obtain ⟨hn, hkey⟩ := hbuilt.keyed.activated
      (active.filter fun active => active.key ≠ definition.key) stored
    refine intends_of_putEvent hc hbuilt hseen hperm hn hkey ?_ (hknown definition stored) listed
      eventId_eq
    rw [loggedState_activated type, ← hstates, stateOf_activated hbuilt.keyed stored single]

end Load

section Save

variable {seeds : SeededVersions} {tables tables' : PolicyPackCatalogTables} {key : String}
  {event : PolicyPackAuditEvent} {snapshot : PolicyPackCatalogSnapshot}
  {seen new : List PolicyPackAuditEvent} {version : String × String}

/-- A stored event is about a stored version. -/
theorem Consistent.versionOf_ne_none (hc : tables.Consistent seeds) (hevent : event ∈ tables.events) :
    versionOf tables.versions event.version ≠ none := by
  intro hnone
  rcases hc.states with ⟨-, hempty, -⟩ | ⟨-, hstates⟩
  · rw [hempty] at hevent
    cases hevent
  · have hsome := hc.known event hevent
    rw [← isSome_loggedState hc.known, ← hstates, stateIn, hnone] at hsome
    cases hsome

theorem Adds.known (h : Adds seeds seen event new) (hc : tables.Consistent seeds)
    (hseen : seen <+: tables.events) : (initialState seeds event.version).isSome := by
  cases h with
  | replayed mem => exact hc.known event (hseen.subset mem)
  | recorded known => exact known

theorem Adds.known_append (h : Adds seeds seen event new) (hc : tables.Consistent seeds)
    (hseen : seen <+: tables.events) :
    ∀ other ∈ seen ++ new, (initialState seeds other.version).isSome := by
  intro other hother
  rcases List.mem_append.mp hother with hother | hother
  · exact hc.known other (hseen.subset hother)
  · cases h with
    | replayed => cases hother
    | recorded known => exact List.mem_singleton.mp hother ▸ known

theorem Adds.mem_or_eq (h : Adds seeds seen event new) (hseen : seen <+: tables.events)
    (hperm : snapshot.events.Perm (seen ++ new)) {other : PolicyPackAuditEvent}
    (hother : other ∈ snapshot.events) : other ∈ tables.events ∨ other = event := by
  rcases List.mem_append.mp (hperm.mem_iff.mp hother) with hother | hother
  · exact .inl (hseen.subset hother)
  · cases h with
    | replayed => cases hother
    | recorded => exact .inr (List.mem_singleton.mp hother)

/-- The transaction goes through only if the snapshot has as many events of each version as are
stored. -/
theorem Saved.count_le (hs : Saved tables snapshot tables') (hc : tables.Consistent seeds)
    (hseen : seen <+: tables.events) (hadds : Adds seeds seen event new)
    (hperm : snapshot.events.Perm (seen ++ new))
    (hstates : stateIn snapshot.definitions = loggedState seeds (seen ++ new)) :
    ∀ other ∈ tables.events, (eventsOf tables.events other.version).length ≤
      (eventsOf (seen ++ new) other.version).length := by
  intro other hother
  have hknown : (stateIn snapshot.definitions other.version).isSome := by
    rw [hstates, isSome_loggedState (hadds.known_append hc hseen)]
    exact hc.known other hother
  obtain ⟨definition, hdefinition, hkey⟩ := isSome_stateIn.mp hknown
  have hguard := hs.guarded definition hdefinition
  rw [hkey] at hguard
  calc (eventsOf tables.events other.version).length
      ≤ (eventsOf snapshot.events other.version).length :=
        hguard.resolve_left (hc.versionOf_ne_none hother)
    _ = (eventsOf (seen ++ new) other.version).length := (hperm.filter _).length_eq

/-- The transaction leaves exactly the log of the snapshot. -/
theorem Saved.events_eq (hs : Saved tables snapshot tables') (hc : tables.Consistent seeds)
    (hseen : seen <+: tables.events) (hadds : Adds seeds seen event new)
    (hperm : snapshot.events.Perm (seen ++ new))
    (hstates : stateIn snapshot.definitions = loggedState seeds (seen ++ new)) :
    tables'.events = seen ++ new := by
  have hcount := hs.count_le hc hseen hadds hperm hstates
  obtain ⟨hevents, hstored⟩ := hs.events event fun _ hother => hadds.mem_or_eq hseen hperm hother
  cases hadds with
  | replayed mem =>
    rw [List.append_nil] at hcount ⊢
    rcases hevents with heq | ⟨hfree, -⟩
    · rw [heq]
      exact eq_of_counts hseen hcount
    · exact absurd rfl (Tables.lookup_eq_none.mp hfree event (hseen.subset mem))
  | recorded known eventId_eq =>
    refine hc.numbered.eq_seen_concat catalogEventIdOf_injective hseen ?_ eventId_eq ?_
    · intro other hother
      have hother := hcount other hother
      rw [eventsOf, eventsOf, List.filter_append, List.length_append, List.filter_singleton]
        at hother
      by_cases hversion : event.version = other.version
      · simpa [hversion] using hother
      · simpa [hversion, Ne.symm hversion] using hother
    · rcases hevents with heq | ⟨hfree, heq⟩
      · refine .inl ⟨heq ▸ hstored event (hperm.mem_iff.mpr (by simp)), heq⟩
      · refine .inr ⟨fun other hother hversion heventId => ?_, heq⟩
        exact Tables.lookup_eq_none.mp hfree other hother (Prod.ext hversion heventId)

/-- The transaction leaves the states of the snapshot. -/
theorem Saved.states_eq (hs : Saved tables snapshot tables') (hc : tables.Consistent seeds)
    (hseen : seen <+: tables.events) (hadds : Adds seeds seen event new)
    (hkeyed : (snapshot.definitions.map PolicyPackDefinition.key).Nodup)
    (hstates : stateIn snapshot.definitions = loggedState seeds (seen ++ new)) :
    tables'.versions ≠ [] ∧ stateIn tables'.versions = loggedState seeds (seen ++ new) := by
  have hknown := hadds.known_append hc hseen
  constructor
  · have hsome : (stateIn snapshot.definitions event.version).isSome := by
      rw [hstates, isSome_loggedState hknown]
      exact hadds.known hc hseen
    obtain ⟨definition, hdefinition, -⟩ := isSome_stateIn.mp hsome
    intro hnil
    have hstored := hs.stored definition hdefinition
    rw [hnil] at hstored
    cases hstored
  · funext version
    rw [← hstates]
    by_cases hversion : ∃ definition ∈ snapshot.definitions, definition.key = version
    · obtain ⟨definition, hdefinition, rfl⟩ := hversion
      rw [stateIn_of_mem hkeyed hdefinition, stateIn, hs.stored definition hdefinition,
        Option.map_some]
    · -- a version that the snapshot does not have is not stored
      have hnone : stateIn snapshot.definitions version = none := by
        rw [← Option.not_isSome_iff_eq_none, isSome_stateIn]
        exact hversion
      rw [hnone, stateIn, hs.others version fun definition hmem heq =>
        hversion ⟨definition, hmem, heq⟩]
      rcases hc.states with ⟨hempty, -⟩ | ⟨-, hstored⟩
      · rw [hempty]
        rfl
      · have hinitial : (initialState seeds version).isSome = false := by
          rw [← isSome_loggedState hknown, ← hstates, hnone, Option.isSome_none]
        have hlogged : (stateIn tables.versions version).isSome = false := by
          rw [hstored, isSome_loggedState hc.known, hinitial]
        simpa [stateIn] using hlogged

/-- A save keeps the invariant, lets the tables grow, and keeps the event of its command. -/
theorem Saved.spec (hs : Saved tables snapshot tables') (hc : tables.Consistent seeds)
    (h : Intends seeds tables key event snapshot) :
    tables'.Consistent seeds ∧ Grows tables tables' ∧ Kept tables' key event := by
  obtain ⟨seen, new, hseen, hadds, hperm, hstates⟩ := h.log
  have hevents := hs.events_eq hc hseen hadds hperm hstates
  obtain ⟨hnonempty, hstates'⟩ := hs.states_eq hc hseen hadds h.keyed hstates
  have hnumbered : NumberedBy catalogEventIdOf PolicyPackAuditEvent.version
      PolicyPackAuditEvent.eventId (seen ++ new) := by
    have hbefore := hc.numbered.of_prefix hseen
    cases hadds with
    | replayed => rwa [List.append_nil]
    | recorded known eventId_eq => exact hbefore.concat eventId_eq
  refine ⟨⟨hs.keyed hc.keyed, hevents ▸ hnumbered, ?_, .inr ⟨hnonempty, hevents ▸ hstates'⟩⟩,
    ⟨?_, fun hempty => absurd hempty hnonempty, hs.keysKept⟩, ?_, ?_⟩
  · rw [hevents]
    exact hadds.known_append hc hseen
  · obtain ⟨heq | ⟨-, heq⟩, -⟩ :=
      hs.events event fun _ hother => hadds.mem_or_eq hseen hperm hother
    · rw [heq]
    · rw [heq]
      exact List.prefix_append _ _
  · rw [hevents]
    cases hadds with
    | replayed mem => exact List.mem_append_left _ mem
    | recorded => simp
  · obtain ⟨bound, hbound, rfl, hversion, heventId⟩ := h.bound
    obtain ⟨row, hrow, rfl⟩ := hs.keysStored bound hbound
    exact ⟨row, hrow, hversion, heventId⟩

end Save

section Grows

variable {seeds : SeededVersions} {tables tables' : PolicyPackCatalogTables} {key : String}
  {event : PolicyPackAuditEvent} {snapshot : PolicyPackCatalogSnapshot}
  {definitions : List PolicyPackDefinition} {events : List PolicyPackAuditEvent}

theorem Grows.refl (tables : PolicyPackCatalogTables) : Grows tables tables :=
  ⟨List.prefix_rfl, id, fun _ _ h => h⟩

theorem Loaded.grows (h : Loaded seeds tables definitions events) (hgrows : Grows tables tables') :
    Loaded seeds tables' definitions events := by
  obtain ⟨seen, hseen, hperm, hstates⟩ := h.seen
  exact ⟨h.keyed, seen, hseen.trans hgrows.events, hperm, hstates⟩

theorem Intends.grows (h : Intends seeds tables key event snapshot)
    (hgrows : Grows tables tables') : Intends seeds tables' key event snapshot := by
  obtain ⟨seen, new, hseen, hrest⟩ := h.log
  exact ⟨h.keyed, ⟨seen, new, hseen.trans hgrows.events, hrest⟩, h.bound⟩

theorem Kept.grows (h : Kept tables key event) (hgrows : Grows tables tables') :
    Kept tables' key event := by
  obtain ⟨hmem, row, hrow, hbound⟩ := h
  exact ⟨hgrows.events.subset hmem, row, hgrows.keys key row hrow, hbound⟩

end Grows

end PolicyPackCatalogTables

/-- What a command knows of the tables. -/
def CatalogStage.Holds (seeds : SeededVersions) (tables : PolicyPackCatalogTables) :
    CatalogStage → Prop
  | .selectEvents _ definitions =>
    ((PolicyPackCatalogStore.sourceDefinitions definitions).map PolicyPackDefinition.key).Nodup ∧
      (∀ version,
        (stateIn (PolicyPackCatalogStore.sourceDefinitions definitions) version).isSome =
          (initialState seeds version).isSome) ∧
      (tables.versions = [] → definitions = [])
  | .selectIdempotency _ definitions events => Loaded seeds tables definitions events
  | .running _ loaded => Loaded seeds tables loaded.definitions loaded.events
  | .saving command answer snapshot =>
    Intends seeds tables command.idempotencyKey answer.event snapshot
  | .returned command answer => Kept tables command.idempotencyKey answer.event
  | _ => True

section Outline

variable {services : CatalogServices} {collation : LinearOrder String} {seeds : SeededVersions}
  {tables tables' : PolicyPackCatalogTables} {stage stage' : CatalogStage} {now : UtcDateTime}

theorem CatalogStage.Holds.grows (h : stage.Holds seeds tables) (hgrows : Grows tables tables') :
    stage.Holds seeds tables' := by
  cases stage with
  | selectEvents command definitions =>
    exact ⟨h.1, h.2.1, fun hempty => h.2.2 (hgrows.versions hempty)⟩
  | selectIdempotency command definitions events => exact Loaded.grows h hgrows
  | running command loaded => exact Loaded.grows h hgrows
  | saving command answer snapshot => exact Intends.grows h hgrows
  | returned command answer => exact Kept.grows h hgrows
  | selectDefinitions => trivial
  | raised => trivial

/-- The definitions that are read are those of the seeds, with states of their own. -/
theorem holds_selectDefinitions (hc : tables.Consistent seeds)
    (command : PolicyPackCatalogCommand) :
    (CatalogStage.selectEvents command (tables.selectDefinitions collation)).Holds seeds tables := by
  have hperm : (tables.selectDefinitions collation).Perm tables.versions :=
    Tables.orderByColumns_perm collation _
  have hkeyed : ((tables.selectDefinitions collation).map PolicyPackDefinition.key).Nodup :=
    (hperm.map _).nodup_iff.mpr hc.keyed
  refine ⟨keyed_sourceDefinitions hkeyed, fun version => ?_, fun hempty => ?_⟩
  · rcases hc.states with ⟨hempty, -, hseeds⟩ | ⟨hnonempty, hstates⟩
    · have hnil : tables.selectDefinitions collation = [] := by
        rw [selectDefinitions, hempty]
        rfl
      rw [hnil, initialState, hseeds]
    · have hsource : PolicyPackCatalogStore.sourceDefinitions (tables.selectDefinitions collation) =
          tables.selectDefinitions collation := by
        refine if_neg fun hnil => hnonempty ?_
        have hperm := hperm.symm
        rw [List.isEmpty_iff.mp hnil] at hperm
        exact hperm.eq_nil
      rw [hsource, ← isSome_loggedState hc.known, ← hstates, Bool.eq_iff_iff, isSome_stateIn,
        isSome_stateIn]
      simp only [hperm.mem_iff]
  · rw [selectDefinitions, hempty]
    rfl

/-- A snapshot whose definitions still have the stored states when the events are read is read
whole. -/
theorem loaded_of_loadsStatesWhole (hc : tables.Consistent seeds)
    {command : PolicyPackCatalogCommand} {definitions : List PolicyPackDefinition}
    (hstage : (CatalogStage.selectEvents command definitions).Holds seeds tables)
    (hwhole : LoadsStatesWhole tables (.selectEvents command definitions) now) :
    Loaded seeds tables definitions (tables.selectEvents collation) := by
  obtain ⟨hkeyed, hknown, hempty⟩ := hstage
  refine ⟨hkeyed, tables.events, List.prefix_rfl, Tables.orderByColumns_perm collation _, ?_⟩
  rcases hc.states with ⟨hversions, hevents, hseeds⟩ | ⟨-, hstates⟩
  · rw [hempty hversions, hevents, loggedState, initialState, hseeds]
    rfl
  · funext version
    have hsome : (stateIn (PolicyPackCatalogStore.sourceDefinitions definitions) version).isSome =
        (stateIn tables.versions version).isSome := by
      rw [hknown, hstates, isSome_loggedState hc.known]
    rw [← hstates]
    by_cases hrow : (stateIn tables.versions version).isSome
    · obtain ⟨row, hrow', rfl⟩ := isSome_stateIn.mp hrow
      obtain ⟨definition, hdefinition, hkey⟩ := isSome_stateIn.mp (hsome.trans hrow)
      have hlookup : row ∈ versionOf tables.versions definition.key := by
        rw [hkey]
        exact Tables.lookup_of_mem hc.keyed hrow'
      rw [stateIn_of_mem hc.keyed hrow', ← hkey, stateIn_of_mem hkeyed hdefinition,
        hwhole definition hdefinition row hlookup]
    · have hnone := Option.not_isSome_iff_eq_none.mp hrow
      rw [hnone] at hsome ⊢
      rwa [Option.isSome_none, Option.isSome_eq_false_iff, Option.isNone_iff_eq_none] at hsome

/-- A step keeps the invariant, lets the tables grow, and leaves the command with what it knows. -/
theorem catalog_holds_of_step (hc : tables.Consistent seeds) (hstage : stage.Holds seeds tables)
    (hwhole : LoadsStatesWhole tables stage now)
    (h : stepCatalog services collation tables stage now = some (tables', stage')) :
    tables'.Consistent seeds ∧ Grows tables tables' ∧ stage'.Holds seeds tables' := by
  cases stage with
  | selectDefinitions command =>
    obtain ⟨rfl, rfl⟩ := Prod.mk.inj (Option.some.inj h)
    exact ⟨hc, .refl _, holds_selectDefinitions hc command⟩
  | selectEvents command definitions =>
    obtain ⟨rfl, rfl⟩ := Prod.mk.inj (Option.some.inj h)
    exact ⟨hc, .refl _, loaded_of_loadsStatesWhole hc hstage hwhole⟩
  | selectIdempotency command definitions events =>
    obtain ⟨rfl, rfl⟩ := Prod.mk.inj (Option.some.inj h)
    exact ⟨hc, .refl _, hstage⟩
  | running command loaded =>
    simp only [stepCatalog] at h
    split at h
    · obtain ⟨rfl, rfl⟩ := Prod.mk.inj (Option.some.inj h)
      exact ⟨hc, .refl _, trivial⟩
    · next answer snapshot hrun =>
      obtain ⟨rfl, rfl⟩ := Prod.mk.inj (Option.some.inj h)
      obtain ⟨store, hstore, hrun⟩ := bind_eq_ok.mp hrun
      obtain ⟨⟨_, store'⟩, hran, heq⟩ := bind_eq_ok.mp hrun
      cases heq
      exact ⟨hc, .refl _, intends_of_step hc hstage
        (built_of_fromSnapshot (Loaded.keyed hstage) hstore)
        (PolicyPackCatalogStore.step_of_run hran)⟩
  | saving command answer snapshot =>
    simp only [stepCatalog] at h
    split at h
    · obtain ⟨rfl, rfl⟩ := Prod.mk.inj (Option.some.inj h)
      exact ⟨hc, .refl _, trivial⟩
    · next saved hsave =>
      obtain ⟨rfl, rfl⟩ := Prod.mk.inj (Option.some.inj h)
      exact (saved_of_saveSnapshot (Intends.keyed hstage) hsave).spec hc hstage
  | returned => cases h
  | raised => cases h

theorem catalog_outline (seeds : SeededVersions) : (durableCatalog services collation).Outline
    (PolicyPackCatalogTables.Consistent seeds) (fun _ tables stage => stage.Holds seeds tables)
    LoadsStatesWhole where
  start _ _ _ _ := trivial
  step _ _ _ _ _ _ hc hstage hwhole h :=
    ⟨(catalog_holds_of_step hc hstage hwhole h).1, (catalog_holds_of_step hc hstage hwhole h).2.2⟩
  stable _ _ _ _ _ _ _ _ hc hstage hwhole h hother :=
    hother.grows (catalog_holds_of_step hc hstage hwhole h).2.1

theorem consistent_seeded (seeds : SeededVersions) : (seeded seeds).Consistent seeds where
  keyed := seeds.keyed
  numbered := numberedBy_nil
  known _ h := by cases h
  states := by
    by_cases hempty : seeds.versions = []
    · exact .inl ⟨hempty, rfl, hempty⟩
    · refine .inr ⟨hempty, ?_⟩
      rw [loggedState, initialState, PolicyPackCatalogStore.sourceDefinitions,
        if_neg (by simpa using hempty)]
      rfl

/-- The version of the last activation is the last one that was activated. -/
theorem mem_getLast?_activations {events : List PolicyPackAuditEvent} {event : PolicyPackAuditEvent}
    {policyPackId : String} (h : event ∈ latestActivation events policyPackId) :
    event.version ∈
      ((activations events).filter fun version => version.1 = policyPackId).getLast? := by
  have hfilter : (activations events).filter (fun version => version.1 = policyPackId) =
      (events.filter fun event => event.eventType = .activated ∧
        event.policyPackId = policyPackId).map PolicyPackAuditEvent.version := by
    rw [activations, List.filter_map, List.filter_filter]
    refine congrArg _ (List.filter_congr fun event _ => ?_)
    rw [Bool.decide_and, Bool.and_comm]
    rfl
  rw [hfilter, List.getLast?_map]
  exact Option.mem_map_of_mem _ h

theorem PolicyPackCatalogTables.Consistent.followsLog (hc : tables.Consistent seeds) : CatalogFollowsLog tables := by
  have hactive : ∀ row ∈ tables.versions, row.activationState = .active →
      stateIn tables.versions row.key = some .active := by
    intro row hrow hactive
    rw [stateIn_of_mem hc.keyed hrow, hactive]
  rcases hc.states with ⟨hversions, hevents, -⟩ | ⟨-, hstates⟩
  · constructor
    · intro a ha
      rw [hversions] at ha
      cases ha
    · intro policyPackId event hevent
      rw [hevents] at hevent
      cases hevent
  · have hsingle : SingleActive PolicyPackActivationState.active
        (loggedState seeds tables.events) :=
      (singleActive_initialState seeds).statesAfter (by decide)
    constructor
    · intro a ha b hb hpack hactiveA hactiveB
      refine List.inj_on_of_nodup_map hc.keyed ha hb (hsingle _ _ hpack ?_ ?_)
      · rw [← hstates, hactive a ha hactiveA]
      · rw [← hstates, hactive b hb hactiveB]
    · intro policyPackId event hevent
      have hlast : loggedState seeds tables.events event.version = some .active :=
        statesAfter_getLast? (mem_getLast?_activations hevent)
      rw [← hstates] at hlast
      obtain ⟨row, hrow, hrowActive⟩ := Option.map_eq_some_iff.mp hlast
      exact ⟨row, (Tables.lookup_some hrow).1, (Tables.lookup_some hrow).2, hrowActive⟩

end Outline

/-- In every interleaving of commands, as long as no definition changes its state between the
queries that load it and the events, the active version of a pack is that of its last activation,
and no event of a returned command is lost. -/
theorem catalog_follows_log (services : CatalogServices) (collation : LinearOrder String)
    (seeds : SeededVersions) (labels : List (Label PolicyPackCatalogCommand UtcDateTime))
    (h : EveryStep (durableCatalog services collation).next (Program.Guard LoadsStatesWhole)
      (.initial (seeded seeds)) labels) :
    EveryState (durableCatalog services collation).next
      (fun pool => CatalogFollowsLog pool.store ∧ NoEventLost pool) (.initial (seeded seeds))
      labels := by
  have hkeep : (durableCatalog services collation).Outline _ _ _ := catalog_outline seeds
  refine everyState_iff_prefixes.mpr fun pre hpre pool hpool => ?_
  obtain ⟨post, rfl⟩ := hpre
  have hpool := hkeep.holds_run (Program.holds_initial (consistent_seeded seeds))
    (everyStep_append.mp h).1 hpool
  exact ⟨hpool.store.followsLog, fun i command answer hworker => hpool.worker i _ hworker⟩

section Examples

namespace CatalogSample

/-! A catalog with one draft, and the commands of two stewards and a checker on it. -/

def services : CatalogServices where
  sha256 := Json.text
  str := Json.text
  upper := Text.upper

def now : UtcDateTime := ⟨.utc 2026 5 26 9 0 0 0, rfl⟩

def draft : PolicyPackDefinition where
  policyPackId := "SG"
  policyVersion := "1"
  activationState := .draft
  contentHash := (prepareDefinition services ⟨"SG", "1", .draft, "", fields⟩).contentHash
  fields := fields
where
  fields : JsonObject :=
    [("policy_family", .str "SG"), ("display_name", .str "SG"), ("maker_checker_required", .bool true),
      ("schema_version", .str "1"), ("applicability", .obj [("jurisdiction_scope", .ofTexts ["SG"])]),
      ("source_requirements", .ofTexts ["account_id"]),
      ("rules", .arr [.obj [("rule_id", .str "R"), ("required_evidence_fields", .ofTexts ["e"])]]),
      ("sample_fixture_refs", .ofTexts ["f"])]

def seeds : SeededVersions := ⟨[draft], List.nodup_singleton _, by simp⟩

def validate (requestedBy : String) : PolicyPackCatalogCommand := .validate
  { policyPackId := "SG"
    policyVersion := "1"
    requestedBy
    idempotencyKey := "validate-" ++ requestedBy
    reason := [] }

def activate : PolicyPackCatalogCommand := .activate
  { policyPackId := "SG"
    policyVersion := "1"
    activatedBy := "checker"
    sourceContentHash := draft.contentHash
    idempotencyKey := "activate"
    reason := [] }

/-- All steps of a call that is alone. -/
def alone (worker : ℕ) (command : PolicyPackCatalogCommand) :
    List (Label PolicyPackCatalogCommand UtcDateTime) :=
  .start worker command :: List.replicate 5 (.advance worker now)

/-- A steward validates the pack again, and the activation commits when this call has taken some of
its steps. -/
def overlapping (before after : ℕ) : List (Label PolicyPackCatalogCommand UtcDateTime) :=
  alone 0 (validate "steward_1") ++
    .start 1 (validate "steward_2") :: List.replicate before (.advance 1 now) ++
    alone 2 activate ++ List.replicate after (.advance 1 now)

end CatalogSample

open CatalogSample

/-- An activation that commits after another call was loaded makes this one fail. -/
theorem catalog_follows_log_overlapping :
    EveryState (durableCatalog services inferInstance).next
        (fun pool => CatalogFollowsLog pool.store ∧ NoEventLost pool) (.initial (seeded seeds))
        (overlapping 3 2) ∧
      ((run (durableCatalog services inferInstance).next (.initial (seeded seeds))
        (overlapping 3 2)).map fun pool =>
          (pool.store.versions.map PolicyPackDefinition.activationState,
            pool.store.events.map PolicyPackAuditEvent.actorId)) =
        some ([.active], ["steward_1", "checker"]) :=
  ⟨catalog_follows_log services inferInstance seeds (overlapping 3 2) (by decide +kernel),
    by decide +kernel⟩

/-- An activation that commits between the queries for the definitions and the events of another
call is undone by it: the log has the activation, and the pack has no active version. -/
theorem catalog_follows_log_torn :
    ¬ EveryState (durableCatalog services inferInstance).next
      (fun pool => CatalogFollowsLog pool.store ∧ NoEventLost pool) (.initial (seeded seeds))
      (overlapping 1 4) := by
  intro h
  have hview : (run (durableCatalog services inferInstance).next (.initial (seeded seeds))
      (overlapping 1 4)).map (fun pool =>
        ((latestActivation pool.store.events "SG").isSome,
          pool.store.versions.all fun row =>
            row.policyPackId = "SG" → row.activationState = .draft)) =
      some (true, true) := by
    decide +kernel
  obtain ⟨pool, hpool, hstates⟩ := Option.map_eq_some_iff.mp hview
  obtain ⟨hlatest, hdraft⟩ := Prod.mk.inj hstates
  obtain ⟨event, hevent⟩ := Option.isSome_iff_exists.mp hlatest
  obtain ⟨row, hrow, hkey, hactive⟩ := (h.of_run hpool).1.latest _ event hevent
  have hpack : row.policyPackId = "SG" := by
    have hfilter := (List.mem_filter.mp (List.mem_of_getLast? hevent)).2
    exact (congrArg Prod.fst hkey).trans (of_decide_eq_true hfilter).2
  have hrowDraft := of_decide_eq_true (List.all_eq_true.mp hdraft row hrow) hpack
  rw [hactive] at hrowDraft
  cases hrowDraft

end Examples

end LotusAdvise.PolicyPacks

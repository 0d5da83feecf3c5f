import LotusAdvise.Foundations.Dict
import LotusAdvise.Foundations.SingleActive
import LotusAdvise.PolicyPacks.CatalogDefinitions
import LotusAdvise.PolicyPacks.ReceiptIdentity

/-! # The store of the policy-pack catalog

Definitions, the audit events of each version and the idempotency keys, with the two
commands on them. A validation records that a definition is sound; an activation needs one
by another actor where the definition asks for it, and supersedes the version of the pack
that was active before.
-/

namespace LotusAdvise.PolicyPacks

inductive PolicyPackEventType where
  | validated
  | activated
deriving DecidableEq

def PolicyPackEventType.text : PolicyPackEventType → String
  | .validated => "POLICY_PACK_VALIDATED"
  | .activated => "POLICY_PACK_ACTIVATED"

structure PolicyPackAuditEvent where
  eventId : String
  eventType : PolicyPackEventType
  policyPackId : String
  policyVersion : String
  actorId : String
  occurredAt : String
  contentHash : String
  idempotencyKey : Option String
  reason : JsonObject
deriving DecidableEq

/-- The version that an event is about. -/
def PolicyPackAuditEvent.version (event : PolicyPackAuditEvent) : String × String :=
  (event.policyPackId, event.policyVersion)

/-- What an idempotency key of the catalog is bound to. -/
structure PolicyPackBoundRequest where
  idempotencyKey : String
  requestHash : String
  policyPackId : String
  policyVersion : String
  eventId : String
deriving DecidableEq

structure PolicyPackCatalogStore where
  definitions : Dict (String × String) PolicyPackDefinition
  events : Dict (String × String) (List PolicyPackAuditEvent)
  idempotency : Dict String (String × PolicyPackAuditEvent)

structure PolicyPackCatalogSnapshot where
  definitions : List PolicyPackDefinition
  events : List PolicyPackAuditEvent
  idempotency : List PolicyPackBoundRequest

structure PolicyPackValidationRequest where
  policyPackId : String
  policyVersion : String
  requestedBy : String
  idempotencyKey : String
  reason : JsonObject

structure PolicyPackActivationRequest where
  policyPackId : String
  policyVersion : String
  activatedBy : String
  sourceContentHash : String
  idempotencyKey : String
  reason : JsonObject

structure PolicyPackValidationResponse where
  policyPack : PolicyPackSummary
  diagnostics : List String
  validationEvent : PolicyPackAuditEvent
  replayed : Bool

structure PolicyPackActivationResponse where
  policyPack : PolicyPackSummary
  activationEvent : PolicyPackAuditEvent
  replayed : Bool

variable (services : CatalogServices)

namespace PolicyPackCatalogStore

section Snapshot

/-- The prepared definitions, each under its key. -/
def preparedDefinitions (definitions : List PolicyPackDefinition) :
    Dict (String × String) PolicyPackDefinition :=
  .ofItems <| definitions.map fun definition =>
    (definition.key, prepareDefinition services definition)

/-- Every version has a list of events, to which those of the snapshot are added. -/
def groupedEvents (definitions : Dict (String × String) PolicyPackDefinition)
    (events : List PolicyPackAuditEvent) : Dict (String × String) (List PolicyPackAuditEvent) :=
  events.foldl (Dict.push PolicyPackAuditEvent.version) (definitions.map fun item => (item.1, []))

/-- The event that a row of the idempotency keys names. -/
def indexedEvent (events : Dict (String × String) (List PolicyPackAuditEvent))
    (row : PolicyPackBoundRequest) : Except PolicyPackError PolicyPackAuditEvent :=
  ((events.flatMap Prod.snd).reverse.find? fun event =>
    event.version = (row.policyPackId, row.policyVersion) ∧ event.eventId = row.eventId).elim
      (.error (.keyError row.eventId)) .ok

/-- An empty list of definitions is the one of the reference packs. -/
def sourceDefinitions (definitions : List PolicyPackDefinition) : List PolicyPackDefinition :=
  if definitions.isEmpty then referencePolicyPacks else definitions

def fromSnapshot (snapshot : PolicyPackCatalogSnapshot) :
    Except PolicyPackError PolicyPackCatalogStore := do
  let definitions := preparedDefinitions services (sourceDefinitions snapshot.definitions)
  let events := groupedEvents definitions snapshot.events
  let items ← snapshot.idempotency.mapM fun row =>
    (indexedEvent events row).map fun event => (row.idempotencyKey, row.requestHash, event)
  return ⟨definitions, events, .ofItems items⟩

def boundRequest (idempotencyKey requestHash : String) (event : PolicyPackAuditEvent) :
    PolicyPackBoundRequest :=
  ⟨idempotencyKey, requestHash, event.policyPackId, event.policyVersion, event.eventId⟩

def snapshot (store : PolicyPackCatalogStore) : PolicyPackCatalogSnapshot where
  definitions := store.definitions.map Prod.snd
  events := store.events.flatMap Prod.snd
  idempotency := store.idempotency.map fun (key, requestHash, event) =>
    boundRequest key requestHash event

end Snapshot

variable (store : PolicyPackCatalogStore)

def loadDefinition (key : String × String) : Except PolicyPackError PolicyPackDefinition :=
  (Dict.get? store.definitions key).elim (.error (.notFound "POLICY_PACK_VERSION_NOT_FOUND")) .ok

/-- `events[key]`. -/
def loadEvents (key : String × String) : Except PolicyPackError (List PolicyPackAuditEvent) :=
  (Dict.get? store.events key).elim (.error (.keyError key.1)) .ok

def activeDefinitions (policyPackId : String) : List PolicyPackDefinition :=
  (store.definitions.filter fun item =>
    item.1.1 = policyPackId ∧ item.2.activationState = .active).map Prod.snd

def singleActiveDefinition (policyPackId : String) :
    Except PolicyPackError (Option PolicyPackDefinition) :=
  if (store.activeDefinitions policyPackId).length > 1 then
    .error (.validation "POLICY_PACK_ACTIVE_VERSION_CONFLICT")
  else .ok (store.activeDefinitions policyPackId).head?

end PolicyPackCatalogStore

section Replays

/-- What the request hash of a command covers; the names of two items depend on the operation. -/
def catalogRequestPayload (operation : PolicyPackEventType) (policyPackId policyVersion actorId
    contentHash : String) (reason : JsonObject) : JsonObject :=
  [("operation", .str operation.text), ("policy_pack_id", .str policyPackId),
    ("policy_version", .str policyVersion),
    (if operation = .validated then "requested_by" else "activated_by", .str actorId),
    (if operation = .validated then "content_hash" else "source_content_hash", .str contentHash),
    ("reason", .obj (idempotencyStableReason reason))]

def PolicyPackValidationRequest.requestHash (request : PolicyPackValidationRequest)
    (contentHash : String) : String :=
  services.hashCanonicalPayload <| catalogRequestPayload .validated request.policyPackId
    request.policyVersion request.requestedBy contentHash request.reason

def PolicyPackActivationRequest.requestHash (request : PolicyPackActivationRequest) : String :=
  services.hashCanonicalPayload <| catalogRequestPayload .activated request.policyPackId
    request.policyVersion request.activatedBy request.sourceContentHash request.reason

/-- The reason that a command was given, as its event has it. -/
def eventReason (event : PolicyPackAuditEvent) : JsonObject :=
  match JsonObject.get event.reason "reason" with
  | .obj reason => reason
  | _ => []

def legacyStableEventHash (event : PolicyPackAuditEvent) : String :=
  services.hashCanonicalPayload <| catalogRequestPayload event.eventType event.policyPackId
    event.policyVersion event.actorId event.contentHash (eventReason event)

def findReplayedPolicyPackCatalogEvent (idempotency : Dict String (String × PolicyPackAuditEvent))
    (idempotencyKey requestHash : String) :
    Except PolicyPackError (Option PolicyPackAuditEvent) :=
  match Dict.get? idempotency idempotencyKey with
  | none => .ok none
  | some (storedHash, event) =>
    if storedHash = requestHash ∨ legacyStableEventHash services event = requestHash then
      .ok (some event)
    else .error (.idempotencyConflict "POLICY_PACK_IDEMPOTENCY_KEY_CONFLICT")

/-- The diagnostics that a replayed event carries. -/
def replayedDiagnostics (event : PolicyPackAuditEvent) : Except PolicyPackError (List String) := do
  let items ← listOf ((event.reason.lookup "diagnostics").getD (.arr []))
  items.mapM fun
    | .str s => .ok s
    | _ => .error (.validation "diagnostics")

end Replays

/-- The identifier of the catalog event with a number. -/
def catalogEventIdOf (number : ℕ) : String := "ppev_" ++ String.ofList (Text.zeroFill 6 number)

theorem catalogEventIdOf_injective : Function.Injective catalogEventIdOf := by
  intro m n h
  have hlist : (Text.zeroFill 6 m) = Text.zeroFill 6 n := by
    simpa [catalogEventIdOf] using congrArg String.toList h
  exact Text.zeroFill_injective 6 hlist

section Commands

namespace PolicyPackCatalogStore

variable (store : PolicyPackCatalogStore)

/-- The next event of a version, after those that are recorded. -/
def catalogEvent (events : List PolicyPackAuditEvent) (eventType : PolicyPackEventType)
    (policyPackId policyVersion actorId contentHash idempotencyKey requestHash : String)
    (reason : JsonObject) (occurredAt : UtcDateTime) : PolicyPackAuditEvent where
  eventId := catalogEventIdOf (events.length + 1)
  eventType := eventType
  policyPackId := policyPackId
  policyVersion := policyVersion
  actorId := actorId
  occurredAt := occurredAt.isoformat
  contentHash := contentHash
  idempotencyKey := some idempotencyKey
  reason :=
    JsonObject.set (JsonObject.set reason "idempotency_request_hash" (.str requestHash))
      "catalog_contract_version" (.str policyCatalogContractVersion)

/-- `append_policy_pack_catalog_event`, and the definitions that the command leaves. -/
def putEvent (definitions : Dict (String × String) PolicyPackDefinition)
    (events : List PolicyPackAuditEvent) (idempotencyKey requestHash : String)
    (event : PolicyPackAuditEvent) : PolicyPackCatalogStore where
  definitions := definitions
  events := Dict.set store.events event.version (events ++ [event])
  idempotency := Dict.set store.idempotency idempotencyKey (requestHash, event)

end PolicyPackCatalogStore

def validationEventReason (request : PolicyPackValidationRequest) (sampleFixtureRefs : List Json) :
    JsonObject :=
  [("validation_status", .str "READY"), ("diagnostics", .arr []),
    ("dry_run_status", .str "REFERENCE_FIXTURES_VALIDATED"),
    ("sample_fixture_refs", .arr sampleFixtureRefs), ("reason", .obj request.reason),
    ("reference_posture", .str referencePolicyPackPosture)]

def activationEventReason (request : PolicyPackActivationRequest)
    (definition : PolicyPackDefinition) (makerCheckerRequired : Json)
    (validationEvent : PolicyPackAuditEvent) (previousActivePolicyVersion : Option String) :
    JsonObject :=
  [("activation_state", .str PolicyPackActivationState.active.text),
    ("previous_active_policy_version", .ofText? previousActivePolicyVersion),
    ("resulting_active_policy_version", .str definition.policyVersion),
    ("superseded_policy_version", .ofText? previousActivePolicyVersion),
    ("supersession_contract", .str "ONE_ACTIVE_VERSION_PER_POLICY_PACK"),
    ("maker_checker_required", makerCheckerRequired),
    ("validated_by", .str validationEvent.actorId),
    ("validation_event_id", .str validationEvent.eventId), ("reason", .obj request.reason),
    ("reference_posture", .str referencePolicyPackPosture)]

def latestPolicyPackValidationEvent (events : List PolicyPackAuditEvent) :
    Option PolicyPackAuditEvent :=
  events.reverse.find? fun event => event.eventType = .validated

def validateActivationDefinition (definition : PolicyPackDefinition) (sourceContentHash : String) :
    Except PolicyPackError Unit := do
  require (sourceContentHash = definition.contentHash)
    (.validation "POLICY_PACK_CONTENT_HASH_MISMATCH")
  require (definition.activationState ≠ .active)
    (.validation "POLICY_PACK_VERSION_ALREADY_ACTIVE_IMMUTABLE")
  requireValidDefinition services definition

/-- The validation that an activation builds on, and whether it had to be another actor's. -/
def validatedActivationEvent (definition : PolicyPackDefinition)
    (events : List PolicyPackAuditEvent) (activatedBy : String) :
    Except PolicyPackError (PolicyPackAuditEvent × Json) := do
  let validationEvent ← (latestPolicyPackValidationEvent events).elim
    (.error (.validation "POLICY_PACK_VALIDATION_REQUIRED_BEFORE_ACTIVATION")) .ok
  let makerCheckerRequired ← definition.field "maker_checker_required"
  require (¬ (makerCheckerRequired.truthy ∧ validationEvent.actorId = activatedBy))
    (.validation "POLICY_PACK_MAKER_CHECKER_REQUIRES_DIFFERENT_ACTOR")
  return (validationEvent, makerCheckerRequired)

namespace PolicyPackCatalogStore

def validatePolicyPackVersion (store : PolicyPackCatalogStore)
    (request : PolicyPackValidationRequest) (now : UtcDateTime) :
    Except PolicyPackError (PolicyPackValidationResponse × PolicyPackCatalogStore) := do
  let definition ← store.loadDefinition (request.policyPackId, request.policyVersion)
  let requestHash := request.requestHash services definition.contentHash
  match ← findReplayedPolicyPackCatalogEvent services store.idempotency request.idempotencyKey
    requestHash with
  | some event =>
    let summary ← summaryFromDefinition services definition
    let diagnostics ← replayedDiagnostics event
    return (⟨summary, diagnostics, event, true⟩, store)
  | none =>
    requireValidDefinition services definition
    let sampleFixtureRefs ← listOf (definition.get "sample_fixture_refs")
    let events ← store.loadEvents (request.policyPackId, request.policyVersion)
    let event := catalogEvent events .validated request.policyPackId request.policyVersion
      request.requestedBy definition.contentHash request.idempotencyKey requestHash
      (validationEventReason request sampleFixtureRefs) now
    let summary ← summaryFromDefinition services definition
    return (⟨summary, [], event, false⟩,
      store.putEvent store.definitions events request.idempotencyKey requestHash event)

/-- The definitions with a version that became active, and the one before it superseded. -/
def activated (definitions : Dict (String × String) PolicyPackDefinition) (key : String × String)
    (definition : PolicyPackDefinition) (previous : Option PolicyPackDefinition) :
    Dict (String × String) PolicyPackDefinition :=
  previous.elim (Dict.set definitions key { definition with activationState := .active })
    fun previous =>
      Dict.set (Dict.set definitions key { definition with activationState := .active })
        previous.key { previous with activationState := .superseded }

def activatePolicyPackVersion (store : PolicyPackCatalogStore)
    (request : PolicyPackActivationRequest) (now : UtcDateTime) :
    Except PolicyPackError (PolicyPackActivationResponse × PolicyPackCatalogStore) := do
  let definition ← store.loadDefinition (request.policyPackId, request.policyVersion)
  let active ← store.singleActiveDefinition request.policyPackId
  let previous := active.filter fun active => active.key ≠ definition.key
  let requestHash := request.requestHash services
  match ← findReplayedPolicyPackCatalogEvent services store.idempotency request.idempotencyKey
    requestHash with
  | some event =>
    let summary ← summaryFromDefinition services definition
    return (⟨summary, event, true⟩, store)
  | none =>
    validateActivationDefinition services definition request.sourceContentHash
    let events ← store.loadEvents (request.policyPackId, request.policyVersion)
    let (validationEvent, makerCheckerRequired) ←
      validatedActivationEvent definition events request.activatedBy
    let event := catalogEvent events .activated request.policyPackId request.policyVersion
      request.activatedBy definition.contentHash request.idempotencyKey requestHash
      (activationEventReason request definition makerCheckerRequired validationEvent
        (previous.map PolicyPackDefinition.policyVersion)) now
    let summary ← summaryFromDefinition services { definition with activationState := .active }
    return (⟨summary, event, false⟩,
      store.putEvent
        (activated store.definitions (request.policyPackId, request.policyVersion) definition
          previous) events request.idempotencyKey requestHash event)

end PolicyPackCatalogStore

inductive PolicyPackCatalogCommand where
  | validate (request : PolicyPackValidationRequest)
  | activate (request : PolicyPackActivationRequest)

inductive PolicyPackCatalogAnswer where
  | validated (response : PolicyPackValidationResponse)
  | activated (response : PolicyPackActivationResponse)

def PolicyPackCatalogCommand.idempotencyKey : PolicyPackCatalogCommand → String
  | .validate request => request.idempotencyKey
  | .activate request => request.idempotencyKey

/-- The event that a command recorded or found. -/
def PolicyPackCatalogAnswer.event : PolicyPackCatalogAnswer → PolicyPackAuditEvent
  | .validated response => response.validationEvent
  | .activated response => response.activationEvent

def PolicyPackCatalogStore.run (store : PolicyPackCatalogStore) (now : UtcDateTime) :
    PolicyPackCatalogCommand →
      Except PolicyPackError (PolicyPackCatalogAnswer × PolicyPackCatalogStore)
  | .validate request => (store.validatePolicyPackVersion services request now).map
    fun (response, store') => (.validated response, store')
  | .activate request => (store.activatePolicyPackVersion services request now).map
    fun (response, store') => (.activated response, store')

end Commands

namespace PolicyPackCatalogStore

/-- The activation state of a version. -/
def stateOf (definitions : Dict (String × String) PolicyPackDefinition) (key : String × String) :
    Option PolicyPackActivationState :=
  (Dict.get? definitions key).map PolicyPackDefinition.activationState

/-- Every version has one definition, which is about it, and one list of events. -/
structure WellKeyed (store : PolicyPackCatalogStore) : Prop where
  definitions : (store.definitions.map Prod.fst).Nodup
  key : ∀ item ∈ store.definitions, item.2.key = item.1
  events : (store.events.map Prod.fst).Nodup

/-- Everything a command with a key can do to the store, with the event that it answers with. -/
inductive Step (store : PolicyPackCatalogStore) (key : String) (event : PolicyPackAuditEvent) :
    PolicyPackCatalogStore → Prop where
  | replayed (requestHash : String)
    (bound : Dict.get? store.idempotency key = some (requestHash, event)) :
    Step store key event store
  | validated (requestHash : String) (definition : PolicyPackDefinition)
    (events : List PolicyPackAuditEvent)
    (stored : Dict.get? store.definitions event.version = some definition)
    (listed : Dict.get? store.events event.version = some events)
    (type : event.eventType = .validated)
    (eventId_eq : event.eventId = catalogEventIdOf (events.length + 1)) :
    Step store key event (store.putEvent store.definitions events key requestHash event)
  | activated (requestHash : String) (definition : PolicyPackDefinition)
    (active : Option PolicyPackDefinition) (events : List PolicyPackAuditEvent)
    (stored : Dict.get? store.definitions event.version = some definition)
    (single : store.singleActiveDefinition event.policyPackId = .ok active)
    (listed : Dict.get? store.events event.version = some events)
    (type : event.eventType = .activated)
    (eventId_eq : event.eventId = catalogEventIdOf (events.length + 1)) :
    Step store key event (store.putEvent
      (PolicyPackCatalogStore.activated store.definitions event.version definition
        (active.filter fun active => active.key ≠ definition.key)) events key requestHash event)

section Inversion

variable {services} {store store' : PolicyPackCatalogStore} {now : UtcDateTime}
  {event : PolicyPackAuditEvent} {key requestHash : String}

theorem elim_error_eq_ok {α : Type} {E : Type} {x : Option α} {error : E} {a : α} :
    x.elim (.error error) .ok = (.ok a : Except E α) ↔ x = some a := by
  cases x <;> simp

theorem bound_of_replayed (h : findReplayedPolicyPackCatalogEvent services store.idempotency key
    requestHash = .ok (some event)) :
    ∃ storedHash, Dict.get? store.idempotency key = some (storedHash, event) := by
  unfold findReplayedPolicyPackCatalogEvent at h
  split at h
  · cases h
  · next storedHash stored hstored =>
    split at h
    · cases h
      exact ⟨storedHash, hstored⟩
    · cases h

theorem step_of_validate {request : PolicyPackValidationRequest}
    {response : PolicyPackValidationResponse}
    (h : store.validatePolicyPackVersion services request now = .ok (response, store')) :
    Step store request.idempotencyKey response.validationEvent store' := by
  obtain ⟨definition, hdefinition, h⟩ := bind_eq_ok.mp h
  obtain ⟨replayed, hreplayed, h⟩ := bind_eq_ok.mp h
  split at h
  · obtain ⟨summary, -, h⟩ := bind_eq_ok.mp h
    obtain ⟨diagnostics, -, h⟩ := bind_eq_ok.mp h
    cases h
    obtain ⟨storedHash, hbound⟩ := bound_of_replayed hreplayed
    exact .replayed storedHash hbound
  · obtain ⟨_, -, h⟩ := bind_eq_ok.mp h
    obtain ⟨sampleFixtureRefs, -, h⟩ := bind_eq_ok.mp h
    obtain ⟨events, hevents, h⟩ := bind_eq_ok.mp h
    obtain ⟨summary, -, h⟩ := bind_eq_ok.mp h
    cases h
    exact .validated _ definition events (elim_error_eq_ok.mp hdefinition)
      (elim_error_eq_ok.mp hevents) rfl rfl

theorem step_of_activate {request : PolicyPackActivationRequest}
    {response : PolicyPackActivationResponse}
    (h : store.activatePolicyPackVersion services request now = .ok (response, store')) :
    Step store request.idempotencyKey response.activationEvent store' := by
  obtain ⟨definition, hdefinition, h⟩ := bind_eq_ok.mp h
  obtain ⟨active, hactive, h⟩ := bind_eq_ok.mp h
  obtain ⟨replayed, hreplayed, h⟩ := bind_eq_ok.mp h
  split at h
  · obtain ⟨summary, -, h⟩ := bind_eq_ok.mp h
    cases h
    obtain ⟨storedHash, hbound⟩ := bound_of_replayed hreplayed
    exact .replayed storedHash hbound
  · obtain ⟨_, -, h⟩ := bind_eq_ok.mp h
    obtain ⟨events, hevents, h⟩ := bind_eq_ok.mp h
    obtain ⟨⟨validationEvent, makerCheckerRequired⟩, -, h⟩ := bind_eq_ok.mp h
    obtain ⟨summary, -, h⟩ := bind_eq_ok.mp h
    cases h
    exact .activated _ definition active events (elim_error_eq_ok.mp hdefinition) hactive
      (elim_error_eq_ok.mp hevents) rfl rfl

theorem step_of_run {command : PolicyPackCatalogCommand} {answer : PolicyPackCatalogAnswer}
    (h : store.run services now command = .ok (answer, store')) :
    Step store command.idempotencyKey answer.event store' := by
  cases command with
  | validate request =>
    obtain ⟨⟨response, after⟩, hresponse, heq⟩ := map_eq_ok.mp h
    cases heq
    exact step_of_validate hresponse
  | activate request =>
    obtain ⟨⟨response, after⟩, hresponse, heq⟩ := map_eq_ok.mp h
    cases heq
    exact step_of_activate hresponse

end Inversion

section States

variable {store store' : PolicyPackCatalogStore} {event : PolicyPackAuditEvent} {key : String}
  {definition : PolicyPackDefinition}

theorem stateOf_set {definitions : Dict (String × String) PolicyPackDefinition}
    {k k' : String × String} : stateOf (Dict.set definitions k definition) k' =
      if k = k' then some definition.activationState else stateOf definitions k' := by
  rw [stateOf, Dict.get?_set]
  split <;> rfl

theorem WellKeyed.key_eq (h : store.WellKeyed) {k : String × String}
    (hstored : Dict.get? store.definitions k = some definition) : definition.key = k :=
  h.key _ (Dict.mem_of_get? hstored)

/-- Setting a definition under its key keeps the definitions under theirs. -/
theorem keyed_set {definitions : Dict (String × String) PolicyPackDefinition}
    (h : ∀ item ∈ definitions, item.2.key = item.1) {k : String × String}
    (hkey : definition.key = k) :
    ∀ item ∈ Dict.set definitions k definition, item.2.key = item.1 := by
  rintro ⟨k', definition'⟩ hitem
  rcases Dict.mem_set hitem with ⟨rfl, rfl⟩ | ⟨-, hold⟩
  · exact hkey
  · exact h _ hold

theorem WellKeyed.activated (h : store.WellKeyed) (previous : Option PolicyPackDefinition)
    (hstored : Dict.get? store.definitions event.version = some definition) :
    ((activated store.definitions event.version definition previous).map Prod.fst).Nodup ∧
      ∀ item ∈ PolicyPackCatalogStore.activated store.definitions event.version definition previous,
        item.2.key = item.1 := by
  have hkey : definition.key = event.version := h.key_eq hstored
  have hkey : PolicyPackDefinition.key { definition with activationState := .active } =
      event.version := hkey
  rcases previous with _ | previous
  · exact ⟨Dict.nodup_keys_set h.definitions, keyed_set h.key hkey⟩
  · refine ⟨Dict.nodup_keys_set (Dict.nodup_keys_set h.definitions), ?_⟩
    exact keyed_set (keyed_set h.key hkey) rfl

theorem mem_activeDefinitions {policyPackId : String} (h : store.WellKeyed) :
    definition ∈ store.activeDefinitions policyPackId ↔
      Dict.get? store.definitions definition.key = some definition ∧
        definition.policyPackId = policyPackId ∧ definition.activationState = .active := by
  unfold activeDefinitions
  constructor
  · intro hmem
    obtain ⟨⟨k, found⟩, hitem, rfl⟩ := List.mem_map.mp hmem
    obtain ⟨hitem, hcond⟩ := List.mem_filter.mp hitem
    obtain ⟨hpack, hactive⟩ := of_decide_eq_true hcond
    have hkey : found.key = k := h.key _ hitem
    refine ⟨by rw [hkey]; exact Dict.get?_of_mem h.definitions hitem, ?_, hactive⟩
    rw [← hpack, ← hkey]
    rfl
  · rintro ⟨hstored, hpack, hactive⟩
    refine List.mem_map.mpr ⟨(definition.key, definition), ?_, rfl⟩
    exact List.mem_filter.mpr ⟨Dict.mem_of_get? hstored, decide_eq_true ⟨hpack, hactive⟩⟩

/-- The single active definition of a pack is the one that is stored as active, if any is. -/
theorem singleActive_spec {policyPackId : String} {active : Option PolicyPackDefinition}
    (h : store.WellKeyed) (hsingle : store.singleActiveDefinition policyPackId = .ok active)
    (definition : PolicyPackDefinition) : active = some definition ↔
      Dict.get? store.definitions definition.key = some definition ∧
        definition.policyPackId = policyPackId ∧ definition.activationState = .active := by
  rw [← mem_activeDefinitions h]
  unfold singleActiveDefinition at hsingle
  split at hsingle
  · cases hsingle
  · next hlength =>
    obtain rfl := Except.ok.inj hsingle
    rcases hlist : store.activeDefinitions policyPackId with _ | ⟨first, _ | ⟨second, rest⟩⟩
    · simp
    · simp [eq_comm]
    · simp [hlist] at hlength

/-- A version of the pack that is active is the single one. -/
theorem active_of_stateOf {active : Option PolicyPackDefinition} {k : String × String}
    (h : store.WellKeyed) (hsingle : store.singleActiveDefinition k.1 = .ok active)
    (hstate : stateOf store.definitions k = some .active) :
    ∃ definition, active = some definition ∧ definition.key = k := by
  obtain ⟨definition, hstored, hactive⟩ := Option.map_eq_some_iff.mp hstate
  have hkey := h.key_eq hstored
  subst hkey
  exact ⟨definition, (singleActive_spec h hsingle definition).mpr ⟨hstored, rfl, hactive⟩, rfl⟩

/-- An activation makes its version active and supersedes the active one of its pack. -/
theorem stateOf_activated {active : Option PolicyPackDefinition} (h : store.WellKeyed)
    (hstored : Dict.get? store.definitions event.version = some definition)
    (hsingle : store.singleActiveDefinition event.policyPackId = .ok active) :
    stateOf (activated store.definitions event.version definition
        (active.filter fun active => active.key ≠ definition.key)) =
      activateMember .active .superseded (stateOf store.definitions) event.version := by
  have hkey : definition.key = event.version := h.key_eq hstored
  have honly : ∀ k, k.1 = event.version.1 → stateOf store.definitions k = some .active →
      ∃ definition, active = some definition ∧ definition.key = k :=
    fun k hpack hstate => active_of_stateOf h (hpack ▸ hsingle) hstate
  funext k
  unfold activateMember
  rcases hprevious : active.filter fun active => active.key ≠ definition.key with _ | previous
  · rw [activated, hprevious, Option.elim_none, stateOf_set]
    by_cases hk : k = event.version
    · rw [if_pos hk.symm, if_pos hk]
    · rw [if_neg (Ne.symm hk), if_neg hk, if_neg]
      rintro ⟨hpack, hstate⟩
      obtain ⟨other, hactive, rfl⟩ := honly k hpack hstate
      rw [hactive, Option.filter_some, if_pos (by simp [hkey, hk])] at hprevious
      cases hprevious
  · obtain ⟨hactive, hne⟩ := Option.filter_eq_some_iff.mp hprevious
    have hne : previous.key ≠ event.version := by simpa [hkey] using hne
    obtain ⟨hstored', hpack', hactive'⟩ := (singleActive_spec h hsingle previous).mp hactive
    rw [activated, hprevious, Option.elim_some, stateOf_set, stateOf_set]
    by_cases hk : k = event.version
    · rw [if_pos hk, if_neg (hk ▸ hne), if_pos hk.symm]
    · rw [if_neg hk, if_neg (Ne.symm hk)]
      by_cases hprev : previous.key = k
      · subst hprev
        rw [if_pos rfl, if_pos ⟨hpack', by rw [stateOf, hstored', Option.map_some, hactive']⟩]
      · rw [if_neg hprev, if_neg]
        rintro ⟨hpack, hstate⟩
        obtain ⟨other, hother, rfl⟩ := honly k hpack hstate
        exact hprev (by rw [Option.some.inj (hactive.symm.trans hother)])

end States

end PolicyPackCatalogStore

end LotusAdvise.PolicyPacks

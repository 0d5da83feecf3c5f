import LotusAdvise.AdvisorCockpit.ActionIdentity
import LotusAdvise.Proposals.CockpitAcknowledgements
import LotusAdvise.Proposals.Idempotency

/-! # Acknowledging an action

A caller acknowledges a listed action under an idempotency key. The key is stored with the hash
of the request and the item; a call with a stored key is answered from the acknowledgement
that the item has by then. Keys and references are bounded when they are stored, not when
they are looked up.
-/

namespace LotusAdvise.AdvisorCockpit

open Proposals Runs Words

def cockpitContractVersion : String := "rfc0026.advisor-cockpit-api.v1"

def cockpitAcknowledgementOperation : String := "ACKNOWLEDGE_COCKPIT_ACTION"

def advisorCockpitAcknowledgeCapability : String := "advisory.advisor_cockpit.acknowledge"

/-- The roles of the callers, sorted. -/
def advisorCockpitAuthorizedRoles : List String :=
  ["ADVISOR", "ARCHIVE_OWNER", "COMPLIANCE_REVIEWER", "CRM_OWNER", "DESK_HEAD", "EXECUTION_OWNER",
    "INVESTMENT_DESK", "OPERATIONS", "PORTFOLIO_MANAGER", "REPORTING_OWNER", "SYSTEM"]

structure AdvisorCockpitPrincipal where
  actorId : String
  role : String
  tenantId : String
  legalEntityCode : String
  correlationId : String
  serviceIdentity : String
  authorizedAdvisorId : Option String := none
  authorizedPortfolioId : Option String := none

structure AdvisorCockpitAcknowledgeRequest where
  actionItemVersion : ℕ
  acknowledgedBy : String
  acknowledgementNote : Option String

structure AdvisorCockpitAcknowledgeResponse where
  actionItem : AdvisoryActionItem
  acknowledgement : CockpitAcknowledgementState
  replayed : Bool
  audit : JsonObject

/-- A call: the action as it is listed for the caller, the request, and the time. Identifiers of
listed actions are in their normal form. -/
structure AcknowledgementCall where
  action : AdvisoryActionItem
  payload : AdvisorCockpitAcknowledgeRequest
  idempotencyKey : String
  correlationId : Option String
  principal : AdvisorCockpitPrincipal
  now : DateTime
  listed : normalizedText action.actionItemId = action.actionItemId ∧
    action.actionItemId.toList.length ≤ cockpitIdentifierMaxLength

/-- `" ".join(value.split()) or None` -/
def nonBlankText (value : String) : Option String :=
  if normalizedText value = "" then none else some (normalizedText value)

def normalizeOptionalSupportNote (value : Option String) : Option String := value.bind nonBlankText

section Call

variable (services : CockpitServices)

def normalizeOptionalBusinessText (fieldName : String) :
    (value : Option String) → Except ProposalError (Option String)
  | none => .ok none
  | some text =>
    if normalizedText text = "" then .ok none
    else (normalizeBusinessText services fieldName (normalizedText text)).map some

def AdvisorCockpitPrincipal.auditMetadata (principal : AdvisorCockpitPrincipal)
    (capability : String) : JsonObject :=
  [("subject", .str principal.actorId), ("role", .str principal.role),
    ("tenant_id", .str principal.tenantId), ("legal_entity_code", .str principal.legalEntityCode),
    ("correlation_id", .str principal.correlationId),
    ("service_identity", .str principal.serviceIdentity), ("capability", .str capability)] ++
    (principal.authorizedAdvisorId.elim [] fun id => [("authorized_advisor_id", .str id)]) ++
    principal.authorizedPortfolioId.elim [] fun id => [("authorized_portfolio_id", .str id)]

def cockpitAcknowledgementAuditReason (reason : JsonObject) (principal : AdvisorCockpitPrincipal) :
    JsonObject :=
  reason ++
    [("trusted_principal", .obj (principal.auditMetadata advisorCockpitAcknowledgeCapability)),
      ("acknowledgement_authorization", .obj
        [("decision", .str "AUTHORIZED"),
          ("required_capability", .str advisorCockpitAcknowledgeCapability),
          ("authorized_roles", .arr (advisorCockpitAuthorizedRoles.map .str)),
          ("scope_decision", .str "AUTHORIZED")])]

def acknowledgementRequestHash (actionItemId : String)
    (payload : AdvisorCockpitAcknowledgeRequest) : String :=
  services.hashCanonicalPayload
    [("contract_version", .str cockpitContractVersion),
      ("operation", .str cockpitAcknowledgementOperation),
      ("action_item_id", .str actionItemId),
      ("action_item_version", .int payload.actionItemVersion),
      ("acknowledged_by", .str payload.acknowledgedBy),
      ("acknowledgement_note", .ofText? payload.acknowledgementNote)]

/-- The state as the response shows it; its fields are checked. -/
def acknowledgementState (record : CockpitAcknowledgementRecord) :
    Except ProposalError CockpitAcknowledgementState := do
  let acknowledgementId ← normalizeOptionalIdentifier services "cockpit acknowledgement"
    (some record.acknowledgementId)
  let acknowledgedBy ← normalizeOptionalIdentifier services "cockpit acknowledgement"
    (some record.acknowledgedBy)
  let acknowledgedAt ← normalizeOptionalIdentifier services "cockpit acknowledgement"
    (some record.acknowledgedAt.isoformat)
  let acknowledgementNote ← normalizeOptionalBusinessText services "cockpit acknowledgement note"
    record.acknowledgementNote
  return { acknowledged := true
           acknowledgementId
           acknowledgedBy
           acknowledgedAt
           acknowledgementNote }

def acknowledgementResponse (action : AdvisoryActionItem) (record : CockpitAcknowledgementRecord)
    (replayed : Bool) : Except ProposalError AdvisorCockpitAcknowledgeResponse :=
  (acknowledgementState services record).map fun acknowledgement =>
    { actionItem := { action with acknowledgementState := acknowledgement }
      acknowledgement
      replayed
      audit := [("acknowledgement_id", .str record.acknowledgementId),
        ("correlation_id", .ofText? record.correlationId),
        ("contract_version", .str cockpitContractVersion),
        ("idempotency_key", JsonObject.get record.reasonJson "idempotency_key")] }

variable (call : AcknowledgementCall)

/-- The record of a call; its fields are bounded and checked. -/
def acknowledgementRecord (idempotencyKey requestHash : String) :
    Except ProposalError CockpitAcknowledgementRecord := do
  let acknowledgedBy := Text.strip call.payload.acknowledgedBy
  require (acknowledgedBy ≠ "") (.valueError "ACKNOWLEDGED_BY_REQUIRED")
  require (acknowledgedBy.toList.length ≤ cockpitIdentifierMaxLength)
    (.responseInvalid "acknowledged_by")
  require (∀ note ∈ call.payload.acknowledgementNote, note.toList.length ≤ cockpitSummaryMaxLength)
    (.responseInvalid "acknowledgement_note")
  return { acknowledgementId := boundedReference services
             (boundedReference services ("ack_" ++ call.action.actionItemId))
           actionItemId := boundedReference services call.action.actionItemId
           actionItemVersion := call.payload.actionItemVersion
           acknowledgedBy
           acknowledgedAt := call.now
           acknowledgementNote := normalizeOptionalSupportNote call.payload.acknowledgementNote
           correlationId := boundedOptionalReference services call.correlationId
           reasonJson := cockpitAcknowledgementAuditReason
             [("contract_version", .str cockpitContractVersion),
               ("idempotency_key", .str idempotencyKey), ("request_hash", .str requestHash),
               ("owner_role", .str call.action.ownerRole.text),
               ("status_after_acknowledgement", .str call.action.status.text)] call.principal }

def acknowledgementIdempotency (record : CockpitAcknowledgementRecord)
    (idempotencyKey requestHash : String) : CockpitAcknowledgementIdempotencyRecord where
  idempotencyKey := boundedReference services idempotencyKey
  requestHash := boundedReference services requestHash
  acknowledgementId := boundedReference services record.acknowledgementId
  actionItemId := boundedReference services call.action.actionItemId
  createdAt := call.now

/-- The answer to a call with a stored key. -/
def acknowledgementReplayResponse (store : AcknowledgementDicts)
    (replayed : CockpitAcknowledgementIdempotencyRecord) (requestHash : String) :
    Except ProposalError AdvisorCockpitAcknowledgeResponse :=
  if replayed.requestHash ≠ requestHash then
    .error (.idempotencyConflict "ADVISOR_COCKPIT_ACKNOWLEDGEMENT_IDEMPOTENCY_CONFLICT")
  else
    match store.getCockpitAcknowledgement replayed.actionItemId with
    | none => .error (.notFound "ADVISOR_COCKPIT_ACKNOWLEDGEMENT_NOT_FOUND")
    | some record => acknowledgementResponse services call.action record true

/-- The answer to a call with a key that was not found, and the store after it. -/
def acknowledgeNew (store : AcknowledgementDicts) (idempotencyKey requestHash : String) :
    Except ProposalError AdvisorCockpitAcknowledgeResponse × AcknowledgementDicts :=
  match acknowledgementRecord services call idempotencyKey requestHash with
  | .error error => (.error error, store)
  | .ok record =>
    match store.saveCockpitAcknowledgementWithIdempotency record
      (acknowledgementIdempotency services call record idempotencyKey requestHash) with
    | .error _ => (.error
        (.idempotencyConflict "ADVISOR_COCKPIT_ACKNOWLEDGEMENT_IDEMPOTENCY_CONFLICT"), store)
    | .ok store => (acknowledgementResponse services call.action record false, store)

def acknowledgeCockpitAction (store : AcknowledgementDicts) :
    Except ProposalError AdvisorCockpitAcknowledgeResponse × AcknowledgementDicts :=
  match requireProposalIdempotencyKey (some call.idempotencyKey) with
  | .error error => (.error error, store)
  | .ok idempotencyKey =>
    if call.payload.actionItemVersion ≠ call.action.actionItemVersion then
      (.error (.validation "ADVISOR_COCKPIT_ACTION_VERSION_STALE"), store)
    else
      match store.idempotency idempotencyKey with
      | some replayed =>
        (acknowledgementReplayResponse services call store replayed
          (acknowledgementRequestHash services call.action.actionItemId call.payload), store)
      | none =>
        acknowledgeNew services call store idempotencyKey
          (acknowledgementRequestHash services call.action.actionItemId call.payload)

end Call

/-! ## Bounded texts -/

section Texts

variable {services : CockpitServices} {value : String}

theorem collapsed_collapsed (cs : List Char) : collapsed (collapsed cs) = collapsed cs := by
  rw [collapsed, collapsed, words_joined_of (by decide) fun w hw => mem_words hw]

@[simp] theorem normalizedText_normalizedText : normalizedText (normalizedText value) =
    normalizedText value := by
  rw [normalizedText, normalizedText, String.toList_ofList, collapsed_collapsed]

theorem boundedReference_of_length (h : value.toList.length ≤ cockpitIdentifierMaxLength) :
    boundedReference services value = normalizedText value := by
  have hlength : (collapsed value.toList).length ≤ cockpitIdentifierMaxLength :=
    (length_joined_words_le ' ').trans h
  rw [boundedReference, boundedText, if_pos hlength, normalizedText]

theorem boundedReference_boundedReference
    (h : value.toList.length ≤ cockpitIdentifierMaxLength) :
    boundedReference services (boundedReference services value) =
      boundedReference services value := by
  have hlength : (normalizedText value).toList.length ≤ cockpitIdentifierMaxLength := by
    rw [normalizedText, String.toList_ofList]
    exact (length_joined_words_le ' ').trans h
  rw [boundedReference_of_length h, boundedReference_of_length hlength,
    normalizedText_normalizedText]

/-- A valid key is short enough to be stored as a reference. -/
theorem length_of_require {raw : Option String} {key : String}
    (h : requireProposalIdempotencyKey raw = .ok key) :
    key.toList.length ≤ cockpitIdentifierMaxLength := by
  unfold requireProposalIdempotencyKey normalizeOptionalIdempotencyKey at h
  cases raw with
  | none => cases h
  | some text =>
    simp only at h
    split at h
    · cases h
    · next hnormalized =>
      split at hnormalized
      · cases hnormalized
      · next hvalid =>
        obtain rfl := Option.some.inj hnormalized
        obtain rfl := Except.ok.inj h
        have hshort : (Text.strip text).length ≤ maxIdempotencyKeyLength :=
          Nat.le_of_not_lt fun hlong => hvalid (.inr (.inl hlong))
        rw [← String.length_toList] at hshort
        exact hshort.trans (by decide)

theorem normalizeOptionalIdentifier_eq {fieldName : String} {value : Option String} :
    normalizeOptionalIdentifier services fieldName value =
      (value.bind nonBlankText).elim (.ok none) fun text =>
        (normalizeRequiredIdentifier services fieldName text).map some := by
  cases value with
  | none => rfl
  | some text =>
    by_cases hblank : normalizedText text = ""
    · simp only [normalizeOptionalIdentifier, Option.bind_some, nonBlankText, if_pos hblank,
        Option.elim_none]
    · simp only [normalizeOptionalIdentifier, Option.bind_some, nonBlankText, if_neg hblank,
        Option.elim_some]

theorem normalizeOptionalBusinessText_eq {fieldName : String} {value : Option String} :
    normalizeOptionalBusinessText services fieldName value =
      (value.bind nonBlankText).elim (.ok none) fun text =>
        (normalizeBusinessText services fieldName text).map some := by
  cases value with
  | none => rfl
  | some text =>
    by_cases hblank : normalizedText text = ""
    · simp only [normalizeOptionalBusinessText, Option.bind_some, nonBlankText, if_pos hblank,
        Option.elim_none]
    · simp only [normalizeOptionalBusinessText, Option.bind_some, nonBlankText, if_neg hblank,
        Option.elim_some]

theorem normalizedText_nonBlankText {text : String} (h : nonBlankText value = some text) :
    normalizedText text = text := by
  unfold nonBlankText at h
  split at h
  · cases h
  · obtain rfl := Option.some.inj h
    exact normalizedText_normalizedText

/-- An optional field that passes its checks has the text without surplus white space. -/
theorem optional_eq_ok {maxLength : ℕ} {fieldName : String} {value normalized : Option String}
    (h : ((value.bind nonBlankText).elim (.ok none) fun text =>
      (normalizeBounded services maxLength fieldName text).map some) = .ok normalized) :
    normalized = value.bind nonBlankText := by
  rcases hvalue : value.bind nonBlankText with _ | text
  · rw [hvalue] at h
    exact (Except.ok.inj h).symm
  · rw [hvalue] at h
    obtain ⟨checked, hchecked, rfl⟩ := map_eq_ok.mp h
    obtain ⟨raw, -, hraw⟩ := Option.bind_eq_some_iff.mp hvalue
    rw [normalizeBounded_eq_ok hchecked, normalizedText_nonBlankText hraw]

end Texts

/-! ## What a response shows -/

/-- Who acknowledged, when, and the note. -/
structure AcknowledgementDetails where
  acknowledgedBy : Option String
  acknowledgedAt : Option String
  acknowledgementNote : Option String
deriving DecidableEq

def detailsOfState (state : CockpitAcknowledgementState) : AcknowledgementDetails :=
  ⟨state.acknowledgedBy, state.acknowledgedAt, state.acknowledgementNote⟩

/-- The details of a stored acknowledgement, without surplus white space. -/
def detailsOfRecord (record : CockpitAcknowledgementRecord) : AcknowledgementDetails :=
  ⟨nonBlankText record.acknowledgedBy, nonBlankText record.acknowledgedAt.isoformat,
    record.acknowledgementNote.bind nonBlankText⟩

section Details

variable {services : CockpitServices} {record other : CockpitAcknowledgementRecord}
  {state : CockpitAcknowledgementState}

theorem details_of_acknowledgementState (h : acknowledgementState services record = .ok state) :
    detailsOfState state = detailsOfRecord record := by
  simp only [acknowledgementState, bind_eq_ok] at h
  obtain ⟨_, _, who, hwho, time, htime, note, hnote, h⟩ := h
  obtain rfl := Except.ok.inj h
  rw [normalizeOptionalIdentifier_eq] at hwho htime
  rw [normalizeOptionalBusinessText_eq] at hnote
  simp only [detailsOfState, detailsOfRecord, optional_eq_ok hwho, optional_eq_ok htime,
    optional_eq_ok hnote, Option.bind_some]

/-- The state depends on the identifier and the details only. -/
theorem acknowledgementState_congr (hid : record.acknowledgementId = other.acknowledgementId)
    (hdetails : detailsOfRecord record = detailsOfRecord other) :
    acknowledgementState services record = acknowledgementState services other := by
  obtain ⟨hwho, htime, hnote⟩ := AcknowledgementDetails.mk.inj hdetails
  simp only [acknowledgementState, normalizeOptionalIdentifier_eq,
    normalizeOptionalBusinessText_eq, Option.bind_some, hid, hwho, htime, hnote]

theorem acknowledgementResponse_eq_ok {action : AdvisoryActionItem} {replayed : Bool}
    {response : AdvisorCockpitAcknowledgeResponse}
    (h : acknowledgementResponse services action record replayed = .ok response) :
    acknowledgementState services record = .ok response.acknowledgement ∧
      response.replayed = replayed := by
  obtain ⟨state, hstate, rfl⟩ := map_eq_ok.mp h
  exact ⟨hstate, rfl⟩

end Details

end LotusAdvise.AdvisorCockpit

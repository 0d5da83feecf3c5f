import LotusAdvise.AdvisorCockpit.Acknowledgements
import LotusAdvise.AdvisorCockpit.SourceLoader

/-! # The cockpit service

The read model of a caller with the state at runtime: which actions have been acknowledged, and
the correlation identifier of the request. Pages, packets and the snapshot are models of their
own, with bounds of their own; the snapshot is dumped and validated again.
-/

namespace LotusAdvise.AdvisorCockpit

open Proposals

section Rules

variable (services : CockpitServices)

/-- A number of microseconds. -/
def hours (count : ℕ) : ℤ := count * 3600000000

def slaAgeBandFromDelta (delta : ℤ) : AdvisorCockpitSlaAgeBand :=
  if delta > hours 24 then .notDue
  else if delta > 0 then .dueSoon
  else if delta ≥ -hours 1 then .dueNow
  else if delta ≤ -hours 24 then .criticalOverdue
  else .overdue

/-- The time of a date-time in UTC; a naive one is read as UTC. -/
def ensureUtc (value : DateTime) : ℤ := value.localMicroseconds - value.utcOffset.getD 0

/-- `value.replace("Z", "+00:00")` -/
def withUtcOffset (value : String) : String :=
  String.ofList (value.toList.flatMap fun c => if c = 'Z' then "+00:00".toList else [c])

def deriveCockpitSlaAgeBand (dueAt : Option String) (now : DateTime) :
    Except ProposalError AdvisorCockpitSlaAgeBand :=
  match presentKey dueAt with
  | none => .ok .notApplicable
  | some text => (services.parseTimestamp (withUtcOffset text)).map fun due =>
      slaAgeBandFromDelta (ensureUtc due - ensureUtc now)

/-- The acknowledgement of an action, if it is one of the version that is shown. -/
def acknowledgedAction (action : AdvisoryActionItem) :
    Option CockpitAcknowledgementRecord → Except ProposalError AdvisoryActionItem
  | none => .ok action
  | some acknowledgement =>
    if acknowledgement.actionItemVersion = action.actionItemVersion then
      (acknowledgementState services acknowledgement).map fun state =>
        { action with acknowledgementState := state }
    else .ok action

def correlatedAction (correlationId : Option String) (action : AdvisoryActionItem) :
    AdvisoryActionItem :=
  if (presentKey correlationId).isSome ∧ action.correlationId = none then
    { action with correlationId }
  else action

def attachRuntimeState (correlationId : Option String) (now : DateTime)
    (acknowledgements : String → Option CockpitAcknowledgementRecord)
    (action : AdvisoryActionItem) : Except ProposalError AdvisoryActionItem := do
  let slaAgeBand ← deriveCockpitSlaAgeBand services action.dueAt now
  let acknowledged ← acknowledgedAction services { action with slaAgeBand }
    (acknowledgements action.actionItemId)
  return correlatedAction correlationId acknowledged

end Rules

section Projection

variable (services : CockpitServices)

def visibleOwnerRolesForRole :
    AdvisorCockpitCallerRole → Option (List AdvisorCockpitOwnerRole)
  | .advisor => none
  | .deskHead => none
  | .complianceReviewer => some [.complianceReviewer]
  | .investmentDesk => some [.investmentDesk]
  | .operations => some [.reportingOwner, .archiveOwner, .executionOwner, .operations]
  | .portfolioManager => some [.portfolioManager]
  | .crmOwner => some [.crmOwner, .advisor]
  | role => some [role]

def ownerRoleVisible (role : AdvisorCockpitCallerRole) (ownerRole : AdvisorCockpitOwnerRole) :
    Bool :=
  (visibleOwnerRolesForRole role).all fun visible => ownerRole ∈ visible || ownerRole = .system

def projectActionsForCaller (actions : List AdvisoryActionItem)
    (callerContext : CockpitCallerContext) : List AdvisoryActionItem :=
  actions.filter fun action => ownerRoleVisible callerContext.role action.ownerRole

def AdvisorCockpitActionPriority.text : AdvisorCockpitActionPriority → String
  | .critical => "CRITICAL"
  | .high => "HIGH"
  | .medium => "MEDIUM"
  | .low => "LOW"
  | .informational => "INFORMATIONAL"

def AdvisorCockpitSlaAgeBand.text : AdvisorCockpitSlaAgeBand → String
  | .notDue => "NOT_DUE"
  | .dueSoon => "DUE_SOON"
  | .dueNow => "DUE_NOW"
  | .overdue => "OVERDUE"
  | .criticalOverdue => "CRITICAL_OVERDUE"
  | .notApplicable => "NOT_APPLICABLE"

/-- What an action is counted under. -/
def countKeys (action : AdvisoryActionItem) : List String :=
  ["family." ++ action.actionFamily.text, "status." ++ action.status.text,
    "priority." ++ action.priority.text, "owner." ++ action.ownerRole.text,
    "sla." ++ action.slaAgeBand.text]

def countOne (counts : Dict String ℕ) (key : String) : Dict String ℕ :=
  counts.set key ((counts.get? key).getD 0 + 1)

def actionCounts (actions : List AdvisoryActionItem) : Dict String ℕ :=
  ((actions.flatMap countKeys).foldl countOne []).insertionSort fun count other =>
    count.1 ≤ other.1

def supportability (actions : List AdvisoryActionItem) : JsonObject :=
  [("contract_version", .str cockpitContractVersion), ("source_limit", .int cockpitSourceLimit),
    ("action_count", .int actions.length),
    ("api_posture", .str "SUPPORTED_BY_LOTUS_ADVISE_RFC0026"),
    ("gateway_posture", .str "SUPPORTED_BY_LOTUS_GATEWAY_RFC0026"),
    ("workbench_posture", .str "CANONICAL_WORKBENCH_PROOF_PASSED_RFC0026"),
    ("data_product_posture", .str "ACTIVE_ADVISOR_COCKPIT_PRODUCTS_RFC0026"),
    ("canonical_proof", .str "PB_SG_GLOBAL_BAL_001_ADVISOR_COCKPIT_VALIDATED"),
    ("client_ready_publication", .str "BLOCKED"),
    ("external_client_communication", .str "BLOCKED")]

/-- `sorted({capability for action in actions for capability in ...})` -/
def unsupportedCapabilities (actions : List AdvisoryActionItem) :
    List AdvisorCockpitUnsupportedCapability :=
  (uniqueOrdered (actions.flatMap (·.unsupportedCapabilities))).insertionSort
    fun capability other => capability.text ≤ other.text

structure MeetingPreparationPacket where
  packetId : String
  contextType : MeetingPreparationContextType
  contextRef : String
  status : AdvisorCockpitActionStatus
  evidenceRefs : List CockpitEvidenceRef
  sections : List JsonObject
deriving DecidableEq

end Projection

section Validators

variable (services : CockpitServices)

def CockpitEvidenceRef.validated (ref : CockpitEvidenceRef) :
    Except ProposalError CockpitEvidenceRef := do
  let evidenceId ← normalizeRequiredIdentifier services "cockpit evidence reference" ref.evidenceId
  let evidenceType ← normalizeRequiredIdentifier services "cockpit evidence reference"
    ref.evidenceType
  let sourceSystem ← normalizeRequiredIdentifier services "cockpit evidence reference"
    ref.sourceSystem
  let summary ← normalizeBusinessText services "cockpit evidence summary" ref.summary
  return { ref with evidenceId, evidenceType, sourceSystem, summary }

def CockpitLineageRef.validated (ref : CockpitLineageRef) :
    Except ProposalError CockpitLineageRef := do
  let lineageId ← normalizeRequiredIdentifier services "cockpit lineage reference" ref.lineageId
  let sourceSystem ← normalizeRequiredIdentifier services "cockpit lineage reference"
    ref.sourceSystem
  let contentHash ← normalizeOptionalIdentifier services "cockpit lineage hash" ref.contentHash
  return { lineageId, sourceSystem, contentHash }

def CockpitSourceReadinessGap.validated (gap : CockpitSourceReadinessGap) :
    Except ProposalError CockpitSourceReadinessGap := do
  let sourceFamily ← normalizeRequiredIdentifier services "cockpit source gap reference"
    gap.sourceFamily
  let gapCode ← normalizeRequiredIdentifier services "cockpit source gap reference" gap.gapCode
  let message ← normalizeBusinessText services "cockpit source gap message" gap.message
  return { gap with sourceFamily, gapCode, message }

def CockpitDependencyReadiness.validated (readiness : CockpitDependencyReadiness) :
    Except ProposalError CockpitDependencyReadiness := do
  let dependency ← normalizeRequiredIdentifier services "cockpit dependency reference"
    readiness.dependency
  let reasonCode ← normalizeRequiredIdentifier services "cockpit dependency reference"
    readiness.reasonCode
  let summary ← normalizeBusinessText services "cockpit dependency summary" readiness.summary
  return { readiness with dependency, reasonCode, summary }

/-- A state that is not acknowledged has no details. -/
def CockpitAcknowledgementState.FieldsMatch (state : CockpitAcknowledgementState) : Prop :=
  state.acknowledged = false → state = { acknowledged := false }

instance (state : CockpitAcknowledgementState) : Decidable state.FieldsMatch := by
  unfold CockpitAcknowledgementState.FieldsMatch
  infer_instance

def CockpitAcknowledgementState.validated (state : CockpitAcknowledgementState) :
    Except ProposalError CockpitAcknowledgementState := do
  let reference := normalizeOptionalIdentifier services "cockpit acknowledgement"
  let acknowledgementId ← reference state.acknowledgementId
  let acknowledgedBy ← reference state.acknowledgedBy
  let acknowledgedAt ← reference state.acknowledgedAt
  let acknowledgementNote ← normalizeOptionalBusinessText services
    "cockpit acknowledgement note" state.acknowledgementNote
  let normalized : CockpitAcknowledgementState :=
    { state with acknowledgementId, acknowledgedBy, acknowledgedAt, acknowledgementNote }
  require normalized.FieldsMatch
    (.valueError "unacknowledged cockpit state cannot carry acknowledgement detail")
  return normalized

def requireLength (field : String) (value : Option String) : Except ProposalError Unit :=
  require (∀ text ∈ value, text.toList.length ≤ cockpitIdentifierMaxLength) (.responseInvalid field)

def CockpitCallerContext.validated (context : CockpitCallerContext) :
    Except ProposalError CockpitCallerContext := do
  requireLength "advisor_id" context.advisorId
  requireLength "desk_id" context.deskId
  requireLength "coverage_team_id" context.coverageTeamId
  let reference := normalizeOptionalIdentifier services "caller context"
  let advisorId ← reference context.advisorId
  let deskId ← reference context.deskId
  let coverageTeamId ← reference context.coverageTeamId
  return { context with advisorId, deskId, coverageTeamId }

/-- An action is validated from a dump, with all that it refers to. The correlation identifier may
have been attached without a check. -/
def AdvisoryActionItem.revalidated (action : AdvisoryActionItem) :
    Except ProposalError AdvisoryActionItem := do
  requireLength "correlation_id" action.correlationId
  let evidenceRefs ← action.evidenceRefs.mapM (CockpitEvidenceRef.validated services)
  let sourceReadinessGaps ← action.sourceReadinessGaps.mapM
    (CockpitSourceReadinessGap.validated services)
  let dependencyReadiness ← action.dependencyReadiness.mapM
    (CockpitDependencyReadiness.validated services)
  let lineageRefs ← action.lineageRefs.mapM (CockpitLineageRef.validated services)
  let acknowledgementState ← action.acknowledgementState.validated services
  AdvisoryActionItem.validated services
    { action with evidenceRefs, sourceReadinessGaps, dependencyReadiness, lineageRefs
                  acknowledgementState }

def MeetingPreparationPacket.validated (packet : MeetingPreparationPacket) :
    Except ProposalError MeetingPreparationPacket := do
  let packetId ← normalizeRequiredIdentifier services "meeting preparation reference"
    packet.packetId
  let contextRef ← normalizeRequiredIdentifier services "meeting preparation reference"
    packet.contextRef
  return { packet with packetId, contextRef }

def MeetingPreparationPacket.revalidated (packet : MeetingPreparationPacket) :
    Except ProposalError MeetingPreparationPacket := do
  let evidenceRefs ← packet.evidenceRefs.mapM (CockpitEvidenceRef.validated services)
  MeetingPreparationPacket.validated services { packet with evidenceRefs }

end Validators

section Packets

variable (services : CockpitServices)

/-- The evidence of a source, or a reference to the packet itself. -/
def packetEvidence (source : MeetingPreparationActionSource) :
    Except ProposalError (List CockpitEvidenceRef) :=
  if source.evidenceRefs ≠ [] then .ok source.evidenceRefs
  else (CockpitEvidenceRef.validated services
    { evidenceId := boundedReference services source.preparationId
      evidenceType := "MEETING_PREPARATION_PACKET"
      sourceSystem := lotusAdviseSourceSystem
      accessClass := .customerConsumableSummary
      summary := boundedSummary source.summary }).map fun evidence => [evidence]

def packetSection (source : MeetingPreparationActionSource) : JsonObject :=
  [("section_id", .str "advisor_meeting_context"), ("title", .str "Advisor meeting context"),
    ("summary", .str (boundedSummary source.summary)),
    ("source_ref", .ofText? (boundedOptionalReference services (some
      (orText source.proposalId (orText source.portfolioId source.contextRef)))))]

def preparationPacket (source : MeetingPreparationActionSource) :
    Except ProposalError MeetingPreparationPacket := do
  let evidenceRefs ← packetEvidence services source
  MeetingPreparationPacket.validated services
    { packetId := boundedReference services source.preparationId
      contextType := source.contextType
      contextRef := boundedReference services source.contextRef
      status := .ready
      evidenceRefs
      sections := [packetSection services source] }

def preparationPackets (readModel : AdvisorCockpitSourceReadModel) :
    Except ProposalError (List MeetingPreparationPacket) :=
  readModel.meetingPreparations.mapM (preparationPacket services)

end Packets

section Pages

def cockpitActionDefaultPageSize : ℕ := 25

def cockpitActionMaxPageSize : ℕ := 100

def cockpitApiListMaxItems : ℕ := 64

def cockpitSupportabilityKeysMaxItems : ℕ := 64

def normalizeCockpitPageSize : (limit : Option ℤ) → ℕ
  | none => cockpitActionDefaultPageSize
  | some limit =>
    if limit < 1 then cockpitActionDefaultPageSize else min limit.toNat cockpitActionMaxPageSize

def cockpitCursorStart {Item : Type} (items : List Item) (identity : Item → String)
    (invalidCode : String) : (cursor : Option String) → Except ProposalError ℕ
  | none => .ok 0
  | some cursor =>
    match items.findIdx? (identity · = cursor) with
    | none => .error (.validation invalidCode)
    | some index => .ok (index + 1)

/-- The cursor of the next page, when there are items after this one. -/
def cockpitNextCursor {Item : Type} (items : List Item) (identity : Item → String)
    (start pageSize : ℕ) : Option String :=
  if start + pageSize < items.length then
    ((((items.drop start).take pageSize).getLast?).or items[start]?).map identity
  else none

structure AdvisoryActionItemPage where
  items : List AdvisoryActionItem
  nextCursor : Option String
  pageSize : ℕ
  totalCount : ℕ

structure AdvisorCockpitPreparationPacketPage where
  items : List MeetingPreparationPacket
  nextCursor : Option String
  pageSize : ℕ
  totalCount : ℕ
  supportability : JsonObject

structure AdvisorCockpitOperatingSnapshot where
  snapshotId : String
  callerContext : CockpitCallerContext
  asOf : String
  actionCounts : Dict String ℕ
  topPriorityActions : List AdvisoryActionItem
  preparationPackets : List MeetingPreparationPacket
  unsupportedCapabilities : List AdvisorCockpitUnsupportedCapability
  supportability : JsonObject

variable (services : CockpitServices)

def requireItems {Item : Type} (field : String) (maxItems : ℕ) (items : List Item) :
    Except ProposalError Unit :=
  require (items.length ≤ maxItems) (.responseInvalid field)

def AdvisoryActionItemPage.validated (page : AdvisoryActionItemPage) :
    Except ProposalError AdvisoryActionItemPage := do
  requireItems "items" cockpitListMaxItems page.items
  requireLength "next_cursor" page.nextCursor
  let nextCursor ← normalizeOptionalIdentifier services "cockpit action page cursor"
    page.nextCursor
  return { page with nextCursor }

def AdvisorCockpitPreparationPacketPage.validated (page : AdvisorCockpitPreparationPacketPage) :
    Except ProposalError AdvisorCockpitPreparationPacketPage := do
  requireItems "items" cockpitApiListMaxItems page.items
  requireLength "next_cursor" page.nextCursor
  require (1 ≤ page.pageSize ∧ page.pageSize ≤ cockpitActionMaxPageSize)
    (.responseInvalid "page_size")
  requireItems "supportability" cockpitSupportabilityKeysMaxItems page.supportability
  return page

/-- The checks of the snapshot itself, without those of the models in it. -/
def AdvisorCockpitOperatingSnapshot.validated (snapshot : AdvisorCockpitOperatingSnapshot) :
    Except ProposalError AdvisorCockpitOperatingSnapshot := do
  requireItems "action_counts" cockpitSupportabilityKeysMaxItems snapshot.actionCounts
  requireItems "top_priority_actions" cockpitListMaxItems snapshot.topPriorityActions
  requireItems "preparation_packets" cockpitListMaxItems snapshot.preparationPackets
  requireItems "unsupported_capabilities" cockpitListMaxItems snapshot.unsupportedCapabilities
  requireItems "supportability" cockpitSupportabilityKeysMaxItems snapshot.supportability
  let snapshotId ← normalizeRequiredIdentifier services "cockpit snapshot reference"
    snapshot.snapshotId
  let asOf ← normalizeRequiredIdentifier services "cockpit snapshot reference" snapshot.asOf
  let keys ← snapshot.actionCounts.mapM fun count =>
    normalizeRequiredIdentifier services "cockpit action count key" count.1
  return { snapshot with
    snapshotId, asOf
    actionCounts := Dict.ofItems (keys.zip (snapshot.actionCounts.map Prod.snd)) }

/-- `AdvisorCockpitSnapshotResponse.model_validate(snapshot.model_dump(mode="json"))` -/
def AdvisorCockpitOperatingSnapshot.revalidated (snapshot : AdvisorCockpitOperatingSnapshot) :
    Except ProposalError AdvisorCockpitOperatingSnapshot := do
  let callerContext ← snapshot.callerContext.validated services
  let topPriorityActions ← snapshot.topPriorityActions.mapM
    (AdvisoryActionItem.revalidated services)
  let preparationPackets ← snapshot.preparationPackets.mapM
    (MeetingPreparationPacket.revalidated services)
  AdvisorCockpitOperatingSnapshot.validated services
    { snapshot with callerContext, topPriorityActions, preparationPackets }

end Pages

section Service

variable (services : CockpitServices) (content : CockpitContent) (read : CockpitRead)

def buildReadModel : Except ProposalError AdvisorCockpitSourceReadModel := do
  let readModel ← loadAdvisorCockpitSourceReadModel services content read
  let acknowledgements := content.repository.listCockpitAcknowledgements
    (readModel.actionItems.map AdvisoryActionItem.actionItemId)
  let actionItems ← readModel.actionItems.mapM
    (attachRuntimeState services read.correlationId read.now acknowledgements)
  return { readModel with actionItems }

/-- The actions that the caller sees. -/
def visibleActions : Except ProposalError (List AdvisoryActionItem) :=
  (buildReadModel services content read).map fun readModel =>
    projectActionsForCaller readModel.actionItems read.callerContext

def listActions (limit : Option ℤ) (cursor : Option String) :
    Except ProposalError AdvisoryActionItemPage := do
  let actions ← visibleActions services content read
  let pageSize := normalizeCockpitPageSize limit
  let start ← cockpitCursorStart actions AdvisoryActionItem.actionItemId
    "ADVISOR_COCKPIT_CURSOR_INVALID" cursor
  AdvisoryActionItemPage.validated services
    { items := (actions.drop start).take pageSize
      nextCursor := cockpitNextCursor actions AdvisoryActionItem.actionItemId start pageSize
      pageSize
      totalCount := actions.length }

def getAction (actionItemId : String) : Except ProposalError AdvisoryActionItem := do
  let actions ← visibleActions services content read
  match actions.find? (·.actionItemId = actionItemId) with
  | none => .error (.notFound "ADVISOR_COCKPIT_ACTION_NOT_FOUND")
  | some action => return action

/-- What the snapshot is named after. -/
def snapshotScope : String := orText read.portfolioId (orText read.callerContext.advisorId "all")

def getSnapshot : Except ProposalError AdvisorCockpitOperatingSnapshot := do
  let readModel ← buildReadModel services content read
  let actions := projectActionsForCaller readModel.actionItems read.callerContext
  let packets ← preparationPackets services readModel
  let snapshot ← AdvisorCockpitOperatingSnapshot.validated services
    { snapshotId := boundedReference services ("cockpit_snapshot_" ++ snapshotScope read)
      callerContext := read.callerContext
      asOf := read.now.isoformat
      actionCounts := actionCounts actions
      topPriorityActions := actions.take 10
      preparationPackets := packets
      unsupportedCapabilities := unsupportedCapabilities actions
      supportability := supportability actions }
  snapshot.revalidated services

def listPreparationPackets (limit : Option ℤ) (cursor : Option String) :
    Except ProposalError AdvisorCockpitPreparationPacketPage := do
  let readModel ← buildReadModel services content read
  let packets ← preparationPackets services readModel
  let pageSize := normalizeCockpitPageSize limit
  let start ← cockpitCursorStart packets MeetingPreparationPacket.packetId
    "ADVISOR_COCKPIT_PREPARATION_CURSOR_INVALID" cursor
  AdvisorCockpitPreparationPacketPage.validated
    { items := (packets.drop start).take pageSize
      nextCursor := cockpitNextCursor packets MeetingPreparationPacket.packetId start pageSize
      pageSize
      totalCount := packets.length
      supportability := supportability readModel.actionItems }

end Service

end LotusAdvise.AdvisorCockpit

import LotusAdvise.AdvisorCockpit.Revalidation
import Mathlib.Data.List.Perm.Subperm

/-! # Bounds on volume

The models of the cockpit bound their lists, and not every producer cuts its list off before. The
joined house-view impacts, the actions of a page and the packets of a snapshot are the ones that
can be too many. Everything else that can fail is a text that an action shows.
-/

namespace LotusAdvise.AdvisorCockpit

open Alongside Proposals

/-! ## Counts -/

section Counts

variable {services : CockpitServices} {actions : List AdvisoryActionItem}

theorem nodup_uniqueOrdered {α : Type} [DecidableEq α] (values : List α) :
    (uniqueOrdered values).Nodup := by
  refine List.foldlRecOn (motive := List.Nodup) values _ List.nodup_nil
    fun unique hunique value _ => ?_
  split
  · exact hunique
  · next hnew =>
    refine List.nodup_append.mpr ⟨hunique, List.nodup_singleton value, ?_⟩
    rintro seen hseen _ hvalue rfl
    exact hnew (List.mem_singleton.mp hvalue ▸ hseen)

def capabilities : List AdvisorCockpitUnsupportedCapability :=
  [.clientReadyPublication, .externalClientCommunication, .crmSystemOfRecord, .calendarScheduling,
    .omsOrderLifecycle, .completedPolicyApprovalAuthority, .completedPolicySignOffAuthority,
    .fullRfc0028DemoRfpPackage]

theorem mem_capabilities (capability : AdvisorCockpitUnsupportedCapability) :
    capability ∈ capabilities := by
  cases capability <;> decide

theorem length_le_of_nodup {α : Type} {values all : List α} (hn : values.Nodup)
    (hall : ∀ value ∈ values, value ∈ all) : values.length ≤ all.length :=
  (List.subperm_of_subset hn hall).length_le

theorem length_unsupportedCapabilities :
    (unsupportedCapabilities actions).length ≤ cockpitListMaxItems := by
  rw [unsupportedCapabilities, List.length_insertionSort]
  refine (length_le_of_nodup (nodup_uniqueOrdered _) fun capability _ =>
    mem_capabilities capability).trans ?_
  decide

theorem mem_keys_foldl_countOne {keys : List String} {counts : Dict String ℕ} {key : String} :
    key ∈ (keys.foldl countOne counts).map Prod.fst ↔
      key ∈ counts.map Prod.fst ∨ key ∈ keys := by
  induction keys generalizing counts with
  | nil => simp
  | cons first keys ih =>
    have hset : key ∈ (countOne counts first).map Prod.fst ↔
        key ∈ counts.map Prod.fst ∨ key = first := by
      rw [← not_iff_not, ← Dict.get?_eq_none, countOne, Dict.get?_set, not_or, ← Dict.get?_eq_none]
      split
      · next heq => simp [heq]
      · next hne => simp [Ne.symm hne]
    rw [List.foldl_cons, ih, hset, List.mem_cons, or_assoc]

theorem nodup_keys_foldl_countOne {keys : List String} {counts : Dict String ℕ}
    (hn : (counts.map Prod.fst).Nodup) : ((keys.foldl countOne counts).map Prod.fst).Nodup :=
  List.foldlRecOn (motive := fun counts : Dict String ℕ => (counts.map Prod.fst).Nodup) keys _ hn
    fun _ hcounts _ _ => Dict.nodup_keys_set hcounts

theorem mem_keys_actionCounts {key : String} : key ∈ (actionCounts actions).map Prod.fst ↔
    ∃ action ∈ actions, key ∈ countKeys action := by
  rw [actionCounts, ((List.perm_insertionSort _ _).map Prod.fst).mem_iff, mem_keys_foldl_countOne,
    List.mem_flatMap]
  simp

/-- All that actions can be counted under. -/
def allCountKeys : List String :=
  AdvisorCockpitActionFamily.families.map ("family." ++ ·.text) ++
    [AdvisorCockpitActionStatus.ready, .pendingReview, .blocked, .acknowledged, .handoffRequested,
      .completed, .superseded].map ("status." ++ ·.text) ++
    [AdvisorCockpitActionPriority.critical, .high, .medium, .low, .informational].map
      ("priority." ++ ·.text) ++
    [AdvisorCockpitOwnerRole.advisor, .deskHead, .complianceReviewer, .investmentDesk,
      .portfolioManager, .operations, .crmOwner, .reportingOwner, .archiveOwner, .executionOwner,
      .system].map ("owner." ++ ·.text) ++
    [AdvisorCockpitSlaAgeBand.notDue, .dueSoon, .dueNow, .overdue, .criticalOverdue,
      .notApplicable].map ("sla." ++ ·.text)

theorem mem_allCountKeys {action : AdvisoryActionItem} {key : String}
    (h : key ∈ countKeys action) : key ∈ allCountKeys := by
  simp only [allCountKeys, List.mem_append, List.mem_map]
  simp only [countKeys, List.mem_cons, List.not_mem_nil, or_false] at h
  rcases h with rfl | rfl | rfl | rfl | rfl
  · exact .inl (.inl (.inl (.inl ⟨_, AdvisorCockpitActionFamily.mem_families _, rfl⟩)))
  · exact .inl (.inl (.inl (.inr ⟨action.status, by cases action.status <;> decide, rfl⟩)))
  · exact .inl (.inl (.inr ⟨action.priority, by cases action.priority <;> decide, rfl⟩))
  · exact .inl (.inr ⟨action.ownerRole, by cases action.ownerRole <;> decide, rfl⟩)
  · exact .inr ⟨action.slaAgeBand, by cases action.slaAgeBand <;> decide, rfl⟩

theorem nodup_keys_actionCounts : ((actionCounts actions).map Prod.fst).Nodup :=
  ((List.perm_insertionSort _ _).map Prod.fst).nodup_iff.mpr
    (nodup_keys_foldl_countOne List.nodup_nil)

theorem length_actionCounts :
    (actionCounts actions).length ≤ cockpitSupportabilityKeysMaxItems := by
  rw [← List.length_map Prod.fst]
  refine (length_le_of_nodup nodup_keys_actionCounts
    fun key hkey => (?_ : key ∈ allCountKeys)).trans ?_
  · obtain ⟨action, -, hcounted⟩ := mem_keys_actionCounts.mp hkey
    exact mem_allCountKeys hcounted
  · decide

end Counts

/-! ## What a load projects -/

section Loaded

variable {services : CockpitServices} {content : CockpitContent} {read : CockpitRead}
  {records : AdvisorCockpitSourceBatch} {sources : AdvisorCockpitSources} {source : ActionSource}

/-- A batch that was loaded is cut off to its bounds, except for the impacts. -/
structure LoadedBatch (content : CockpitContent) (read : CockpitRead)
    (records : AdvisorCockpitSourceBatch) : Prop where
  houseViewImpacts : records.houseViewImpacts = content.houseViewImpacts read
  supportabilityEvents : records.supportabilityEvents = []
  unsupportedCapabilities : records.unsupportedCapabilities = []
  validated : records.validated =
    (requireBatchList "house_view_impacts" records.houseViewImpacts).map fun _ => records

theorem validated_eq (hproposals : records.proposals.length ≤ cockpitSourceBatchMaxItems)
    (hevaluations : records.policyEvaluations.length ≤ cockpitSourceBatchMaxItems)
    (hmemos : records.memos.length ≤ cockpitSourceBatchMaxItems)
    (happrovals : records.approvals.length ≤ cockpitSourceBatchMaxItems)
    (hevents : records.workflowEvents.length ≤ cockpitSourceBatchMaxItems)
    (hsupportability : records.supportabilityEvents = [])
    (hcapabilities : records.unsupportedCapabilities = []) : records.validated =
      (requireBatchList "house_view_impacts" records.houseViewImpacts).map fun _ => records := by
  unfold AdvisorCockpitSourceBatch.validated requireBatchList
  rw [hsupportability, hcapabilities, require_true hproposals, require_true hevaluations,
    require_true hmemos, require_true happrovals, require_true hevents]
  by_cases himpacts : records.houseViewImpacts.length ≤ cockpitSourceBatchMaxItems
  · rw [require_true himpacts]
    rfl
  · rw [require_false himpacts]
    rfl

theorem loadedBatch (h : loadSourceBatch content read = .ok records) :
    LoadedBatch content read records := by
  obtain ⟨proposals, hproposals, h⟩ := bind_eq_ok.mp h
  obtain ⟨memos, -, h⟩ := bind_eq_ok.mp h
  obtain ⟨approvals, -, h⟩ := bind_eq_ok.mp h
  obtain ⟨workflowEvents, -, h⟩ := bind_eq_ok.mp h
  obtain rfl := Except.ok.inj h
  exact ⟨rfl, rfl, rfl, validated_eq (content.repository.bounded hproposals)
    (List.length_take_le _ _) (List.length_take_le _ _) (List.length_take_le _ _)
    (List.length_take_le _ _) rfl rfl⟩

theorem validationFree_loadSourceBatch : ValidationFree (loadSourceBatch content read) :=
  validationFree_bind (content.repository.proposalsFree _ _ _) fun _ =>
    validationFree_bind (content.repository.memosFree _) fun _ =>
    validationFree_bind (content.repository.approvalsFree _) fun _ =>
    validationFree_bind (content.repository.eventsFree _) fun _ => validationFree_ok _

theorem validationFree_latestRow {Row : Type} {occurredAt : Row → DateTime}
    {identifier : Row → String} {rows : List Row} :
    ValidationFree (latestRow occurredAt identifier rows) :=
  validationFree_map validationFree_sortedInGroups

/-- The projection fails only on timestamps that cannot be compared. -/
theorem validationFree_projectSources : ValidationFree (projectSources services records) := by
  refine validationFree_bind (validationFree_collectSources fun proposal => ?_) fun _ =>
    validationFree_bind (validationFree_collectSources fun group => ?_) fun _ => validationFree_ok _
  · unfold approvalDependencySource
    split
    · exact validationFree_ok none
    · dsimp only
      split
      · exact validationFree_ok none
      · exact validationFree_map validationFree_latestRow
  · unfold executionStatusSource
    split
    · exact validationFree_ok none
    · exact validationFree_map (validationFree_map validationFree_latestRow)

/-- A source as a load projects it: it is not due, and it brings no evidence along. -/
structure ActionSource.Loaded (services : CockpitServices) (source : ActionSource) : Prop where
  undue : source.outline.dueAt = none
  evidence : source.EvidenceSettled services

theorem loaded_of_projectSources (hload : loadSourceBatch content read = .ok records)
    (h : projectSources services records = .ok sources) (hmem : source ∈ sources.all) :
    source.Loaded services := by
  have hbatch := loadedBatch hload
  obtain ⟨approvalDependencies, happrovals, h⟩ := bind_eq_ok.mp h
  obtain ⟨executionStatusItems, hstatus, h⟩ := bind_eq_ok.mp h
  obtain rfl := Except.ok.inj h
  simp only [AdvisorCockpitSources.all, List.mem_append, List.mem_map] at hmem
  rcases hmem with (((((((((⟨s, hs, rfl⟩ | ⟨s, hs, rfl⟩) | ⟨s, hs, rfl⟩) | ⟨s, hs, rfl⟩) |
    ⟨s, hs, rfl⟩) | ⟨s, hs, rfl⟩) | ⟨s, hs, rfl⟩) | ⟨s, hs, rfl⟩) | ⟨s, hs, rfl⟩) |
    ⟨s, hs, rfl⟩) | ⟨s, hs, rfl⟩
  · obtain ⟨record, -, hs⟩ := List.mem_filterMap.mp hs
    unfold policyReviewSource? at hs
    split at hs <;> cases hs <;> exact ⟨rfl, trivial⟩
  · obtain ⟨record, -, hs⟩ := List.mem_filterMap.mp hs
    obtain ⟨code, -, rfl⟩ := Option.map_eq_some_iff.mp hs
    exact ⟨rfl, trivial⟩
  · obtain ⟨record, -, rfl⟩ := List.mem_map.mp hs
    exact ⟨rfl, List.forall_mem_nil _⟩
  · obtain ⟨record, -, rfl⟩ := List.mem_map.mp hs
    exact ⟨rfl, trivial⟩
  · obtain ⟨proposal, -, hs⟩ := mem_collectSources happrovals hs
    unfold approvalDependencySource at hs
    split at hs
    · cases hs
    · dsimp only at hs
      split at hs
      · cases hs
      · obtain ⟨rejection, -, hs⟩ := map_eq_ok.mp hs
        obtain rfl := Option.some.inj hs
        exact ⟨rfl, trivial⟩
  · obtain ⟨record, -, hs⟩ := List.mem_filterMap.mp hs
    unfold reportReadinessSource at hs
    split at hs
    · cases hs
    · split at hs
      · obtain rfl := Option.some.inj hs
        exact ⟨rfl, trivial⟩
      · split at hs
        · obtain rfl := Option.some.inj hs
          exact ⟨rfl, trivial⟩
        · cases hs
  · obtain ⟨proposal, -, hs⟩ := List.mem_filterMap.mp hs
    unfold executionHandoffSource at hs
    split at hs
    · cases hs
    · split at hs
      · cases hs
      · obtain rfl := Option.some.inj hs
        exact ⟨rfl, trivial⟩
  · obtain ⟨group, -, hs⟩ := mem_collectSources hstatus hs
    unfold executionStatusSource at hs
    split at hs
    · cases hs
    · obtain ⟨latest, -, hs⟩ := map_eq_ok.mp hs
      obtain ⟨event, -, rfl⟩ := Option.map_eq_some_iff.mp hs
      exact ⟨rfl, trivial⟩
  · rw [hbatch.houseViewImpacts] at hs
    obtain ⟨cohort, -, hs⟩ := List.mem_flatMap.mp hs
    obtain ⟨affected, -, rfl⟩ := List.mem_map.mp hs
    exact ⟨rfl, trivial⟩
  · rw [hbatch.supportabilityEvents] at hs
    cases hs
  · rw [hbatch.unsupportedCapabilities] at hs
    cases hs

/-- A load is refused when there are more impacts than a batch takes. -/
theorem load_of_overflow (hload : loadSourceBatch content read = .ok records)
    (hmany : cockpitSourceBatchMaxItems < (content.houseViewImpacts read).length) :
    loadAdvisorCockpitSourceReadModel services content read =
      .error (.responseInvalid "house_view_impacts") := by
  have hbatch := loadedBatch hload
  rw [← hbatch.houseViewImpacts] at hmany
  have hrefused : records.validated = .error (.responseInvalid "house_view_impacts") := by
    rw [hbatch.validated, requireBatchList, require_false (not_le.mpr hmany)]
    rfl
  rw [loadAdvisorCockpitSourceReadModel, hload]
  exact congrArg (· >>= buildAdvisorCockpitSourceReadModel services) hrefused

theorem load_of_fits (hload : loadSourceBatch content read = .ok records)
    (hfits : (content.houseViewImpacts read).length ≤ cockpitSourceBatchMaxItems) :
    loadAdvisorCockpitSourceReadModel services content read =
      buildAdvisorCockpitSourceReadModel services records := by
  have hbatch := loadedBatch hload
  rw [← hbatch.houseViewImpacts] at hfits
  have haccepted : records.validated = .ok records := by
    rw [hbatch.validated, requireBatchList, require_true hfits]
    rfl
  rw [loadAdvisorCockpitSourceReadModel, hload]
  exact congrArg (· >>= buildAdvisorCockpitSourceReadModel services) haccepted

end Loaded

/-! ## The read model -/

section ReadModel

variable {services : CockpitServices} {content : CockpitContent} {read : CockpitRead}
  {records : AdvisorCockpitSourceBatch} {sources : AdvisorCockpitSources} {source : ActionSource}
  {readModel : AdvisorCockpitSourceReadModel} {action shown : AdvisoryActionItem}

/-- What the repository has of the acknowledgements of the listed actions. -/
def listedAcknowledgements (services : CockpitServices) (content : CockpitContent)
    (sources : AdvisorCockpitSources) : String → Option CockpitAcknowledgementRecord :=
  content.repository.listCockpitAcknowledgements
    ((sourceQueue services sources.all).map (ActionSource.actionItemId services))

/-- The acknowledgement of an action passes as far as the action shows it. -/
def AcknowledgementsAcceptable (services : CockpitServices) (content : CockpitContent)
    (sources : AdvisorCockpitSources) : Prop :=
  ∀ source ∈ sources.all,
    ∀ record ∈ listedAcknowledgements services content sources (source.actionItemId services),
      record.actionItemVersion = 1 → AcknowledgementAcceptable services record

/-- An action of the read model, next to its source. -/
def ShownFor (services : CockpitServices) (correlationId : Option String) (source : ActionSource)
    (shown : AdvisoryActionItem) : Prop :=
  ∃ action, (source.Loaded services ∧ source.buildAction services = .ok action) ∧
    Attached services correlationId action shown

/-- The read model of a load that projected its sources. -/
structure ReadModelOf (services : CockpitServices) (read : CockpitRead)
    (sources : AdvisorCockpitSources) (readModel : AdvisorCockpitSourceReadModel) : Prop where
  meetingPreparations : readModel.meetingPreparations = sources.meetingPreparations
  actionItems : List.Forall₂ (ShownFor services read.correlationId)
    (sourceQueue services sources.all) readModel.actionItems

section Built

variable (hload : loadSourceBatch content read = .ok records)
  (hfits : (content.houseViewImpacts read).length ≤ cockpitSourceBatchMaxItems)
  (hsources : projectSources services records = .ok sources)

include hload hfits hsources in
theorem load_eq_map : loadAdvisorCockpitSourceReadModel services content read =
    (buildSourceActions services sources.all).map fun actions =>
      { sources with actionItems := sortCockpitActionItems actions } := by
  rw [load_of_fits hload hfits, buildAdvisorCockpitSourceReadModel, hsources]
  rfl

include hload hsources in
theorem loaded_and_built {actions : List AdvisoryActionItem}
    (hactions : buildSourceActions services sources.all = .ok actions) :
    List.Forall₂ (fun source action => source.Loaded services ∧
      source.buildAction services = .ok action) (sourceQueue services sources.all)
      (sortCockpitActionItems actions) :=
  (List.forall₂_and_left _ _).mpr
    ⟨fun _ hmem => loaded_of_projectSources hload hsources (mem_sourceQueue.mp hmem),
      sorted_of_buildSourceActions hactions⟩

include hload hfits hsources in
/-- The read model is built exactly when the texts of its sources and acknowledgements pass. -/
theorem checks_buildReadModel : Checks (buildReadModel services content read)
    ((∀ source ∈ sources.all, (source.texts services).Acceptable services) ∧
      AcknowledgementsAcceptable services content sources) := by
  rw [buildReadModel, load_eq_map hload hfits hsources]
  refine ((checks_mapM fun source _ => checks_buildAction source).map _).bind
    fun loaded hloaded => ?_
  obtain ⟨actions, hactions, rfl⟩ := map_eq_ok.mp hloaded
  have hqueue := loaded_and_built hload hsources hactions
  have hids : (sourceQueue services sources.all).map (ActionSource.actionItemId services) =
      (sortCockpitActionItems actions).map AdvisoryActionItem.actionItemId :=
    map_eq_map hqueue fun source action hbuild => (shows_of_buildAction hbuild.2).actionItemId.symm
  dsimp only
  rw [← hids]
  have hattach : Checks ((sortCockpitActionItems actions).mapM (attachRuntimeState services
        read.correlationId read.now (listedAcknowledgements services content sources)))
      (∀ source ∈ sourceQueue services sources.all,
        ∀ record ∈ listedAcknowledgements services content sources (source.actionItemId services),
          record.actionItemVersion = 1 → AcknowledgementAcceptable services record) := by
    refine checks_mapM_alongside hqueue fun source action hbuild => ?_
    have hshows := shows_of_buildAction hbuild.2
    rw [← hshows.actionItemId, ← hshows.actionItemVersion]
    exact checks_attachRuntimeState (hshows.dueAt hbuild.1.undue)
  refine (hattach.bind fun _ _ => checks_ok _).congr ?_
  simp only [mem_sourceQueue, AcknowledgementsAcceptable, and_true]

include hload hfits hsources in
theorem readModelOf (h : buildReadModel services content read = .ok readModel) :
    ReadModelOf services read sources readModel := by
  rw [buildReadModel, load_eq_map hload hfits hsources] at h
  obtain ⟨loaded, hloaded, h⟩ := bind_eq_ok.mp h
  obtain ⟨actions, hactions, rfl⟩ := map_eq_ok.mp hloaded
  obtain ⟨attached, hattached, h⟩ := bind_eq_ok.mp h
  obtain rfl := Except.ok.inj h
  refine ⟨rfl, (comp (loaded_and_built hload hsources hactions)
    (mapM_eq_ok_iff.mp hattached)).imp ?_⟩
  rintro source shown ⟨action, ⟨hloaded, hbuild⟩, hattach⟩
  have hshows := shows_of_buildAction hbuild
  exact ⟨action, ⟨hloaded, hbuild⟩, attached_of_attachRuntimeState
    (hshows.dueAt hloaded.undue) hshows.unacknowledged hattach⟩

end Built

end ReadModel

/-! ## Packets -/

section Packets

variable {services : CockpitServices} {packet : MeetingPreparationPacket}
  {source : MeetingPreparationActionSource}

def MeetingPreparationPacket.texts (packet : MeetingPreparationPacket) : ShownTexts where
  required := [identifierText packet.packetId, identifierText packet.contextRef]

/-- The reference to the packet itself, which stands in for missing evidence. -/
def packetReference (services : CockpitServices) (source : MeetingPreparationActionSource) :
    CockpitEvidenceRef where
  evidenceId := boundedReference services source.preparationId
  evidenceType := "MEETING_PREPARATION_PACKET"
  sourceSystem := lotusAdviseSourceSystem
  accessClass := .customerConsumableSummary
  summary := boundedSummary source.summary

/-- The texts of the packet of a source. -/
def packetTexts (services : CockpitServices) (source : MeetingPreparationActionSource) :
    ShownTexts :=
  (if source.evidenceRefs ≠ [] then {} else (packetReference services source).texts) ++
    { required := [identifierText (boundedReference services source.preparationId),
        identifierText (boundedReference services source.contextRef)] }

theorem MeetingPreparationPacket.checks_validated (packet : MeetingPreparationPacket) :
    Checks (packet.validated services) (packet.texts.Acceptable services) := by
  refine Checks.congr ((checks_normalizeBounded _).bind fun _ _ =>
    (checks_normalizeBounded _).bind fun _ _ => checks_ok _) ?_
  simp only [texts, acceptable_mk, List.forall_mem_cons, List.not_mem_nil, false_implies,
    implies_true, and_true, identifierText]

theorem checks_packetEvidence : Checks (packetEvidence services source)
    (ShownTexts.Acceptable services
      (if source.evidenceRefs ≠ [] then {} else (packetReference services source).texts)) := by
  unfold packetEvidence
  split
  · exact (checks_ok _).congr (by simp [ShownTexts.Acceptable])
  · exact (CockpitEvidenceRef.checks_validated (packetReference services source)).map _

theorem checks_preparationPacket : Checks (preparationPacket services source)
    ((packetTexts services source).Acceptable services) := by
  rw [packetTexts, ShownTexts.acceptable_append]
  exact checks_packetEvidence.bind fun evidence _ => MeetingPreparationPacket.checks_validated _

/-- A packet that has been built. -/
structure PacketSettled (services : CockpitServices) (packet : MeetingPreparationPacket) :
    Prop where
  evidence : ∀ ref ∈ packet.evidenceRefs, ref.texts.Acceptable services
  texts : packet.texts.Acceptable services
  bounded : packet.packetId.toList.length ≤ cockpitIdentifierMaxLength

theorem settled_of_preparationPacket
    (hevidence : ∀ ref ∈ source.evidenceRefs, ref.texts.Acceptable services)
    (h : preparationPacket services source = .ok packet) : PacketSettled services packet := by
  obtain ⟨evidence, he, h⟩ := bind_eq_ok.mp h
  obtain ⟨packetId, hid, h⟩ := bind_eq_ok.mp h
  obtain ⟨contextRef, hcontext, h⟩ := bind_eq_ok.mp h
  obtain rfl := Except.ok.inj h
  refine ⟨?_, ?_, ?_⟩
  · unfold packetEvidence at he
    split at he
    · obtain rfl := Except.ok.inj he
      exact hevidence
    · obtain ⟨ref, href, rfl⟩ := map_eq_ok.mp he
      exact List.forall_mem_singleton.mpr (CockpitEvidenceRef.acceptable_of_validated href)
  · simp only [MeetingPreparationPacket.texts, acceptable_mk, List.forall_mem_cons,
      List.not_mem_nil, false_implies, implies_true, and_true, identifierText]
    exact ⟨acceptable_of_normalizeBounded hid, acceptable_of_normalizeBounded hcontext⟩
  · rw [normalizeBounded_eq_ok hid]
    exact ((checks_normalizeBounded _).of_ok hid).2.1

theorem PacketSettled.checks (h : PacketSettled services packet) :
    Checks (packet.revalidated services) True := by
  refine Checks.congr ((checks_mapM fun ref _ => ref.checks_validated).bind fun _ _ =>
    (MeetingPreparationPacket.checks_validated _).congr (Q := packet.texts.Acceptable services)
      Iff.rfl) ?_
  exact iff_of_true ⟨h.evidence, h.texts⟩ trivial

end Packets

/-! ## Pages -/

section Pages

variable {services : CockpitServices} {Item : Type} {items : List Item} {identity : Item → String}
  {start pageSize : ℕ} {limit : Option ℤ}

theorem mem_cockpitNextCursor {cursor : String}
    (h : cursor ∈ cockpitNextCursor items identity start pageSize) :
    ∃ item ∈ items, cursor = identity item := by
  unfold cockpitNextCursor at h
  split at h
  · obtain ⟨item, hitem, rfl⟩ := Option.map_eq_some_iff.mp h
    refine ⟨item, ?_, rfl⟩
    rcases Option.or_eq_some_iff.mp hitem with hlast | ⟨-, hfirst⟩
    · exact List.mem_of_mem_drop (List.mem_of_mem_take (List.mem_of_getLast? hlast))
    · exact List.mem_of_getElem? hfirst
  · cases h

theorem normalizeCockpitPageSize_bounds : 1 ≤ normalizeCockpitPageSize limit ∧
    normalizeCockpitPageSize limit ≤ cockpitActionMaxPageSize := by
  cases limit with
  | none => decide
  | some limit =>
    rw [normalizeCockpitPageSize]
    split
    · decide
    · rw [cockpitActionMaxPageSize]
      omega

theorem checks_page (page : AdvisoryActionItemPage)
    (hcursor : ∀ cursor ∈ page.nextCursor, normalizedText cursor = cursor ∧
      Acceptable services cockpitIdentifierMaxLength cursor) :
    Checks (page.validated services) (page.items.length ≤ cockpitListMaxItems) := by
  refine Checks.congr ((checks_require rfl).bind fun _ _ => (checks_require rfl).bind fun _ _ =>
    (checks_normalizeOptionalIdentifier _).bind fun _ _ => checks_ok _) ?_
  refine and_iff_left ⟨fun cursor hmem => ?_, fun text htext => ?_, trivial⟩
  · obtain ⟨hnormal, hacceptable⟩ := hcursor cursor hmem
    exact hnormal ▸ hacceptable.2.1
  · obtain ⟨cursor, hmem, htext⟩ := Option.bind_eq_some_iff.mp htext
    obtain ⟨hnormal, hacceptable⟩ := hcursor cursor hmem
    unfold nonBlankText at htext
    split at htext
    · cases htext
    · obtain rfl := Option.some.inj htext
      exact hnormal.symm ▸ hacceptable

theorem checks_packetPage (page : AdvisorCockpitPreparationPacketPage)
    (hcursor : ∀ cursor ∈ page.nextCursor, cursor.toList.length ≤ cockpitIdentifierMaxLength)
    (hsize : 1 ≤ page.pageSize ∧ page.pageSize ≤ cockpitActionMaxPageSize)
    (hsupportability : page.supportability.length ≤ cockpitSupportabilityKeysMaxItems) :
    Checks page.validated (page.items.length ≤ cockpitApiListMaxItems) := by
  refine Checks.congr ((checks_require rfl).bind fun _ _ => (checks_require rfl).bind fun _ _ =>
    (checks_require rfl).bind fun _ _ => (checks_require rfl).bind fun _ _ => checks_ok _) ?_
  exact and_iff_left ⟨hcursor, hsize, hsupportability, trivial⟩

end Pages

/-! ## The snapshot -/

section Snapshot

variable {services : CockpitServices} {snapshot validated : AdvisorCockpitOperatingSnapshot}

/-- What the validators of a snapshot ask for, without those of the models in it. -/
structure AdvisorCockpitOperatingSnapshot.Fits (services : CockpitServices)
    (snapshot : AdvisorCockpitOperatingSnapshot) : Prop where
  counts : snapshot.actionCounts.length ≤ cockpitSupportabilityKeysMaxItems
  actions : snapshot.topPriorityActions.length ≤ cockpitListMaxItems
  packets : snapshot.preparationPackets.length ≤ cockpitListMaxItems
  capabilities : snapshot.unsupportedCapabilities.length ≤ cockpitListMaxItems
  supportability : snapshot.supportability.length ≤ cockpitSupportabilityKeysMaxItems
  snapshotId : Acceptable services cockpitIdentifierMaxLength snapshot.snapshotId
  asOf : Acceptable services cockpitIdentifierMaxLength snapshot.asOf
  keys : ∀ count ∈ snapshot.actionCounts, Acceptable services cockpitIdentifierMaxLength count.1

theorem checks_snapshot (snapshot : AdvisorCockpitOperatingSnapshot) :
    Checks (snapshot.validated services) (snapshot.Fits services) := by
  refine Checks.congr ((checks_require rfl).bind fun _ _ => (checks_require rfl).bind fun _ _ =>
    (checks_require rfl).bind fun _ _ => (checks_require rfl).bind fun _ _ =>
    (checks_require rfl).bind fun _ _ => (checks_normalizeBounded _).bind fun _ _ =>
    (checks_normalizeBounded _).bind fun _ _ =>
    (checks_mapM fun count _ => checks_normalizeBounded count.1).bind fun _ _ => checks_ok _) ?_
  constructor
  · rintro ⟨hcounts, hactions, hpackets, hcapabilities, hsupport, hid, htime, hkeys, -⟩
    exact ⟨hcounts, hactions, hpackets, hcapabilities, hsupport, hid, htime, hkeys⟩
  · rintro ⟨hcounts, hactions, hpackets, hcapabilities, hsupport, hid, htime, hkeys⟩
    exact ⟨hcounts, hactions, hpackets, hcapabilities, hsupport, hid, htime, hkeys, trivial⟩

theorem length_ofItems {V : Type} (items : List (String × V)) :
    (Dict.ofItems items).length ≤ items.length := by
  have hkeys : (items.map Prod.fst).length = items.length := List.length_map Prod.fst
  rw [← List.length_map Prod.fst, ← hkeys]
  refine length_le_of_nodup (Dict.nodup_keys_ofItems items) fun key hkey => ?_
  obtain ⟨item, hitem, rfl⟩ := List.mem_map.mp hkey
  exact List.mem_map_of_mem (Dict.mem_ofItems hitem)

/-- A validated snapshot passes its validators again, and its models are as they were. -/
theorem fits_of_validated (h : snapshot.validated services = .ok validated) :
    validated.Fits services ∧ validated.callerContext = snapshot.callerContext ∧
      validated.topPriorityActions = snapshot.topPriorityActions ∧
      validated.preparationPackets = snapshot.preparationPackets := by
  obtain ⟨hcounts, hactions, hpackets, hcapabilities, hsupport, -, -, -⟩ :=
    (checks_snapshot snapshot).of_ok h
  simp only [AdvisorCockpitOperatingSnapshot.validated, bind_eq_ok] at h
  obtain ⟨_, -, _, -, _, -, _, -, _, -, id, hid, time, htime, keys, hkeys, h⟩ := h
  obtain rfl := Except.ok.inj h
  refine ⟨⟨?_, hactions, hpackets, hcapabilities, hsupport, acceptable_of_normalizeBounded hid,
    acceptable_of_normalizeBounded htime, fun count hcount => ?_⟩, rfl, rfl, rfl⟩
  · refine (length_ofItems _).trans ?_
    rw [List.length_zip, List.length_map]
    exact (min_le_right _ _).trans hcounts
  · obtain ⟨hkey, -⟩ := List.of_mem_zip (Dict.mem_ofItems hcount)
    obtain ⟨_, -, hnormalized⟩ := mem_mapM hkeys hkey
    exact acceptable_of_normalizeBounded hnormalized

/-- The references of a caller pass their validators. -/
def CallerAcceptable (services : CockpitServices) (context : CockpitCallerContext) : Prop :=
  ∀ reference ∈ [context.advisorId, context.deskId, context.coverageTeamId],
    (∀ text ∈ reference, text.toList.length ≤ cockpitIdentifierMaxLength) ∧
      AcceptableOptional services cockpitIdentifierMaxLength reference

instance (context : CockpitCallerContext) : Decidable (CallerAcceptable services context) := by
  unfold CallerAcceptable
  infer_instance

theorem checks_callerContext (context : CockpitCallerContext) :
    Checks (context.validated services) (CallerAcceptable services context) := by
  refine Checks.congr ((checks_require rfl).bind fun _ _ => (checks_require rfl).bind fun _ _ =>
    (checks_require rfl).bind fun _ _ => (checks_normalizeOptionalIdentifier _).bind fun _ _ =>
    (checks_normalizeOptionalIdentifier _).bind fun _ _ =>
    (checks_normalizeOptionalIdentifier _).bind fun _ _ => checks_ok _) ?_
  simp only [CallerAcceptable, List.forall_mem_cons, List.not_mem_nil, false_implies,
    implies_true, and_true]
  constructor
  · rintro ⟨hadvisor, hdesk, hteam, hadvisor', hdesk', hteam'⟩
    exact ⟨⟨hadvisor, hadvisor'⟩, ⟨hdesk, hdesk'⟩, hteam, hteam'⟩
  · rintro ⟨⟨hadvisor, hadvisor'⟩, ⟨hdesk, hdesk'⟩, hteam, hteam'⟩
    exact ⟨hadvisor, hdesk, hteam, hadvisor', hdesk', hteam'⟩

/-- From the dump of a snapshot that passed, the caller and the actions can still fail. -/
theorem AdvisorCockpitOperatingSnapshot.Fits.checks {P : Prop} (hfits : snapshot.Fits services)
    (hpackets : ∀ packet ∈ snapshot.preparationPackets, PacketSettled services packet)
    (hactions : Checks (snapshot.topPriorityActions.mapM
      (AdvisoryActionItem.revalidated services)) P) :
    Checks (snapshot.revalidated services)
      (CallerAcceptable services snapshot.callerContext ∧ P) := by
  refine Checks.congr ((checks_callerContext _).bind fun context _ =>
    hactions.bind fun actions hmapped =>
    (checks_mapM fun packet hpacket => (hpackets packet hpacket).checks).bind
    fun packets hmapped' => (checks_snapshot _).congr (Q := True) (iff_of_true ?_ trivial)) ?_
  · obtain ⟨hcounts, htop, hprepared, hcapabilities, hsupport, hid, htime, hkeys⟩ := hfits
    rw [(Alongside.mapM_eq_ok_iff.mp hmapped).length_eq] at htop
    rw [(Alongside.mapM_eq_ok_iff.mp hmapped').length_eq] at hprepared
    exact ⟨hcounts, htop, hprepared, hcapabilities, hsupport, hid, htime, hkeys⟩
  · simp only [implies_true, and_true]

end Snapshot

/-! ## The reads of the cockpit -/

section Reads

variable {services : CockpitServices} {content : CockpitContent} {read : CockpitRead}
  {records : AdvisorCockpitSourceBatch} {sources : AdvisorCockpitSources}
  {readModel : AdvisorCockpitSourceReadModel} {limit : Option ℤ}

/-- What the action of a source that is not due is counted under. -/
def ActionSource.countKeys (source : ActionSource) : List String :=
  ["family." ++ source.outline.actionFamily.text, "status." ++ source.outline.status.text,
    "priority." ++ source.standing.priority.text, "owner." ++ source.outline.ownerRole.text,
    "sla." ++ AdvisorCockpitSlaAgeBand.notApplicable.text]

/-- How much the lists of the responses take. -/
structure VolumesFit (read : CockpitRead) (limit : Option ℤ) (sources : AdvisorCockpitSources) :
    Prop where
  page : min (normalizeCockpitPageSize limit)
    (visibleSources read.callerContext.role sources.all).length ≤ cockpitListMaxItems
  packets : sources.meetingPreparations.length ≤ cockpitListMaxItems

/-- The texts of a snapshot itself, and what it counts. -/
structure SnapshotTextsPass (services : CockpitServices) (read : CockpitRead)
    (sources : AdvisorCockpitSources) : Prop where
  snapshotId : Acceptable services cockpitIdentifierMaxLength
    (boundedReference services ("cockpit_snapshot_" ++ snapshotScope read))
  asOf : Acceptable services cockpitIdentifierMaxLength read.now.isoformat
  keys : ∀ source ∈ visibleSources read.callerContext.role sources.all,
    ∀ key ∈ source.countKeys, Acceptable services cockpitIdentifierMaxLength key

/-- The correlation identifier passes on the first actions that have none of their own. -/
def CorrelationPasses (services : CockpitServices) (read : CockpitRead)
    (sources : AdvisorCockpitSources) : Prop :=
  ∀ source ∈ (visibleSources read.callerContext.role (sourceQueue services sources.all)).take 10,
    ActionSource.shownReference services source.standing.correlationId = none →
      CorrelationAcceptable services read.correlationId

/-- What the cockpit shows of its sources passes the checks of texts. -/
structure TextsPass (services : CockpitServices) (content : CockpitContent) (read : CockpitRead)
    (sources : AdvisorCockpitSources) : Prop where
  actions : ∀ source ∈ sources.all, (source.texts services).Acceptable services
  acknowledgements : AcknowledgementsAcceptable services content sources
  packets : ∀ source ∈ sources.meetingPreparations,
    (packetTexts services source).Acceptable services
  snapshot : SnapshotTextsPass services read sources
  caller : CallerAcceptable services read.callerContext
  correlation : CorrelationPasses services read sources

theorem shown_countKeys {correlationId : Option String} {source : ActionSource}
    {shown : AdvisoryActionItem} (h : ShownFor services correlationId source shown) :
    countKeys shown = source.countKeys := by
  obtain ⟨action, ⟨-, hbuild⟩, hattached⟩ := h
  have hshows := shows_of_buildAction hbuild
  have hstands := stands_of_buildAction hbuild
  rw [hattached.same, countKeys, ActionSource.countKeys, ← hshows.status, ← hshows.ownerRole,
    ← hstands.actionFamily, ← hstands.priority]

/-- The actions of a caller stand side by side with the sources that the caller sees. -/
theorem ReadModelOf.visible (h : ReadModelOf services read sources readModel) :
    List.Forall₂ (ShownFor services read.correlationId)
      (visibleSources read.callerContext.role (sourceQueue services sources.all))
      (projectActionsForCaller readModel.actionItems read.callerContext) := by
  refine forall₂_filter (fun source shown hshown => ?_) h.actionItems
  obtain ⟨action, ⟨-, hbuild⟩, hattached⟩ := hshown
  rw [← (shows_of_buildAction hbuild).ownerRole, hattached.same]

theorem length_visibleSources (role : AdvisorCockpitCallerRole) :
    (visibleSources role (sourceQueue services sources.all)).length =
      (visibleSources role sources.all).length :=
  ((List.perm_insertionSort _ _).filter _).length_eq

theorem ShownFor.acceptable {correlationId : Option String} {source : ActionSource}
    {shown : AdvisoryActionItem} (h : ShownFor services correlationId source shown) :
    normalizedText shown.actionItemId = shown.actionItemId ∧
      Acceptable services cockpitIdentifierMaxLength shown.actionItemId := by
  obtain ⟨action, ⟨-, hbuild⟩, hattached⟩ := h
  have hchecked := (shows_of_buildAction hbuild).checked
  have hsame : shown.actionItemId = action.actionItemId := by rw [hattached.same]
  rw [hsame]
  exact ⟨(normalizeBounded_eq_ok hchecked).symm, (checks_normalizeBounded _).of_ok hchecked⟩

/-- In the snapshot only the correlation identifier of a shown action can still fail. -/
theorem ShownFor.checks {correlationId : Option String} {source : ActionSource}
    {shown : AdvisoryActionItem} (h : ShownFor services correlationId source shown) :
    Checks (shown.revalidated services)
      (ActionSource.shownReference services source.standing.correlationId = none →
        CorrelationAcceptable services correlationId) := by
  obtain ⟨action, ⟨hloaded, hbuild⟩, hattached⟩ := h
  have hown := (stands_of_buildAction hbuild).correlationId
  rw [← hown]
  exact hattached.checks (settled_of_buildAction hloaded.evidence hbuild) hown

/-- What the actions of a caller are counted under, read off the sources. -/
theorem forall_counts_iff (h : ReadModelOf services read sources readModel) :
    (∀ count ∈ actionCounts (projectActionsForCaller readModel.actionItems read.callerContext),
      Acceptable services cockpitIdentifierMaxLength count.1) ↔
    ∀ source ∈ visibleSources read.callerContext.role sources.all, ∀ key ∈ source.countKeys,
      Acceptable services cockpitIdentifierMaxLength key := by
  have hsame : (∀ source ∈ visibleSources read.callerContext.role
      (sourceQueue services sources.all), ∀ key ∈ source.countKeys,
        Acceptable services cockpitIdentifierMaxLength key) ↔
      ∀ action ∈ projectActionsForCaller readModel.actionItems read.callerContext,
        ∀ key ∈ countKeys action, Acceptable services cockpitIdentifierMaxLength key :=
    forall_mem_iff (fun source shown hshown => by rw [shown_countKeys hshown]) h.visible
  simp only [visibleSources, List.mem_filter, mem_sourceQueue] at hsame ⊢
  rw [hsame]
  constructor
  · intro hcounts action haction key hkey
    obtain ⟨count, hcount, rfl⟩ :=
      List.mem_map.mp (mem_keys_actionCounts.mpr ⟨action, haction, hkey⟩)
    exact hcounts count hcount
  · intro hkeys count hcount
    obtain ⟨action, haction, hkey⟩ := mem_keys_actionCounts.mp (List.mem_map_of_mem hcount)
    exact hkeys action haction count.1 hkey

theorem checks_preparationPackets (h : ReadModelOf services read sources readModel) :
    Checks (preparationPackets services readModel) (∀ source ∈ sources.meetingPreparations,
      (packetTexts services source).Acceptable services) := by
  rw [preparationPackets, h.meetingPreparations]
  exact checks_mapM fun source _ => checks_preparationPacket

section Fits

variable (hload : loadSourceBatch content read = .ok records)
  (hfits : (content.houseViewImpacts read).length ≤ cockpitSourceBatchMaxItems)
  (hsources : projectSources services records = .ok sources)

include hload hfits hsources in
theorem checks_listActions : Checks (listActions services content read limit none)
    (((∀ source ∈ sources.all, (source.texts services).Acceptable services) ∧
        AcknowledgementsAcceptable services content sources) ∧
      min (normalizeCockpitPageSize limit)
        (visibleSources read.callerContext.role sources.all).length ≤ cockpitListMaxItems) := by
  refine ((checks_buildReadModel hload hfits hsources).map _).bind fun actions hactions => ?_
  obtain ⟨readModel, hbuilt, rfl⟩ := map_eq_ok.mp hactions
  have hvisible := (readModelOf hload hfits hsources hbuilt).visible
  refine (checks_page _ fun cursor hcursor => ?_).congr (iff_of_eq ?_)
  · obtain ⟨shown, hshown, rfl⟩ := mem_cockpitNextCursor hcursor
    obtain ⟨source, -, hfor⟩ := exists_left hvisible hshown
    exact hfor.acceptable
  · dsimp only
    rw [List.drop_zero, List.length_take, ← hvisible.length_eq, length_visibleSources]

theorem length_of_preparationPackets {packets : List MeetingPreparationPacket}
    (hmodel : ReadModelOf services read sources readModel)
    (hpackets : preparationPackets services readModel = .ok packets) :
    packets.length = sources.meetingPreparations.length := by
  rw [preparationPackets, hmodel.meetingPreparations] at hpackets
  exact (mapM_eq_ok_iff.mp hpackets).length_eq.symm

include hload hsources in
theorem packets_settled {packets : List MeetingPreparationPacket}
    (hmodel : ReadModelOf services read sources readModel)
    (hpackets : preparationPackets services readModel = .ok packets) :
    ∀ packet ∈ packets, PacketSettled services packet := by
  intro packet hpacket
  rw [preparationPackets, hmodel.meetingPreparations] at hpackets
  obtain ⟨source, hsource, hbuilt⟩ := mem_mapM hpackets hpacket
  have hall : ActionSource.meetingPreparation source ∈ sources.all := by
    simp [AdvisorCockpitSources.all, hsource]
  exact settled_of_preparationPacket (loaded_of_projectSources hload hsources hall).evidence hbuilt

include hload hfits hsources in
theorem checks_listPreparationPackets :
    Checks (listPreparationPackets services content read limit none)
      (((∀ source ∈ sources.all, (source.texts services).Acceptable services) ∧
          AcknowledgementsAcceptable services content sources) ∧
        (∀ source ∈ sources.meetingPreparations,
          (packetTexts services source).Acceptable services) ∧
        min (normalizeCockpitPageSize limit) sources.meetingPreparations.length ≤
          cockpitApiListMaxItems) := by
  refine (checks_buildReadModel hload hfits hsources).bind fun readModel hbuilt => ?_
  have hmodel := readModelOf hload hfits hsources hbuilt
  refine (checks_preparationPackets hmodel).bind fun packets hpackets => ?_
  refine (checks_packetPage _ (fun cursor hcursor => ?_) normalizeCockpitPageSize_bounds
    (show (10 : ℕ) ≤ _ by decide)).congr (iff_of_eq ?_)
  · obtain ⟨packet, hpacket, rfl⟩ := mem_cockpitNextCursor hcursor
    exact (packets_settled hload hsources hmodel hpackets packet hpacket).bounded
  · dsimp only
    rw [List.drop_zero, List.length_take, length_of_preparationPackets hmodel hpackets]

include hload hfits hsources in
theorem checks_getSnapshot : Checks (getSnapshot services content read)
    (((∀ source ∈ sources.all, (source.texts services).Acceptable services) ∧
        AcknowledgementsAcceptable services content sources) ∧
      (∀ source ∈ sources.meetingPreparations,
        (packetTexts services source).Acceptable services) ∧
      (sources.meetingPreparations.length ≤ cockpitListMaxItems ∧
        SnapshotTextsPass services read sources) ∧
      CallerAcceptable services read.callerContext ∧ CorrelationPasses services read sources) := by
  refine (checks_buildReadModel hload hfits hsources).bind fun readModel hbuilt => ?_
  have hmodel := readModelOf hload hfits hsources hbuilt
  refine (checks_preparationPackets hmodel).bind fun packets hpackets => ?_
  refine ((checks_snapshot _).congr ?_).bind fun snapshot hsnapshot => ?_
  · have hkeys := forall_counts_iff hmodel
    constructor
    · rintro ⟨-, -, hlength, -, -, hid, htime, hcounts⟩
      rw [length_of_preparationPackets hmodel hpackets] at hlength
      exact ⟨hlength, hid, htime, hkeys.mp hcounts⟩
    · rintro ⟨hlength, hid, htime, hcounts⟩
      rw [← length_of_preparationPackets hmodel hpackets] at hlength
      exact ⟨length_actionCounts, (List.length_take_le _ _).trans (by decide), hlength,
        length_unsupportedCapabilities, show (10 : ℕ) ≤ _ by decide, hid, htime, hkeys.mpr hcounts⟩
  · obtain ⟨hvalid, hcaller, htop, hprepared⟩ := fits_of_validated hsnapshot
    dsimp only at hcaller htop hprepared
    rw [← hcaller]
    refine hvalid.checks ?_ ?_
    · rw [hprepared]
      exact packets_settled hload hsources hmodel hpackets
    · rw [htop]
      exact checks_mapM_alongside (List.forall₂_take 10 hmodel.visible) fun _ _ hshown =>
        hshown.checks

end Fits

theorem reads_of_error {error : ProposalError} (limit : Option ℤ)
    (h : loadAdvisorCockpitSourceReadModel services content read = .error error) :
    listActions services content read limit none = .error error ∧
      getSnapshot services content read = .error error ∧
      listPreparationPackets services content read limit none = .error error := by
  have hbuild : buildReadModel services content read = .error error := by
    rw [buildReadModel, h]
    rfl
  rw [listActions, visibleActions, getSnapshot, listPreparationPackets, hbuild]
  exact ⟨rfl, rfl, rfl⟩

theorem validationFree_of_error {error : ProposalError}
    (h : loadAdvisorCockpitSourceReadModel services content read = .error error)
    (hfree : isModelValidation error = false) :
    ValidationFree (listActions services content read limit none) ∧
      ValidationFree (getSnapshot services content read) ∧
      ValidationFree (listPreparationPackets services content read limit none) := by
  have hread : ∀ {α : Type} {x : Except ProposalError α}, x = .error error → ValidationFree x := by
    rintro α x rfl error' herror
    rwa [← Except.error.inj herror]
  obtain ⟨hlist, hsnapshot, hpackets⟩ := reads_of_error limit h
  exact ⟨hread hlist, hread hsnapshot, hread hpackets⟩

/-- The reads of a first page fail on no validation exactly when the impacts that are joined fit a
batch, the page and the packets fit their responses, and the shown texts pass their checks. -/
theorem reads_validationFree_iff (services : CockpitServices) (content : CockpitContent)
    (read : CockpitRead) (limit : Option ℤ) :
    (ValidationFree (listActions services content read limit none) ∧
      ValidationFree (getSnapshot services content read) ∧
      ValidationFree (listPreparationPackets services content read limit none)) ↔
    ∀ records, loadSourceBatch content read = .ok records →
      (content.houseViewImpacts read).length ≤ cockpitSourceBatchMaxItems ∧
        ∀ sources, projectSources services records = .ok sources →
          VolumesFit read limit sources ∧ TextsPass services content read sources := by
  cases hload : loadSourceBatch content read with
  | error error =>
    have hfailed : loadAdvisorCockpitSourceReadModel services content read = .error error := by
      rw [loadAdvisorCockpitSourceReadModel, hload]
      rfl
    refine iff_of_true (validationFree_of_error hfailed ?_) nofun
    exact validationFree_loadSourceBatch error hload
  | ok records =>
    simp only [Except.ok.injEq, forall_eq']
    by_cases hfits : (content.houseViewImpacts read).length ≤ cockpitSourceBatchMaxItems
    · rw [and_iff_right hfits]
      cases hsources : projectSources services records with
      | error error =>
        have hfailed : loadAdvisorCockpitSourceReadModel services content read = .error error := by
          rw [load_of_fits hload hfits, buildAdvisorCockpitSourceReadModel, hsources]
          rfl
        refine iff_of_true (validationFree_of_error hfailed ?_) nofun
        exact validationFree_projectSources error hsources
      | ok sources =>
        simp only [Except.ok.injEq, forall_eq']
        rw [(checks_listActions hload hfits hsources).validationFree_iff,
          (checks_getSnapshot hload hfits hsources).validationFree_iff,
          (checks_listPreparationPackets hload hfits hsources).validationFree_iff]
        constructor
        · rintro ⟨⟨⟨hactions, hacks⟩, hpage⟩,
            ⟨-, htexts, ⟨hlength, hshown⟩, hcaller, hcorrelation⟩, -⟩
          exact ⟨⟨hpage, hlength⟩, hactions, hacks, htexts, hshown, hcaller, hcorrelation⟩
        · rintro ⟨⟨hpage, hlength⟩, hactions, hacks, htexts, hshown, hcaller, hcorrelation⟩
          exact ⟨⟨⟨hactions, hacks⟩, hpage⟩,
            ⟨⟨hactions, hacks⟩, htexts, ⟨hlength, hshown⟩, hcaller, hcorrelation⟩,
            ⟨hactions, hacks⟩, htexts, (min_le_right _ _).trans hlength⟩
    · refine iff_of_false (fun hfree => ?_) fun hboth => hfits hboth.1
      cases hfree.1 _ (reads_of_error limit (load_of_overflow hload (not_le.mp hfits))).1

end Reads

/-! ## A crowded cohort -/

namespace Sample

def listingServices : CockpitServices where
  toServices := Proposals.Sample.services
  textDigest _ := List.replicate 64 (Fin.last 15)
  lower value := String.ofList (value.toList.map Char.toLower)
  lowerAlphanumeric _ := none

def affectedPortfolios : List TacticalHouseViewAffectedPortfolio :=
  (List.range 101).map fun number => ⟨"pf_" ++ toString number, []⟩

/-- One cohort that is recorded with 101 affected portfolios. -/
def crowdedContent : CockpitContent where
  repository := CockpitTables.repository ⟨.empty, [], .empty⟩ inferInstance
  evaluations := []
  cohorts := [{
    cohortId := "cohort_1", tacticalViewId := "view_1", tacticalViewVersion := "1"
    affectedPortfolios
    contentHash := "1", generatedAt := "2026-01-01T00:00:00+00:00", correlationId := "corr_1" }]

def advisorRead : CockpitRead where
  callerContext := { advisorId := some "advisor_1", role := .advisor }
  portfolioId := none
  correlationId := none
  now := Proposals.Sample.clock 0

end Sample

/-- The join with the affected portfolios of one cohort is too much for a batch. -/
theorem crowded_cohort_is_refused :
    (∀ affected ∈ Sample.affectedPortfolios,
      Acceptable Sample.listingServices cockpitIdentifierMaxLength affected.portfolioId) ∧
    ¬ ValidationFree
      (listActions Sample.listingServices Sample.crowdedContent Sample.advisorRead none none) ∧
    ¬ ValidationFree
      (getSnapshot Sample.listingServices Sample.crowdedContent Sample.advisorRead) ∧
    ¬ ValidationFree (listPreparationPackets Sample.listingServices Sample.crowdedContent
      Sample.advisorRead none none) := by
  have hload : loadAdvisorCockpitSourceReadModel Sample.listingServices Sample.crowdedContent
      Sample.advisorRead = .error (.responseInvalid "house_view_impacts") :=
    load_of_overflow rfl (by decide +kernel)
  obtain ⟨hlist, hsnapshot, hpackets⟩ := reads_of_error none hload
  refine ⟨by decide +kernel, fun h => ?_, fun h => ?_, fun h => ?_⟩
  · cases h _ hlist
  · cases h _ hsnapshot
  · cases h _ hpackets

end LotusAdvise.AdvisorCockpit

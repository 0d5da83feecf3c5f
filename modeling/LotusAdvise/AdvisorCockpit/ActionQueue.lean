import LotusAdvise.AdvisorCockpit.Service
import LotusAdvise.Foundations.Alongside

/-! # The queue of sources

The place of an action in the queue is known from its source. So the sources can be sorted and
filtered themselves, and the actions of a caller stand side by side with the sources that the
caller's role can see.
-/

namespace LotusAdvise.AdvisorCockpit

open Alongside Proposals

/-- What places the action of a source in the queue, besides its outline. -/
structure ActionStanding where
  priority : AdvisorCockpitActionPriority
  materialityRank : ℕ
  correlationId : Option String

namespace ActionSource

def standing : ActionSource → ActionStanding
  | policyReview s => ⟨.high, s.materialityRank, s.correlationId⟩
  | memoBlock s => ⟨.high, s.materialityRank, s.correlationId⟩
  | meetingPreparation s => ⟨.medium, s.materialityRank, s.correlationId⟩
  | clientFollowUp s => ⟨.high, s.materialityRank, s.correlationId⟩
  | approvalDependency s =>
      ⟨approvalActionPriority s.approvalStatus, s.materialityRank, s.correlationId⟩
  | reportRenderArchive s => ⟨.high, s.materialityRank, s.correlationId⟩
  | executionHandoff s => ⟨.medium, s.materialityRank, s.correlationId⟩
  | executionStatus s =>
      ⟨if blockingHandoffStatus s.handoffStatus then .high else .medium, s.materialityRank,
        s.correlationId⟩
  | houseViewImpact s => ⟨.medium, s.materialityRank, s.correlationId⟩
  | supportability s =>
      ⟨if blockingDependencyState s.state then .high else .medium, s.materialityRank,
        s.correlationId⟩
  | unsupportedCapability s => ⟨.informational, 0, s.correlationId⟩

variable (services : CockpitServices)

/-- An optional reference, as an action shows it. -/
def shownReference (value : Option String) : Option String :=
  (boundedOptionalReference services value).bind nonBlankText

def sortKey (source : ActionSource) : CockpitActionSortKey :=
  toLex (cockpitPriorityRank source.standing.priority,
    toLex ((presentKey (shownReference services source.outline.dueAt)).getD
        "9999-12-31T23:59:59+00:00",
      toLex (cockpitSlaAgeRank (initialSlaAgeBand source.outline.dueAt),
        toLex (-(source.standing.materialityRank : ℤ),
          toLex (cockpitStatusRank source.outline.status,
            toLex (String.ofList
                (Text.zeroFill 2 (cockpitActionFamilyRank source.outline.actionFamily)) ++ ":" ++
              source.outline.actionFamily.text, source.actionItemId services))))))

end ActionSource

/-- The sources in the order of their actions. -/
def sourceQueue (services : CockpitServices) (sources : List ActionSource) : List ActionSource :=
  sources.insertionSort fun source other => source.sortKey services ≤ other.sortKey services

/-- The sources whose actions a role can see. -/
def visibleSources (role : AdvisorCockpitCallerRole) (sources : List ActionSource) :
    List ActionSource :=
  sources.filter fun source => ownerRoleVisible role source.outline.ownerRole

section Standing

variable {services : CockpitServices} {source : ActionSource} {action : AdvisoryActionItem}

/-- What an action keeps of the standing of its source. -/
structure Stands (services : CockpitServices) (source : ActionSource)
    (action : AdvisoryActionItem) : Prop where
  actionFamily : action.actionFamily = source.outline.actionFamily
  priority : action.priority = source.standing.priority
  materialityRank : action.materialityRank = source.standing.materialityRank
  slaAgeBand : action.slaAgeBand = initialSlaAgeBand source.outline.dueAt
  dueAt : action.dueAt = ActionSource.shownReference services source.outline.dueAt
  correlationId :
    action.correlationId = ActionSource.shownReference services source.standing.correlationId

theorem normalizeOptionalIdentifier_eq_ok {fieldName : String} {value normalized : Option String}
    (h : normalizeOptionalIdentifier services fieldName value = .ok normalized) :
    normalized = value.bind nonBlankText := by
  rw [normalizeOptionalIdentifier_eq] at h
  exact optional_eq_ok h

theorem Stands.of_builds {input : CockpitActionConstructionInput}
    (h : buildSourceBackedAction services input = .ok action)
    (hfamily : input.actionFamily = source.outline.actionFamily)
    (hstanding : source.standing = ⟨input.priority, input.materialityRank, input.correlationId⟩)
    (hdue : input.dueAt = source.outline.dueAt)
    (hsla : input.slaAgeBand = initialSlaAgeBand input.dueAt) : Stands services source action := by
  simp only [buildSourceBackedAction, AdvisoryActionItem.validated, bind_eq_ok] at h
  obtain ⟨_, _, lineage, _, actionItemId, _, _, _, _, _, _, _, codes, _, _, _, _, _, _,
    _, _, _, _, _, _, _, _, _, _, _, _, _, dueAt, hdueAt, _, _, correlationId, hcorrelation, h⟩ := h
  obtain rfl := Except.ok.inj h
  refine ⟨hfamily, ?_, ?_, ?_, ?_, ?_⟩
  · rw [hstanding]
  · rw [hstanding]
  · rw [← hdue]
    exact hsla
  · rw [← hdue]
    exact normalizeOptionalIdentifier_eq_ok hdueAt
  · rw [hstanding]
    exact normalizeOptionalIdentifier_eq_ok hcorrelation

theorem stands_of_buildAction (h : source.buildAction services = .ok action) :
    Stands services source action := by
  cases source with
  | policyReview s | memoBlock s | reportRenderArchive s =>
    obtain ⟨_, _, h⟩ := bind_eq_ok.mp h
    obtain ⟨_, _, h⟩ := bind_eq_ok.mp h
    obtain ⟨_, _, h⟩ := bind_eq_ok.mp h
    exact .of_builds h rfl rfl rfl rfl
  | clientFollowUp s | approvalDependency s | houseViewImpact s =>
    obtain ⟨_, _, h⟩ := bind_eq_ok.mp h
    obtain ⟨_, _, h⟩ := bind_eq_ok.mp h
    exact .of_builds h rfl rfl rfl rfl
  | meetingPreparation s | executionHandoff s | executionStatus s | supportability s =>
    obtain ⟨_, _, h⟩ := bind_eq_ok.mp h
    exact .of_builds h rfl rfl rfl rfl
  | unsupportedCapability s => exact .of_builds h rfl rfl rfl rfl

/-- An action sorts where its source does. -/
theorem sortKey_of_buildAction (h : source.buildAction services = .ok action) :
    cockpitActionSortKey action = source.sortKey services := by
  have stands := stands_of_buildAction h
  have shown := shows_of_buildAction h
  rw [cockpitActionSortKey, ActionSource.sortKey, stands.priority, stands.dueAt, stands.slaAgeBand,
    stands.materialityRank, shown.status, stands.actionFamily, shown.actionItemId]

/-- The sorted actions stand side by side with the queue of their sources. -/
theorem sorted_of_buildSourceActions {sources : List ActionSource}
    {actions : List AdvisoryActionItem} (h : buildSourceActions services sources = .ok actions) :
    List.Forall₂ (fun source action => source.buildAction services = .ok action)
      (sourceQueue services sources) (sortCockpitActionItems actions) := by
  refine forall₂_insertionSort (fun source action other action' hbuild hbuild' => ?_)
    (mapM_eq_ok_iff.mp h)
  rw [sortKey_of_buildAction hbuild, sortKey_of_buildAction hbuild']

theorem mem_sourceQueue {sources : List ActionSource} :
    source ∈ sourceQueue services sources ↔ source ∈ sources :=
  List.mem_insertionSort _

end Standing

end LotusAdvise.AdvisorCockpit

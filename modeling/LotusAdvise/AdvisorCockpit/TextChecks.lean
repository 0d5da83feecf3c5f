import LotusAdvise.AdvisorCockpit.Acknowledgements
import LotusAdvise.AdvisorCockpit.SourceLoader
import Mathlib.Data.List.Forall2

/-! # Checked texts

Building an action can fail only in the checks of the texts that the action shows. The texts
of a source are collected here, kind by kind, and its action is built exactly when they pass.
-/

namespace LotusAdvise.AdvisorCockpit

open Proposals

/-- A computation returns when a condition holds, and fails with a validation error otherwise. -/
structure Checks {α : Type} (x : Except ProposalError α) (P : Prop) : Prop where
  returns : P → ∃ a, x = .ok a
  fails : ¬ P → ∃ error, x = .error error ∧ isModelValidation error = true

section Checks

variable {α β : Type} {x : Except ProposalError α} {f : α → Except ProposalError β} {P Q : Prop}

theorem Checks.congr (h : Checks x P) (hiff : P ↔ Q) : Checks x Q :=
  ⟨fun hq => h.returns (hiff.mpr hq), fun hq => h.fails fun hp => hq (hiff.mp hp)⟩

theorem Checks.validationFree_iff (h : Checks x P) : ValidationFree x ↔ P := by
  constructor
  · intro hfree
    by_contra hp
    obtain ⟨error, herror, hvalidation⟩ := h.fails hp
    rw [hfree error herror] at hvalidation
    cases hvalidation
  · intro hp error herror
    obtain ⟨a, ha⟩ := h.returns hp
    rw [ha] at herror
    cases herror

theorem Checks.of_ok {a : α} (h : Checks x P) (hok : x = .ok a) : P := by
  by_contra hp
  obtain ⟨error, herror, -⟩ := h.fails hp
  rw [hok] at herror
  cases herror

theorem checks_ok (a : α) : Checks (.ok a) True :=
  ⟨fun _ => ⟨a, rfl⟩, fun h => (h trivial).elim⟩

theorem checks_require {condition : Prop} [Decidable condition] {error : ProposalError}
    (herror : isModelValidation error = true) : Checks (require condition error) condition := by
  constructor
  · intro h
    exact ⟨(), require_eq_ok.mpr h⟩
  · intro h
    exact ⟨error, require_false h, herror⟩

theorem Checks.bind (hx : Checks x P) (hf : ∀ a, x = .ok a → Checks (f a) Q) :
    Checks (x >>= f) (P ∧ Q) := by
  constructor
  · rintro ⟨hp, hq⟩
    obtain ⟨a, rfl⟩ := hx.returns hp
    exact (hf a rfl).returns hq
  · intro hno
    by_cases hp : P
    · obtain ⟨a, rfl⟩ := hx.returns hp
      exact (hf a rfl).fails fun hq => hno ⟨hp, hq⟩
    · obtain ⟨error, rfl, hvalidation⟩ := hx.fails hp
      exact ⟨error, rfl, hvalidation⟩

theorem Checks.map (hx : Checks x P) (f : α → β) : Checks (x.map f) P := by
  constructor
  · intro hp
    obtain ⟨a, rfl⟩ := hx.returns hp
    exact ⟨f a, rfl⟩
  · intro hp
    obtain ⟨error, rfl, hvalidation⟩ := hx.fails hp
    exact ⟨error, rfl, hvalidation⟩

theorem checks_mapM {p : α → Prop} {as : List α} (h : ∀ a ∈ as, Checks (f a) (p a)) :
    Checks (as.mapM f) (∀ a ∈ as, p a) := by
  induction as with
  | nil => exact (checks_ok []).congr (by simp)
  | cons a as ih =>
    rw [List.mapM_cons]
    refine ((h a List.mem_cons_self).bind fun b _ => ?_).congr List.forall_mem_cons.symm
    refine ((ih fun a' ha' => h a' (List.mem_cons_of_mem a ha')).bind fun bs _ => ?_).congr
      (iff_of_eq (and_true _))
    exact checks_ok (b :: bs)

/-- The conditions may also be about what stands side by side with the arguments. -/
theorem checks_mapM_alongside {Source : Type} {R : Source → α → Prop} {p : Source → Prop}
    {sources : List Source} {as : List α} (hall : List.Forall₂ R sources as)
    (h : ∀ source a, R source a → Checks (f a) (p source)) :
    Checks (as.mapM f) (∀ source ∈ sources, p source) := by
  induction hall with
  | nil => exact (checks_ok []).congr (by simp)
  | cons hr _ ih =>
    rw [List.mapM_cons]
    refine ((h _ _ hr).bind fun b _ => ?_).congr List.forall_mem_cons.symm
    exact (ih.bind fun bs _ => checks_ok (b :: bs)).congr (iff_of_eq (and_true _))

end Checks

section Texts

variable (services : CockpitServices)

/-- The validators accept a text of a bounded length. -/
def Acceptable (maxLength : ℕ) (text : String) : Prop :=
  normalizedText text ≠ "" ∧ (normalizedText text).toList.length ≤ maxLength ∧
    containsSensitiveTerm services (normalizedText text) = false

instance (maxLength : ℕ) (text : String) : Decidable (Acceptable services maxLength text) := by
  unfold Acceptable
  infer_instance

/-- The validators accept an optional text; a blank one counts as missing. -/
def AcceptableOptional (maxLength : ℕ) (value : Option String) : Prop :=
  ∀ text ∈ value.bind nonBlankText, Acceptable services maxLength text

instance (maxLength : ℕ) (value : Option String) :
    Decidable (AcceptableOptional services maxLength value) := by
  unfold AcceptableOptional
  infer_instance

/-- Texts that something shows, the required ones with the lengths they may have. -/
structure ShownTexts where
  required : List (ℕ × String) := []
  optional : List (Option String) := []

namespace ShownTexts

instance : Append ShownTexts :=
  ⟨fun texts others => ⟨texts.required ++ others.required, texts.optional ++ others.optional⟩⟩

def Acceptable (texts : ShownTexts) : Prop :=
  (∀ text ∈ texts.required, AdvisorCockpit.Acceptable services text.1 text.2) ∧
    ∀ value ∈ texts.optional, AcceptableOptional services cockpitIdentifierMaxLength value

instance (texts : ShownTexts) : Decidable (texts.Acceptable services) := by
  unfold ShownTexts.Acceptable
  infer_instance

theorem acceptable_append {texts others : ShownTexts} : (texts ++ others).Acceptable services ↔
    texts.Acceptable services ∧ others.Acceptable services := by
  change (∀ text ∈ texts.required ++ others.required, _) ∧
    (∀ value ∈ texts.optional ++ others.optional, _) ↔ _
  rw [List.forall_mem_append, List.forall_mem_append]
  exact and_and_and_comm

end ShownTexts

variable {services} {maxLength : ℕ} {fieldName : String}

@[simp] theorem acceptableOptional_none : AcceptableOptional services maxLength none := by
  rintro text ⟨⟩

theorem checks_normalizeBounded (value : String) :
    Checks (normalizeBounded services maxLength fieldName value)
      (Acceptable services maxLength value) := by
  refine (checks_require rfl).bind fun _ _ => (checks_require rfl).bind fun _ _ => ?_
  exact ((checks_require rfl).bind fun _ _ => checks_ok _).congr (iff_of_eq (and_true _))

theorem checks_elim {value : Option String} :
    Checks ((value.bind nonBlankText).elim (.ok none) fun text =>
      (normalizeBounded services maxLength fieldName text).map some)
      (AcceptableOptional services maxLength value) := by
  unfold AcceptableOptional
  cases value.bind nonBlankText with
  | none => exact (checks_ok none).congr (by simp)
  | some text => exact ((checks_normalizeBounded text).map some).congr (by simp)

theorem checks_normalizeOptionalIdentifier (value : Option String) :
    Checks (normalizeOptionalIdentifier services fieldName value)
      (AcceptableOptional services cockpitIdentifierMaxLength value) := by
  rw [normalizeOptionalIdentifier_eq]
  exact checks_elim

theorem checks_normalizeOptionalBusinessText (value : Option String) :
    Checks (normalizeOptionalBusinessText services fieldName value)
      (AcceptableOptional services cockpitTextMaxLength value) := by
  rw [normalizeOptionalBusinessText_eq]
  exact checks_elim

end Texts

section Components

variable (services : CockpitServices)

def identifierText (text : String) : ℕ × String := (cockpitIdentifierMaxLength, text)

def businessText (text : String) : ℕ × String := (cockpitTextMaxLength, text)

def evidenceTexts (evidenceId evidenceType summary : String) : ShownTexts where
  required := [identifierText (boundedReference services evidenceId),
    identifierText (boundedReference services evidenceType),
    identifierText lotusAdviseSourceSystem, businessText (boundedSummary summary)]

/-- The texts of the lineage of an action, which defaults to its family and its source. -/
def lineageTexts (family : AdvisorCockpitActionFamily) (sourceActionId : String)
    (lineageId contentHash : Option String) : ShownTexts where
  required := [identifierText (boundedReference services
      (lineageId.getD (family.lowerText ++ ":" ++ sourceActionId))),
    identifierText lotusAdviseSourceSystem]
  optional := [boundedContentHash services (lineageId.bind fun _ => contentHash)]

def gapTexts (sourceFamily gapCode message : String) : ShownTexts where
  required := [identifierText (boundedReference services sourceFamily),
    identifierText (boundedReference services gapCode), businessText (boundedSummary message)]

def readinessTexts (dependency reasonCode summary : String) : ShownTexts where
  required := [identifierText (boundedReference services dependency),
    identifierText (boundedReference services reasonCode), businessText (boundedSummary summary)]

/-- The texts of an item itself, without those of its references. -/
def AdvisoryActionItem.texts (item : AdvisoryActionItem) : ShownTexts where
  required := [identifierText item.actionItemId, identifierText item.owningSystem,
    businessText item.title, businessText item.nextRequiredAction] ++
    item.reasonCodes.map identifierText
  optional := [item.clientRef, item.householdRef, item.portfolioId, item.proposalId,
    item.workspaceId, item.memoId, item.policyEvaluationId, item.reportRef, item.executionRef,
    item.dueAt, item.sourceTimestamp, item.correlationId]

variable {services}

theorem acceptable_mk {required : List (ℕ × String)} {optional : List (Option String)} :
    (ShownTexts.mk required optional).Acceptable services ↔
      (∀ text ∈ required, Acceptable services text.1 text.2) ∧
        ∀ value ∈ optional, AcceptableOptional services cockpitIdentifierMaxLength value :=
  Iff.rfl

theorem checks_evidenceRef (evidenceId evidenceType summary : String)
    (accessClass : CockpitEvidenceAccessClass) :
    Checks (evidenceRef services evidenceId evidenceType summary accessClass)
      ((evidenceTexts services evidenceId evidenceType summary).Acceptable services) := by
  refine Checks.congr ((checks_normalizeBounded _).bind fun _ _ =>
    (checks_normalizeBounded _).bind fun _ _ => (checks_normalizeBounded _).bind fun _ _ =>
    (checks_normalizeBounded _).bind fun _ _ => checks_ok _) ?_
  simp only [evidenceTexts, acceptable_mk, List.forall_mem_cons, List.not_mem_nil, false_implies,
    implies_true, and_true, identifierText, businessText]

theorem checks_sourceReadinessGap (sourceFamily gapCode : String)
    (ownerRole : AdvisorCockpitOwnerRole) (message : String) :
    Checks (sourceReadinessGap services sourceFamily gapCode ownerRole message)
      ((gapTexts services sourceFamily gapCode message).Acceptable services) := by
  refine Checks.congr ((checks_normalizeBounded _).bind fun _ _ =>
    (checks_normalizeBounded _).bind fun _ _ => (checks_normalizeBounded _).bind fun _ _ =>
    checks_ok _) ?_
  simp only [gapTexts, acceptable_mk, List.forall_mem_cons, List.not_mem_nil, false_implies,
    implies_true, and_true, identifierText, businessText]

theorem checks_dependencyReadiness (dependency : String) (state : CockpitDependencyState)
    (reasonCode summary : String) :
    Checks (dependencyReadiness services dependency state reasonCode summary)
      ((readinessTexts services dependency reasonCode summary).Acceptable services) := by
  refine Checks.congr ((checks_normalizeBounded _).bind fun _ _ =>
    (checks_normalizeBounded _).bind fun _ _ => (checks_normalizeBounded _).bind fun _ _ =>
    checks_ok _) ?_
  simp only [readinessTexts, acceptable_mk, List.forall_mem_cons, List.not_mem_nil, false_implies,
    implies_true, and_true, identifierText, businessText]

theorem checks_lineageRefs (lineageId : String) (contentHash : Option String) :
    Checks (lineageRefs services (some lineageId) contentHash)
      (ShownTexts.Acceptable services
        ⟨[identifierText (boundedReference services lineageId),
          identifierText lotusAdviseSourceSystem], [boundedContentHash services contentHash]⟩) := by
  refine Checks.congr ((checks_normalizeBounded _).bind fun _ _ =>
    (checks_normalizeBounded _).bind fun _ _ => (checks_normalizeOptionalIdentifier _).bind
    fun _ _ => checks_ok _) ?_
  simp only [acceptable_mk, List.forall_mem_cons, List.not_mem_nil, false_implies,
    implies_true, and_true, identifierText, and_assoc]

theorem checks_validated (item : AdvisoryActionItem) :
    Checks (item.validated services) (item.texts.Acceptable services) := by
  have hcodes : Checks (normalizeIdentifierList services "cockpit reason code" item.reasonCodes)
      (∀ code ∈ item.reasonCodes, Acceptable services cockpitIdentifierMaxLength code) :=
    checks_mapM fun code _ => checks_normalizeBounded code
  have href : ∀ value, Checks
      (normalizeOptionalIdentifier services "cockpit action reference" value)
      (AcceptableOptional services cockpitIdentifierMaxLength value) :=
    checks_normalizeOptionalIdentifier
  refine Checks.congr ((checks_normalizeBounded _).bind fun _ _ =>
    (checks_normalizeBounded _).bind fun _ _ => (checks_normalizeBounded _).bind fun _ _ =>
    (checks_normalizeBounded _).bind fun _ _ => hcodes.bind fun _ _ =>
    (href _).bind fun _ _ => (href _).bind fun _ _ => (href _).bind fun _ _ =>
    (href _).bind fun _ _ => (href _).bind fun _ _ => (href _).bind fun _ _ =>
    (href _).bind fun _ _ => (href _).bind fun _ _ => (href _).bind fun _ _ =>
    (href _).bind fun _ _ => (href _).bind fun _ _ => (href _).bind fun _ _ => checks_ok _) ?_
  simp only [AdvisoryActionItem.texts, acceptable_mk, List.forall_mem_append, List.forall_mem_cons,
    List.forall_mem_map, List.not_mem_nil, false_implies, implies_true, and_true, identifierText,
    businessText, and_assoc]

end Components

section Sources

variable (services : CockpitServices)

/-- What the action of a source says, and what it refers to. -/
structure ActionCopy where
  title : String
  nextRequiredAction : String
  references : List (Option String)

namespace ActionSource

def copy : ActionSource → ActionCopy
  | policyReview s => ⟨"Policy review required",
      "Review the policy evaluation before advisor follow-up or client-ready release.",
      [some s.portfolioId, s.proposalId, some s.policyEvaluationId, s.dueAt, s.sourceTimestamp,
        s.correlationId]⟩
  | memoBlock s => ⟨"Memo package blocked",
      "Resolve the memo evidence gap before advisor-use packaging.",
      [s.portfolioId, some s.proposalId, some s.memoId, s.dueAt, s.sourceTimestamp,
        s.correlationId]⟩
  | meetingPreparation s => ⟨"Meeting preparation ready",
      "Review the meeting preparation packet before client discussion.",
      [meetingPreparationPortfolio s, s.proposalId, s.dueAt, s.sourceTimestamp, s.correlationId]⟩
  | clientFollowUp s => ⟨"Client follow-up required",
      "Review the source-backed follow-up requirement before taking any client action.",
      [s.portfolioId, some s.proposalId, s.dueAt, s.sourceTimestamp, s.correlationId]⟩
  | approvalDependency s => ⟨approvalActionTitle s.approvalType,
      approvalNextRequiredAction s.approvalType,
      [s.portfolioId, some s.proposalId, s.dueAt, s.sourceTimestamp, s.correlationId]⟩
  | reportRenderArchive s => ⟨"Report and archive readiness blocked",
      "Resolve report/render/archive readiness before presenting completed packaging.",
      [s.portfolioId, some s.proposalId, some s.memoId, some s.readinessId, s.dueAt,
        s.sourceTimestamp, s.correlationId]⟩
  | executionHandoff s => ⟨"Execution handoff ready",
      "Request execution handoff through the governed Advise execution boundary.",
      [s.portfolioId, some s.proposalId, some s.handoffId, s.dueAt, s.sourceTimestamp,
        s.correlationId]⟩
  | executionStatus s => ⟨"Execution status attention",
      "Review downstream execution posture without treating Advise as the OMS.",
      [s.portfolioId, some s.proposalId, some s.executionRef, s.dueAt, s.sourceTimestamp,
        s.correlationId]⟩
  | houseViewImpact s => ⟨"Tactical house-view impact review",
      "Review the source-backed tactical house-view cohort before discretionary " ++
        "portfolio-management actioning.",
      [some s.portfolioId, s.dueAt, s.sourceTimestamp, s.correlationId]⟩
  | supportability s => ⟨"Cockpit source supportability attention",
      "Review source readiness before relying on the cockpit posture.",
      [s.portfolioId, s.dueAt, s.sourceTimestamp, s.correlationId]⟩
  | unsupportedCapability s => ⟨"Unsupported cockpit capability",
      "Do not present this capability as supported.",
      [s.portfolioId, s.sourceTimestamp, s.correlationId]⟩

/-- The texts of the lineage of an action that has no lineage of its own. -/
def defaultLineageTexts (source : ActionSource) : ShownTexts :=
  lineageTexts services source.outline.actionFamily source.outline.sourceActionId none none

/-- The texts of the references that are built for an action. -/
def referenceTexts (source : ActionSource) : ShownTexts :=
  match source with
  | policyReview s =>
    evidenceTexts services s.policyEvaluationId "POLICY_EVALUATION" s.summary ++
      gapTexts services "policy" (policyReviewReasonCode s.policyResult)
        "Policy review must be resolved before the proposal can become client-ready." ++
      lineageTexts services .policyReviewRequired s.policyEvaluationId s.lineageId s.contentHash
  | memoBlock s =>
    evidenceTexts services s.memoId "PROPOSAL_MEMO" s.summary ++
      gapTexts services "proposal_memo" s.blockageCode
        "Memo source evidence must be resolved before packaging continues." ++
      lineageTexts services .memoPackageBlocked s.memoId s.lineageId s.contentHash
  | meetingPreparation s =>
    (if s.evidenceRefs ≠ [] then {} else evidenceTexts services s.preparationId
      "MEETING_PREPARATION_PACKET" s.summary) ++ source.defaultLineageTexts services
  | clientFollowUp s =>
    evidenceTexts services s.followUpId "CLIENT_FOLLOW_UP_REQUIREMENT" s.summary ++
      gapTexts services "proposal_lifecycle" s.followUpCode s.summary ++
      source.defaultLineageTexts services
  | approvalDependency s =>
    evidenceTexts services s.dependencyId "PROPOSAL_APPROVAL_DEPENDENCY" s.summary ++
      gapTexts services "proposal_lifecycle" (approvalReasonCode s.approvalType s.approvalStatus)
        s.summary ++ source.defaultLineageTexts services
  | reportRenderArchive s =>
    evidenceTexts services s.readinessId "REPORT_RENDER_ARCHIVE_READINESS" s.summary ++
      gapTexts services "report_render_archive" s.readinessCode s.summary ++
      lineageTexts services .reportRenderArchiveBlocked s.readinessId s.lineageId s.contentHash
  | executionHandoff s =>
    evidenceTexts services s.handoffId "PROPOSAL_EXECUTION_HANDOFF_READINESS" s.summary ++
      source.defaultLineageTexts services
  | executionStatus s =>
    evidenceTexts services s.executionRef "PROPOSAL_EXECUTION_STATUS" s.summary ++
      source.defaultLineageTexts services
  | houseViewImpact s =>
    evidenceTexts services s.cohortId "TACTICAL_HOUSE_VIEW_COHORT" s.summary ++
      lineageTexts services .houseViewImpactReview s.cohortId
        (some (orText s.lineageId ("tactical_house_view_cohort:" ++ s.cohortId))) s.contentHash
  | supportability s =>
    readinessTexts services s.dependency s.reasonCode s.summary ++
      source.defaultLineageTexts services
  | unsupportedCapability _ => source.defaultLineageTexts services

def itemTexts (source : ActionSource) : ShownTexts where
  required := [identifierText (source.actionItemId services),
    identifierText lotusAdviseSourceSystem, businessText source.copy.title,
    businessText source.copy.nextRequiredAction] ++
    (uniqueOrdered source.outline.reasonCodes).map identifierText
  optional := source.copy.references.map (boundedOptionalReference services)

/-- All texts that the action of a source shows. -/
def texts (source : ActionSource) : ShownTexts :=
  source.referenceTexts services ++ source.itemTexts services

end ActionSource

/-- The texts of an item that is built from an input. -/
def CockpitActionConstructionInput.texts (input : CockpitActionConstructionInput) : ShownTexts where
  required := [identifierText (sourceActionItemId services input),
    identifierText lotusAdviseSourceSystem, businessText input.title,
    businessText input.nextRequiredAction] ++ (uniqueOrdered input.reasonCodes).map identifierText
  optional := [input.sourceRefs.clientRef, input.sourceRefs.householdRef,
    input.sourceRefs.portfolioId, input.sourceRefs.proposalId, input.sourceRefs.workspaceId,
    input.sourceRefs.memoId, input.sourceRefs.policyEvaluationId, input.sourceRefs.reportRef,
    input.sourceRefs.executionRef, input.dueAt, input.sourceTimestamp,
    input.correlationId].map (boundedOptionalReference services)

variable {services}

theorem checks_buildSourceBackedAction {input : CockpitActionConstructionInput} {P : Prop}
    (hcodes : input.reasonCodes ≠ []) (hcontext : hasSourceActionContext input = true)
    (hlineage : Checks (sourceLineageRefs services input) P) :
    Checks (buildSourceBackedAction services input)
      (P ∧ (input.texts services).Acceptable services) := by
  have hvalid : validateSourceActionContext input = .ok () := by
    rw [validateSourceActionContext, require_true hcodes, require_true hcontext]
    rfl
  rw [buildSourceBackedAction, hvalid]
  exact hlineage.bind fun lineage _ => checks_validated _

/-- An input is the one that the builder of a source supplies. -/
structure Describes (services : CockpitServices) (source : ActionSource)
    (input : CockpitActionConstructionInput) : Prop where
  sourceActionId : input.sourceActionId = source.outline.sourceActionId
  actionFamily : input.actionFamily = source.outline.actionFamily
  reasonCodes : input.reasonCodes ≠ []
  context : hasSourceActionContext input = true
  required : (input.texts services).required = (source.itemTexts services).required
  optional : (∀ value ∈ (input.texts services).optional,
      AcceptableOptional services cockpitIdentifierMaxLength value) ↔
    ∀ value ∈ (source.itemTexts services).optional,
      AcceptableOptional services cockpitIdentifierMaxLength value

theorem Describes.texts {source : ActionSource} {input : CockpitActionConstructionInput}
    (h : Describes services source input) : (input.texts services).Acceptable services ↔
      (source.itemTexts services).Acceptable services := by
  rw [ShownTexts.Acceptable, ShownTexts.Acceptable, h.required, h.optional]

theorem boundedOptionalReference_none : boundedOptionalReference services none = none := rfl

/-- An action without a lineage of its own. -/
theorem checks_defaultLineage (source : ActionSource) {input : CockpitActionConstructionInput}
    (h : Describes services source input) (hnone : input.lineageRefs = []) :
    Checks (buildSourceBackedAction services input)
      ((source.defaultLineageTexts services).Acceptable services ∧
        (source.itemTexts services).Acceptable services) := by
  rw [ActionSource.defaultLineageTexts, ← h.texts, ← h.actionFamily, ← h.sourceActionId]
  refine checks_buildSourceBackedAction h.reasonCodes h.context ?_
  rw [sourceLineageRefs, if_neg (not_not.mpr hnone)]
  exact checks_lineageRefs _ _

/-- An action with a lineage of its own, if it is given one. -/
theorem checks_givenLineage (source : ActionSource)
    {input : List CockpitLineageRef → CockpitActionConstructionInput}
    {lineageId contentHash : Option String}
    (h : ∀ lineage, Describes services source (input lineage))
    (hlineage : ∀ lineage, (input lineage).lineageRefs = lineage) :
    Checks (lineageRefs services lineageId contentHash >>= fun lineage =>
        buildSourceBackedAction services (input lineage))
      ((lineageTexts services source.outline.actionFamily source.outline.sourceActionId lineageId
          contentHash).Acceptable services ∧ (source.itemTexts services).Acceptable services) := by
  cases lineageId with
  | none => exact checks_defaultLineage source (h []) (hlineage [])
  | some id =>
    refine (checks_lineageRefs id contentHash).bind fun lineage hok => ?_
    have hne : (input lineage).lineageRefs ≠ [] := by
      rw [hlineage]
      obtain ⟨_, _, hok⟩ := bind_eq_ok.mp hok
      obtain ⟨_, _, hok⟩ := bind_eq_ok.mp hok
      obtain ⟨_, _, hok⟩ := bind_eq_ok.mp hok
      obtain rfl := Except.ok.inj hok
      exact List.cons_ne_nil _ _
    rw [← (h lineage).texts]
    refine (checks_buildSourceBackedAction (h lineage).reasonCodes (h lineage).context
      (P := True) ?_).congr (iff_of_eq (true_and _))
    rw [sourceLineageRefs, if_pos hne]
    exact checks_ok _

theorem checks_meetingPreparationEvidence (source : MeetingPreparationActionSource) :
    Checks (meetingPreparationEvidence services source)
      ((if source.evidenceRefs ≠ [] then {} else evidenceTexts services source.preparationId
        "MEETING_PREPARATION_PACKET" source.summary : ShownTexts).Acceptable services) := by
  unfold meetingPreparationEvidence
  split
  · exact (checks_ok _).congr (by simp [ShownTexts.Acceptable])
  · exact (checks_evidenceRef _ _ _ _).map _

theorem meetingPreparationEvidence_ne_nil {source : MeetingPreparationActionSource}
    {evidence : List CockpitEvidenceRef}
    (h : meetingPreparationEvidence services source = .ok evidence) : evidence ≠ [] := by
  unfold meetingPreparationEvidence at h
  split at h
  · next hne =>
    cases h
    exact hne
  · obtain ⟨built, -, rfl⟩ := map_eq_ok.mp h
    exact List.cons_ne_nil _ _

/-- The action of a source is built exactly when the texts that it shows are accepted. -/
theorem checks_buildAction (source : ActionSource) :
    Checks (source.buildAction services) ((source.texts services).Acceptable services) := by
  have hne := fun (code : String) codes => List.cons_ne_nil code codes
  rw [ActionSource.texts]
  cases source with
  | policyReview s =>
    refine Checks.congr ((checks_evidenceRef _ _ _ _).bind fun _ _ =>
      (checks_sourceReadinessGap _ _ _ _).bind fun _ _ =>
      checks_givenLineage (.policyReview s) (fun _ => ⟨rfl, rfl, hne _ _, rfl, rfl, ?_⟩)
        fun _ => rfl) ?_
    · simp [CockpitActionConstructionInput.texts, ActionSource.itemTexts, ActionSource.copy,
        boundedOptionalReference_none]
    · simp only [ActionSource.referenceTexts, ShownTexts.acceptable_append, and_assoc,
        ActionSource.outline]
  | memoBlock s =>
    refine Checks.congr ((checks_evidenceRef _ _ _ _).bind fun _ _ =>
      (checks_sourceReadinessGap _ _ _ _).bind fun _ _ =>
      checks_givenLineage (.memoBlock s) (fun _ => ⟨rfl, rfl, hne _ _, rfl, rfl, ?_⟩)
        fun _ => rfl) ?_
    · simp [CockpitActionConstructionInput.texts, ActionSource.itemTexts, ActionSource.copy,
        boundedOptionalReference_none]
    · simp only [ActionSource.referenceTexts, ShownTexts.acceptable_append, and_assoc,
        ActionSource.outline]
  | meetingPreparation s =>
    refine Checks.congr ((checks_meetingPreparationEvidence s).bind fun evidence hevidence =>
      checks_defaultLineage (.meetingPreparation s)
        ⟨rfl, rfl, hne _ _, ?_, rfl, ?_⟩ rfl) ?_
    · simp [hasSourceActionContext, meetingPreparationEvidence_ne_nil hevidence]
    · simp [CockpitActionConstructionInput.texts, ActionSource.itemTexts, ActionSource.copy,
        boundedOptionalReference_none]
    · simp only [ActionSource.referenceTexts, ShownTexts.acceptable_append, and_assoc]
  | clientFollowUp s =>
    refine Checks.congr ((checks_evidenceRef _ _ _ _).bind fun _ _ =>
      (checks_sourceReadinessGap _ _ _ _).bind fun _ _ =>
      checks_defaultLineage (.clientFollowUp s) ⟨rfl, rfl, hne _ _, rfl, rfl, ?_⟩ rfl) ?_
    · simp [CockpitActionConstructionInput.texts, ActionSource.itemTexts, ActionSource.copy,
        boundedOptionalReference_none]
    · simp only [ActionSource.referenceTexts, ShownTexts.acceptable_append, and_assoc]
  | approvalDependency s =>
    refine Checks.congr ((checks_evidenceRef _ _ _ _).bind fun _ _ =>
      (checks_sourceReadinessGap _ _ _ _).bind fun _ _ =>
      checks_defaultLineage (.approvalDependency s) ⟨rfl, rfl, hne _ _, rfl, rfl, ?_⟩
        rfl) ?_
    · simp [CockpitActionConstructionInput.texts, ActionSource.itemTexts, ActionSource.copy,
        boundedOptionalReference_none]
    · simp only [ActionSource.referenceTexts, ShownTexts.acceptable_append, and_assoc]
  | reportRenderArchive s =>
    refine Checks.congr ((checks_evidenceRef _ _ _ _).bind fun _ _ =>
      (checks_sourceReadinessGap _ _ _ _).bind fun _ _ =>
      checks_givenLineage (.reportRenderArchive s)
        (fun _ => ⟨rfl, rfl, hne _ _, rfl, rfl, ?_⟩) fun _ => rfl) ?_
    · simp [CockpitActionConstructionInput.texts, ActionSource.itemTexts, ActionSource.copy,
        boundedOptionalReference_none]
    · simp only [ActionSource.referenceTexts, ShownTexts.acceptable_append, and_assoc,
        ActionSource.outline]
  | executionHandoff s =>
    refine Checks.congr ((checks_evidenceRef _ _ _ _).bind fun _ _ =>
      checks_defaultLineage (.executionHandoff s) ⟨rfl, rfl, hne _ _, rfl, rfl, ?_⟩
        rfl) ?_
    · simp [CockpitActionConstructionInput.texts, ActionSource.itemTexts, ActionSource.copy,
        boundedOptionalReference_none]
    · simp only [ActionSource.referenceTexts, ShownTexts.acceptable_append, and_assoc]
  | executionStatus s =>
    refine Checks.congr ((checks_evidenceRef _ _ _ _).bind fun _ _ =>
      checks_defaultLineage (.executionStatus s) ⟨rfl, rfl, hne _ _, rfl, rfl, ?_⟩
        rfl) ?_
    · simp [CockpitActionConstructionInput.texts, ActionSource.itemTexts, ActionSource.copy,
        boundedOptionalReference_none]
    · simp only [ActionSource.referenceTexts, ShownTexts.acceptable_append, and_assoc]
  | houseViewImpact s =>
    refine Checks.congr ((checks_evidenceRef _ _ _ _).bind fun _ _ =>
      checks_givenLineage (.houseViewImpact s)
        (fun _ => ⟨rfl, rfl, hne _ _, rfl, rfl, ?_⟩) fun _ => rfl) ?_
    · simp [CockpitActionConstructionInput.texts, ActionSource.itemTexts, ActionSource.copy,
        boundedOptionalReference_none]
    · simp only [ActionSource.referenceTexts, ShownTexts.acceptable_append, and_assoc,
        ActionSource.outline]
  | supportability s =>
    refine Checks.congr ((checks_dependencyReadiness _ _ _ _).bind fun _ _ =>
      checks_defaultLineage (.supportability s) ⟨rfl, rfl, hne _ _, rfl, rfl, ?_⟩
        rfl) ?_
    · simp [CockpitActionConstructionInput.texts, ActionSource.itemTexts, ActionSource.copy,
        boundedOptionalReference_none]
    · simp only [ActionSource.referenceTexts, ShownTexts.acceptable_append, and_assoc]
  | unsupportedCapability s =>
    refine Checks.congr (checks_defaultLineage (.unsupportedCapability s)
      ⟨rfl, rfl, hne _ _, rfl, rfl, ?_⟩ rfl) ?_
    · simp [CockpitActionConstructionInput.texts, ActionSource.itemTexts, ActionSource.copy,
        boundedOptionalReference_none]
    · simp only [ActionSource.referenceTexts, ShownTexts.acceptable_append]

end Sources

end LotusAdvise.AdvisorCockpit

import LotusAdvise.AdvisorCockpit.ActionQueue
import LotusAdvise.AdvisorCockpit.TextChecks

/-! # Validating again

Validators normalize the texts that they accept, and they accept a normalized text again. So the
models that have been built pass when the snapshot is validated from its dump, except for what
was attached to an action without a check.
-/

namespace LotusAdvise.AdvisorCockpit

open Alongside Proposals

section Texts

variable {services : CockpitServices} {maxLength : ℕ} {fieldName : String}
  {value : Option String} {text normalized : String}

theorem acceptable_normalizedText : Acceptable services maxLength (normalizedText text) ↔
    Acceptable services maxLength text := by
  rw [Acceptable, Acceptable, normalizedText_normalizedText]

/-- What a validator returned is accepted again. -/
theorem acceptable_of_normalizeBounded
    (h : normalizeBounded services maxLength fieldName text = .ok normalized) :
    Acceptable services maxLength normalized := by
  rw [normalizeBounded_eq_ok h, acceptable_normalizedText]
  exact (checks_normalizeBounded text).of_ok h

theorem bind_nonBlankText_idem (value : Option String) :
    (value.bind nonBlankText).bind nonBlankText = value.bind nonBlankText := by
  cases htext : value.bind nonBlankText with
  | none => rfl
  | some text =>
    obtain ⟨raw, -, hraw⟩ := Option.bind_eq_some_iff.mp htext
    have hnormal := normalizedText_nonBlankText hraw
    have hne : text ≠ "" := by
      unfold nonBlankText at hraw
      split at hraw
      · cases hraw
      · next hblank =>
        obtain rfl := Option.some.inj hraw
        exact hblank
    rw [Option.bind_some, nonBlankText, hnormal, if_neg hne]

theorem acceptableOptional_of_identifier {normalized : Option String}
    (h : normalizeOptionalIdentifier services fieldName value = .ok normalized) :
    AcceptableOptional services cockpitIdentifierMaxLength normalized := by
  have haccepted := (checks_normalizeOptionalIdentifier value).of_ok h
  rwa [normalizeOptionalIdentifier_eq_ok h, AcceptableOptional, bind_nonBlankText_idem]

theorem acceptableOptional_of_businessText {normalized : Option String}
    (h : normalizeOptionalBusinessText services fieldName value = .ok normalized) :
    AcceptableOptional services cockpitTextMaxLength normalized := by
  have haccepted := (checks_normalizeOptionalBusinessText value).of_ok h
  rw [normalizeOptionalBusinessText_eq] at h
  rwa [optional_eq_ok h, AcceptableOptional, bind_nonBlankText_idem]

end Texts

section References

variable {services : CockpitServices}

def CockpitEvidenceRef.texts (ref : CockpitEvidenceRef) : ShownTexts where
  required := [identifierText ref.evidenceId, identifierText ref.evidenceType,
    identifierText ref.sourceSystem, businessText ref.summary]

def CockpitLineageRef.texts (ref : CockpitLineageRef) : ShownTexts where
  required := [identifierText ref.lineageId, identifierText ref.sourceSystem]
  optional := [ref.contentHash]

def CockpitSourceReadinessGap.texts (gap : CockpitSourceReadinessGap) : ShownTexts where
  required := [identifierText gap.sourceFamily, identifierText gap.gapCode,
    businessText gap.message]

def CockpitDependencyReadiness.texts (readiness : CockpitDependencyReadiness) : ShownTexts where
  required := [identifierText readiness.dependency, identifierText readiness.reasonCode,
    businessText readiness.summary]

theorem CockpitEvidenceRef.checks_validated (ref : CockpitEvidenceRef) :
    Checks (ref.validated services) (ref.texts.Acceptable services) := by
  refine Checks.congr ((checks_normalizeBounded _).bind fun _ _ =>
    (checks_normalizeBounded _).bind fun _ _ => (checks_normalizeBounded _).bind fun _ _ =>
    (checks_normalizeBounded _).bind fun _ _ => checks_ok _) ?_
  simp only [texts, acceptable_mk, List.forall_mem_cons, List.not_mem_nil, false_implies,
    implies_true, and_true, identifierText, businessText]

theorem CockpitLineageRef.checks_validated (ref : CockpitLineageRef) :
    Checks (ref.validated services) (ref.texts.Acceptable services) := by
  refine Checks.congr ((checks_normalizeBounded _).bind fun _ _ =>
    (checks_normalizeBounded _).bind fun _ _ => (checks_normalizeOptionalIdentifier _).bind
    fun _ _ => checks_ok _) ?_
  simp only [texts, acceptable_mk, List.forall_mem_cons, List.not_mem_nil, false_implies,
    implies_true, and_true, identifierText, and_assoc]

theorem CockpitSourceReadinessGap.checks_validated (gap : CockpitSourceReadinessGap) :
    Checks (gap.validated services) (gap.texts.Acceptable services) := by
  refine Checks.congr ((checks_normalizeBounded _).bind fun _ _ =>
    (checks_normalizeBounded _).bind fun _ _ => (checks_normalizeBounded _).bind fun _ _ =>
    checks_ok _) ?_
  simp only [texts, acceptable_mk, List.forall_mem_cons, List.not_mem_nil, false_implies,
    implies_true, and_true, identifierText, businessText]

theorem CockpitDependencyReadiness.checks_validated (readiness : CockpitDependencyReadiness) :
    Checks (readiness.validated services) (readiness.texts.Acceptable services) := by
  refine Checks.congr ((checks_normalizeBounded _).bind fun _ _ =>
    (checks_normalizeBounded _).bind fun _ _ => (checks_normalizeBounded _).bind fun _ _ =>
    checks_ok _) ?_
  simp only [texts, acceptable_mk, List.forall_mem_cons, List.not_mem_nil, false_implies,
    implies_true, and_true, identifierText, businessText]

/-- References that have been validated, or built with the checks of their validators. -/
theorem CockpitEvidenceRef.acceptable_of_validated {raw ref : CockpitEvidenceRef}
    (h : raw.validated services = .ok ref) : ref.texts.Acceptable services := by
  obtain ⟨_, hid, h⟩ := bind_eq_ok.mp h
  obtain ⟨_, htype, h⟩ := bind_eq_ok.mp h
  obtain ⟨_, hsystem, h⟩ := bind_eq_ok.mp h
  obtain ⟨_, hsummary, h⟩ := bind_eq_ok.mp h
  obtain rfl := Except.ok.inj h
  simp only [texts, acceptable_mk, List.forall_mem_cons, List.not_mem_nil, false_implies,
    implies_true, and_true, identifierText, businessText]
  exact ⟨acceptable_of_normalizeBounded hid, acceptable_of_normalizeBounded htype,
    acceptable_of_normalizeBounded hsystem, acceptable_of_normalizeBounded hsummary⟩

theorem CockpitLineageRef.acceptable_of_validated {raw ref : CockpitLineageRef}
    (h : raw.validated services = .ok ref) : ref.texts.Acceptable services := by
  obtain ⟨_, hid, h⟩ := bind_eq_ok.mp h
  obtain ⟨_, hsystem, h⟩ := bind_eq_ok.mp h
  obtain ⟨_, hhash, h⟩ := bind_eq_ok.mp h
  obtain rfl := Except.ok.inj h
  simp only [texts, acceptable_mk, List.forall_mem_cons, List.not_mem_nil, false_implies,
    implies_true, and_true, identifierText]
  exact ⟨⟨acceptable_of_normalizeBounded hid, acceptable_of_normalizeBounded hsystem⟩,
    acceptableOptional_of_identifier hhash⟩

theorem CockpitSourceReadinessGap.acceptable_of_validated {raw gap : CockpitSourceReadinessGap}
    (h : raw.validated services = .ok gap) : gap.texts.Acceptable services := by
  obtain ⟨_, hfamily, h⟩ := bind_eq_ok.mp h
  obtain ⟨_, hcode, h⟩ := bind_eq_ok.mp h
  obtain ⟨_, hmessage, h⟩ := bind_eq_ok.mp h
  obtain rfl := Except.ok.inj h
  simp only [texts, acceptable_mk, List.forall_mem_cons, List.not_mem_nil, false_implies,
    implies_true, and_true, identifierText, businessText]
  exact ⟨acceptable_of_normalizeBounded hfamily, acceptable_of_normalizeBounded hcode,
    acceptable_of_normalizeBounded hmessage⟩

theorem CockpitDependencyReadiness.acceptable_of_validated
    {raw readiness : CockpitDependencyReadiness} (h : raw.validated services = .ok readiness) :
    readiness.texts.Acceptable services := by
  obtain ⟨_, hdependency, h⟩ := bind_eq_ok.mp h
  obtain ⟨_, hcode, h⟩ := bind_eq_ok.mp h
  obtain ⟨_, hsummary, h⟩ := bind_eq_ok.mp h
  obtain rfl := Except.ok.inj h
  simp only [texts, acceptable_mk, List.forall_mem_cons, List.not_mem_nil, false_implies,
    implies_true, and_true, identifierText, businessText]
  exact ⟨acceptable_of_normalizeBounded hdependency, acceptable_of_normalizeBounded hcode,
    acceptable_of_normalizeBounded hsummary⟩

end References

section Items

variable {services : CockpitServices} {source : ActionSource} {action : AdvisoryActionItem}

/-- The references of an action pass their validators again. -/
structure ReferencesSettled (services : CockpitServices) (evidence : List CockpitEvidenceRef)
    (gaps : List CockpitSourceReadinessGap) (readiness : List CockpitDependencyReadiness)
    (lineage : List CockpitLineageRef) : Prop where
  evidence : ∀ ref ∈ evidence, ref.texts.Acceptable services
  gaps : ∀ gap ∈ gaps, gap.texts.Acceptable services
  readiness : ∀ dependency ∈ readiness, dependency.texts.Acceptable services
  lineage : ∀ ref ∈ lineage, ref.texts.Acceptable services

/-- An action that has been built, before the runtime attaches anything. -/
structure Settled (services : CockpitServices) (action : AdvisoryActionItem) : Prop where
  references : ReferencesSettled services action.evidenceRefs action.sourceReadinessGaps
    action.dependencyReadiness action.lineageRefs
  texts : action.texts.Acceptable services

theorem acceptable_of_lineageRefs {lineageId contentHash : Option String}
    {lineage : List CockpitLineageRef}
    (h : lineageRefs services lineageId contentHash = .ok lineage) :
    ∀ ref ∈ lineage, ref.texts.Acceptable services := by
  cases lineageId with
  | none =>
    obtain rfl := Except.ok.inj h
    exact fun ref href => (List.not_mem_nil href).elim
  | some id =>
    obtain ⟨_, hid, h⟩ := bind_eq_ok.mp h
    obtain ⟨_, hsystem, h⟩ := bind_eq_ok.mp h
    obtain ⟨_, hhash, h⟩ := bind_eq_ok.mp h
    obtain rfl := Except.ok.inj h
    intro ref href
    rw [List.mem_singleton.mp href]
    exact @CockpitLineageRef.acceptable_of_validated services
      ⟨boundedReference services id, lotusAdviseSourceSystem,
        boundedContentHash services contentHash⟩ _
      (bind_eq_ok.mpr ⟨_, hid, bind_eq_ok.mpr ⟨_, hsystem, bind_eq_ok.mpr ⟨_, hhash, rfl⟩⟩⟩)

theorem acceptable_of_evidenceRef {evidenceId evidenceType summary : String}
    {accessClass : CockpitEvidenceAccessClass} {ref : CockpitEvidenceRef}
    (h : evidenceRef services evidenceId evidenceType summary accessClass = .ok ref) :
    ref.texts.Acceptable services :=
  @CockpitEvidenceRef.acceptable_of_validated services
    ⟨boundedReference services evidenceId, boundedReference services evidenceType,
      lotusAdviseSourceSystem, accessClass, boundedSummary summary⟩ ref h

theorem acceptable_of_sourceReadinessGap {sourceFamily gapCode message : String}
    {ownerRole : AdvisorCockpitOwnerRole} {gap : CockpitSourceReadinessGap}
    (h : sourceReadinessGap services sourceFamily gapCode ownerRole message = .ok gap) :
    gap.texts.Acceptable services :=
  @CockpitSourceReadinessGap.acceptable_of_validated services
    ⟨boundedReference services sourceFamily, boundedReference services gapCode, ownerRole,
      boundedSummary message⟩ gap h

theorem acceptable_of_dependencyReadiness {dependency reasonCode summary : String}
    {state : CockpitDependencyState} {readiness : CockpitDependencyReadiness}
    (h : dependencyReadiness services dependency state reasonCode summary = .ok readiness) :
    readiness.texts.Acceptable services :=
  @CockpitDependencyReadiness.acceptable_of_validated services
    ⟨boundedReference services dependency, state, boundedReference services reasonCode,
      boundedSummary summary⟩ readiness h

theorem settled_of_buildSourceBackedAction {input : CockpitActionConstructionInput}
    (h : buildSourceBackedAction services input = .ok action)
    (hrefs : ReferencesSettled services input.evidenceRefs input.sourceReadinessGaps
      input.dependencyReadiness input.lineageRefs) : Settled services action := by
  simp only [buildSourceBackedAction, AdvisoryActionItem.validated, bind_eq_ok] at h
  obtain ⟨_, _, lineage, hlineage, id, hid, system, hsystem, title, htitle, next, hnext, codes,
    hcodes, _, h1, _, h2, _, h3, _, h4, _, h5, _, h6, _, h7, _, h8, _, h9, _, h10, _, h11, _, h12,
    h⟩ := h
  obtain rfl := Except.ok.inj h
  refine ⟨⟨hrefs.evidence, hrefs.gaps, hrefs.readiness, ?_⟩, ?_⟩
  · unfold sourceLineageRefs at hlineage
    split at hlineage
    · obtain rfl := Except.ok.inj hlineage
      exact hrefs.lineage
    · exact acceptable_of_lineageRefs hlineage
  · have hcode : ∀ code ∈ codes, Acceptable services cockpitIdentifierMaxLength code := by
      intro code hcode
      obtain ⟨raw, -, hraw⟩ := mem_mapM hcodes hcode
      exact acceptable_of_normalizeBounded hraw
    simp only [AdvisoryActionItem.texts, acceptable_mk, List.forall_mem_append,
      List.forall_mem_cons, List.forall_mem_map, List.not_mem_nil, false_implies, implies_true,
      and_true, identifierText, businessText]
    exact ⟨⟨⟨acceptable_of_normalizeBounded hid, acceptable_of_normalizeBounded hsystem,
        acceptable_of_normalizeBounded htitle, acceptable_of_normalizeBounded hnext⟩, hcode⟩,
      acceptableOptional_of_identifier h1, acceptableOptional_of_identifier h2,
      acceptableOptional_of_identifier h3, acceptableOptional_of_identifier h4,
      acceptableOptional_of_identifier h5, acceptableOptional_of_identifier h6,
      acceptableOptional_of_identifier h7, acceptableOptional_of_identifier h8,
      acceptableOptional_of_identifier h9, acceptableOptional_of_identifier h10,
      acceptableOptional_of_identifier h11, acceptableOptional_of_identifier h12⟩

/-- The evidence that a source brings along is settled already. -/
def ActionSource.EvidenceSettled (services : CockpitServices) : ActionSource → Prop
  | .meetingPreparation s => ∀ ref ∈ s.evidenceRefs, ref.texts.Acceptable services
  | _ => True

theorem settled_of_buildAction (hevidence : source.EvidenceSettled services)
    (h : source.buildAction services = .ok action) : Settled services action := by
  cases source with
  | policyReview s | memoBlock s | reportRenderArchive s =>
    obtain ⟨_, he, h⟩ := bind_eq_ok.mp h
    obtain ⟨_, hg, h⟩ := bind_eq_ok.mp h
    obtain ⟨_, hl, h⟩ := bind_eq_ok.mp h
    exact settled_of_buildSourceBackedAction h
      ⟨List.forall_mem_singleton.mpr (acceptable_of_evidenceRef he),
        List.forall_mem_singleton.mpr (acceptable_of_sourceReadinessGap hg), List.forall_mem_nil _,
        acceptable_of_lineageRefs hl⟩
  | clientFollowUp s | approvalDependency s =>
    obtain ⟨_, he, h⟩ := bind_eq_ok.mp h
    obtain ⟨_, hg, h⟩ := bind_eq_ok.mp h
    exact settled_of_buildSourceBackedAction h
      ⟨List.forall_mem_singleton.mpr (acceptable_of_evidenceRef he),
        List.forall_mem_singleton.mpr (acceptable_of_sourceReadinessGap hg), List.forall_mem_nil _,
        List.forall_mem_nil _⟩
  | houseViewImpact s =>
    obtain ⟨_, he, h⟩ := bind_eq_ok.mp h
    obtain ⟨_, hl, h⟩ := bind_eq_ok.mp h
    exact settled_of_buildSourceBackedAction h
      ⟨List.forall_mem_singleton.mpr (acceptable_of_evidenceRef he), List.forall_mem_nil _,
        List.forall_mem_nil _, acceptable_of_lineageRefs hl⟩
  | meetingPreparation s =>
    obtain ⟨evidence, he, h⟩ := bind_eq_ok.mp h
    have hsettled : ∀ ref ∈ evidence, ref.texts.Acceptable services := by
      unfold meetingPreparationEvidence at he
      split at he
      · obtain rfl := Except.ok.inj he
        exact hevidence
      · obtain ⟨ref, href, rfl⟩ := map_eq_ok.mp he
        exact List.forall_mem_singleton.mpr (acceptable_of_evidenceRef href)
    exact settled_of_buildSourceBackedAction h
      ⟨hsettled, List.forall_mem_nil _, List.forall_mem_nil _, List.forall_mem_nil _⟩
  | executionHandoff s | executionStatus s =>
    obtain ⟨_, he, h⟩ := bind_eq_ok.mp h
    exact settled_of_buildSourceBackedAction h
      ⟨List.forall_mem_singleton.mpr (acceptable_of_evidenceRef he), List.forall_mem_nil _,
        List.forall_mem_nil _, List.forall_mem_nil _⟩
  | supportability s =>
    obtain ⟨_, hr, h⟩ := bind_eq_ok.mp h
    exact settled_of_buildSourceBackedAction h
      ⟨List.forall_mem_nil _, List.forall_mem_nil _,
        List.forall_mem_singleton.mpr (acceptable_of_dependencyReadiness hr), List.forall_mem_nil _⟩
  | unsupportedCapability s =>
    exact settled_of_buildSourceBackedAction h
      ⟨List.forall_mem_nil _, List.forall_mem_nil _, List.forall_mem_nil _, List.forall_mem_nil _⟩

end Items

section Runtime

variable {services : CockpitServices} {record : CockpitAcknowledgementRecord}
  {state : CockpitAcknowledgementState} {action shown : AdvisoryActionItem}
  {correlationId : Option String} {now : DateTime}

/-- The texts of an acknowledgement pass the checks of the state that shows them. -/
def AcknowledgementAcceptable (services : CockpitServices)
    (record : CockpitAcknowledgementRecord) : Prop :=
  (∀ text ∈ [record.acknowledgementId, record.acknowledgedBy, record.acknowledgedAt.isoformat],
    AcceptableOptional services cockpitIdentifierMaxLength (some text)) ∧
    AcceptableOptional services cockpitTextMaxLength record.acknowledgementNote

instance : Decidable (AcknowledgementAcceptable services record) := by
  unfold AcknowledgementAcceptable
  infer_instance

theorem checks_acknowledgementState (record : CockpitAcknowledgementRecord) :
    Checks (acknowledgementState services record) (AcknowledgementAcceptable services record) := by
  refine Checks.congr ((checks_normalizeOptionalIdentifier _).bind fun _ _ =>
    (checks_normalizeOptionalIdentifier _).bind fun _ _ =>
    (checks_normalizeOptionalIdentifier _).bind fun _ _ =>
    (checks_normalizeOptionalBusinessText _).bind fun _ _ => checks_ok _) ?_
  simp only [AcknowledgementAcceptable, List.forall_mem_cons, List.not_mem_nil, false_implies,
    implies_true, and_true, and_assoc]

/-- A state that passes its validators. -/
structure AcknowledgementSettled (services : CockpitServices)
    (state : CockpitAcknowledgementState) : Prop where
  references : ∀ value ∈ [state.acknowledgementId, state.acknowledgedBy, state.acknowledgedAt],
    AcceptableOptional services cockpitIdentifierMaxLength value
  note : AcceptableOptional services cockpitTextMaxLength state.acknowledgementNote
  fieldsMatch : state.FieldsMatch

theorem acknowledgementSettled_none :
    AcknowledgementSettled services { acknowledged := false } := by
  refine ⟨?_, acceptableOptional_none, fun _ => rfl⟩
  simp only [List.forall_mem_cons, acceptableOptional_none, List.not_mem_nil, false_implies,
    implies_true, and_true]

theorem acknowledgementSettled_of_state (h : acknowledgementState services record = .ok state) :
    AcknowledgementSettled services state := by
  obtain ⟨_, hid, h⟩ := bind_eq_ok.mp h
  obtain ⟨_, hwho, h⟩ := bind_eq_ok.mp h
  obtain ⟨_, htime, h⟩ := bind_eq_ok.mp h
  obtain ⟨_, hnote, h⟩ := bind_eq_ok.mp h
  obtain rfl := Except.ok.inj h
  refine ⟨?_, acceptableOptional_of_businessText hnote, nofun⟩
  simp only [List.forall_mem_cons, List.not_mem_nil, false_implies, implies_true, and_true]
  exact ⟨acceptableOptional_of_identifier hid, acceptableOptional_of_identifier hwho,
    acceptableOptional_of_identifier htime⟩

/-- A settled state passes its validators. -/
theorem AcknowledgementSettled.checks (h : AcknowledgementSettled services state) :
    Checks (state.validated services) True := by
  obtain ⟨hrefs, hnote, hmatch⟩ := h
  simp only [List.forall_mem_cons, List.not_mem_nil, false_implies, implies_true, and_true]
    at hrefs
  obtain ⟨hid, hwho, htime⟩ := hrefs
  refine Checks.congr ((checks_normalizeOptionalIdentifier _).bind fun id hid =>
    (checks_normalizeOptionalIdentifier _).bind fun who hwho =>
    (checks_normalizeOptionalIdentifier _).bind fun time htime =>
    (checks_normalizeOptionalBusinessText _).bind fun note hnote => ?_)
    (iff_of_true ⟨hid, hwho, htime, hnote, trivial⟩ trivial)
  have hnormalized : CockpitAcknowledgementState.FieldsMatch
      { state with
        acknowledgementId := id, acknowledgedBy := who, acknowledgedAt := time
        acknowledgementNote := note } := by
    intro hfalse
    obtain rfl := hmatch hfalse
    obtain rfl := normalizeOptionalIdentifier_none hid
    obtain rfl := normalizeOptionalIdentifier_none hwho
    obtain rfl := normalizeOptionalIdentifier_none htime
    obtain rfl := Except.ok.inj hnote
    rfl
  dsimp only
  rw [require_true hnormalized]
  exact checks_ok _

/-- What the runtime attaches to an action that is not due. -/
structure Attached (services : CockpitServices) (correlationId : Option String)
    (action shown : AdvisoryActionItem) : Prop where
  same : shown = { action with
    slaAgeBand := .notApplicable
    acknowledgementState := shown.acknowledgementState
    correlationId := shown.correlationId }
  correlation : shown.correlationId =
    if (presentKey correlationId).isSome ∧ action.correlationId = none then correlationId
    else action.correlationId
  acknowledgement : AcknowledgementSettled services shown.acknowledgementState

theorem checks_acknowledgedAction (acknowledgement : Option CockpitAcknowledgementRecord) :
    Checks (acknowledgedAction services action acknowledgement)
      (∀ record ∈ acknowledgement, record.actionItemVersion = action.actionItemVersion →
        AcknowledgementAcceptable services record) := by
  cases acknowledgement with
  | none => exact (checks_ok action).congr (by simp)
  | some record =>
    simp only [Option.mem_def, Option.some.injEq, forall_eq']
    by_cases hversion : record.actionItemVersion = action.actionItemVersion
    · rw [acknowledgedAction, if_pos hversion]
      exact ((checks_acknowledgementState record).map _).congr (by simp [hversion])
    · rw [acknowledgedAction, if_neg hversion]
      exact (checks_ok action).congr (by simp [hversion])

theorem deriveCockpitSlaAgeBand_none (hdue : action.dueAt = none) :
    deriveCockpitSlaAgeBand services action.dueAt now = .ok .notApplicable := by
  rw [hdue]
  rfl

theorem checks_attachRuntimeState
    {acknowledgements : String → Option CockpitAcknowledgementRecord}
    (hdue : action.dueAt = none) :
    Checks (attachRuntimeState services correlationId now acknowledgements action)
      (∀ record ∈ acknowledgements action.actionItemId,
        record.actionItemVersion = action.actionItemVersion →
          AcknowledgementAcceptable services record) := by
  rw [attachRuntimeState, deriveCockpitSlaAgeBand_none hdue]
  exact ((checks_acknowledgedAction _).bind fun _ _ => checks_ok _).congr (iff_of_eq (and_true _))

/-- An acknowledged action differs in its acknowledgement only. -/
theorem acknowledgedAction_eq_ok {acknowledgement : Option CockpitAcknowledgementRecord}
    (h : acknowledgedAction services action acknowledgement = .ok shown)
    (hnone : action.acknowledgementState = { acknowledged := false }) :
    shown = { action with acknowledgementState := shown.acknowledgementState } ∧
      AcknowledgementSettled services shown.acknowledgementState := by
  have hsame : shown = action → shown = { action with
      acknowledgementState := shown.acknowledgementState } ∧
        AcknowledgementSettled services shown.acknowledgementState := by
    rintro rfl
    refine ⟨rfl, ?_⟩
    rw [hnone]
    exact acknowledgementSettled_none
  cases acknowledgement with
  | none => exact hsame (Except.ok.inj h).symm
  | some record =>
    by_cases hversion : record.actionItemVersion = action.actionItemVersion
    · rw [acknowledgedAction, if_pos hversion] at h
      obtain ⟨state, hstate, rfl⟩ := map_eq_ok.mp h
      exact ⟨rfl, acknowledgementSettled_of_state hstate⟩
    · rw [acknowledgedAction, if_neg hversion] at h
      exact hsame (Except.ok.inj h).symm

theorem attached_of_attachRuntimeState
    {acknowledgements : String → Option CockpitAcknowledgementRecord}
    (hdue : action.dueAt = none) (hnone : action.acknowledgementState = { acknowledged := false })
    (h : attachRuntimeState services correlationId now acknowledgements action = .ok shown) :
    Attached services correlationId action shown := by
  rw [attachRuntimeState, deriveCockpitSlaAgeBand_none hdue] at h
  obtain ⟨slaAgeBand, hsla, h⟩ := bind_eq_ok.mp h
  obtain rfl := Except.ok.inj hsla
  obtain ⟨acknowledged, hack, h⟩ := bind_eq_ok.mp h
  obtain rfl := Except.ok.inj h
  obtain ⟨hsame, hsettled⟩ := acknowledgedAction_eq_ok hack hnone
  rw [hsame]
  unfold correlatedAction
  split
  · next hcorrelated => exact ⟨rfl, (if_pos hcorrelated).symm, hsettled⟩
  · next hcorrelated => exact ⟨rfl, (if_neg hcorrelated).symm, hsettled⟩

theorem checks_revalidated (hack : AcknowledgementSettled services action.acknowledgementState)
    (hrefs : ReferencesSettled services action.evidenceRefs action.sourceReadinessGaps
      action.dependencyReadiness action.lineageRefs) :
    Checks (action.revalidated services)
      ((∀ id ∈ action.correlationId, id.toList.length ≤ cockpitIdentifierMaxLength) ∧
        action.texts.Acceptable services) := by
  refine Checks.congr ((checks_require rfl).bind fun _ _ =>
    (checks_mapM fun ref _ => ref.checks_validated).bind fun _ _ =>
    (checks_mapM fun gap _ => gap.checks_validated).bind fun _ _ =>
    (checks_mapM fun readiness _ => readiness.checks_validated).bind fun _ _ =>
    (checks_mapM fun ref _ => ref.checks_validated).bind fun _ _ =>
    hack.checks.bind fun _ _ => (checks_validated _).congr (Q := action.texts.Acceptable services)
      Iff.rfl) ?_
  constructor
  · rintro ⟨hlength, -, -, -, -, -, htexts⟩
    exact ⟨hlength, htexts⟩
  · rintro ⟨hlength, htexts⟩
    exact ⟨hlength, hrefs.evidence, hrefs.gaps, hrefs.readiness, hrefs.lineage, trivial, htexts⟩

/-- The correlation identifier of a request passes as the one of an action. -/
def CorrelationAcceptable (services : CockpitServices) (correlationId : Option String) : Prop :=
  ∀ id ∈ presentKey correlationId, id.toList.length ≤ cockpitIdentifierMaxLength ∧
    AcceptableOptional services cockpitIdentifierMaxLength (some id)

instance : Decidable (CorrelationAcceptable services correlationId) := by
  unfold CorrelationAcceptable
  infer_instance

/-- A text in its normal form is as long as the validators allow. -/
theorem length_of_acceptableOptional {value : Option String}
    (h : AcceptableOptional services cockpitIdentifierMaxLength (value.bind nonBlankText)) :
    ∀ id ∈ value.bind nonBlankText, id.toList.length ≤ cockpitIdentifierMaxLength := by
  intro id hid
  have haccepted := h id (by rw [bind_nonBlankText_idem]; exact hid)
  obtain ⟨raw, -, hraw⟩ := Option.bind_eq_some_iff.mp hid
  rw [← normalizedText_nonBlankText hraw]
  exact haccepted.2.1

theorem acceptable_texts_correlation (h : action.texts.Acceptable services)
    (slaAgeBand : AdvisorCockpitSlaAgeBand) (acknowledgementState : CockpitAcknowledgementState)
    (correlationId : Option String) :
    ({ action with slaAgeBand, acknowledgementState, correlationId } :
      AdvisoryActionItem).texts.Acceptable services ↔
      AcceptableOptional services cockpitIdentifierMaxLength correlationId := by
  simp only [AdvisoryActionItem.texts, acceptable_mk, List.forall_mem_append,
    List.forall_mem_cons, List.not_mem_nil, false_implies, implies_true, and_true] at h ⊢
  obtain ⟨hrequired, h1, h2, h3, h4, h5, h6, h7, h8, h9, h10, h11, -⟩ := h
  exact ⟨fun hshown => hshown.2.2.2.2.2.2.2.2.2.2.2.2,
    fun hcorrelation => ⟨hrequired, h1, h2, h3, h4, h5, h6, h7, h8, h9, h10, h11, hcorrelation⟩⟩

/-- Of what the runtime attaches, only the correlation identifier can fail in the snapshot. -/
theorem Attached.checks {own : Option String} (h : Attached services correlationId action shown)
    (hsettled : Settled services action) (hown : action.correlationId = own.bind nonBlankText) :
    Checks (shown.revalidated services)
      (action.correlationId = none → CorrelationAcceptable services correlationId) := by
  have hrefs : ReferencesSettled services shown.evidenceRefs shown.sourceReadinessGaps
      shown.dependencyReadiness shown.lineageRefs := by
    rw [h.same]
    exact hsettled.references
  have htexts : shown.texts.Acceptable services ↔
      AcceptableOptional services cockpitIdentifierMaxLength shown.correlationId := by
    have hwith := acceptable_texts_correlation hsettled.texts .notApplicable
      shown.acknowledgementState shown.correlationId
    rwa [← h.same] at hwith
  refine (checks_revalidated h.acknowledgement hrefs).congr ?_
  rw [htexts, h.correlation]
  cases hcase : action.correlationId with
  | some id =>
    have haccepted := (acceptable_texts_correlation hsettled.texts action.slaAgeBand
      action.acknowledgementState action.correlationId).mp hsettled.texts
    rw [if_neg (by simp)]
    refine iff_of_true ⟨?_, hcase ▸ haccepted⟩ nofun
    rw [hown] at hcase haccepted
    rw [← hcase]
    exact length_of_acceptableOptional haccepted
  | none =>
    cases hpresent : presentKey correlationId with
    | none => simp [CorrelationAcceptable, hpresent]
    | some id =>
      obtain ⟨rfl, -⟩ := Option.filter_eq_some_iff.mp hpresent
      simp [CorrelationAcceptable, hpresent]

end Runtime

end LotusAdvise.AdvisorCockpit

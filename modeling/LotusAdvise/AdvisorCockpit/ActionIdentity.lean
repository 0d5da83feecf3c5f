import LotusAdvise.AdvisorCockpit.ActionItems

/-! # The identity of action items

Items of different families never share an identifier, because no family's mark is a prefix
of another's. Within a family two items share one exactly when the identifiers of their
sources have the same words, or are too long and are shortened to the same text.
-/

namespace LotusAdvise.AdvisorCockpit

open Proposals Words

def AdvisorCockpitActionFamily.families : List AdvisorCockpitActionFamily :=
  [.clientMeetingPreparation, .proposalReadyForReview, .proposalBlockedBySourceGap,
    .policyReviewRequired, .approvalDependencyAging, .clientConsentRequired, .memoPackageBlocked,
    .reportRenderArchiveBlocked, .executionHandoffReady, .executionStatusAttention,
    .houseViewImpactReview, .workspaceDraftStale, .clientFollowUpRequired,
    .supportabilityDegraded, .unsupportedCapability]

theorem AdvisorCockpitActionFamily.mem_families (family : AdvisorCockpitActionFamily) :
    family ∈ families := by
  cases family <;> decide

section Identifiers

variable (services : CockpitServices) {family other : AdvisorCockpitActionFamily}
  {source source' : String}

/-- How the identifiers of a family start. -/
def AdvisorCockpitActionFamily.mark (family : AdvisorCockpitActionFamily) : List Char :=
  "aci_".toList ++ family.lowerText.toList ++ ['_']

/-- The identifier of an action before it is bounded. -/
def actionIdText (family : AdvisorCockpitActionFamily) (source : String) : List Char :=
  family.mark ++ joined '_' (identifierWords services source)

/-- The identifier of an action is too long to be shown in full. -/
def Overlong (family : AdvisorCockpitActionFamily) (source : String) : Prop :=
  cockpitIdentifierMaxLength < (actionIdText services family source).length

instance (family : AdvisorCockpitActionFamily) (source : String) :
    Decidable (Overlong services family source) := by
  unfold Overlong
  infer_instance

/-- The identifiers of two sources have the same words, or are shortened to the same text. -/
def Alike (family : AdvisorCockpitActionFamily) (source source' : String) : Prop :=
  identifierWords services source = identifierWords services source' ∨
    (Overlong services family source ∨ Overlong services family source') ∧
      boundedText services (actionIdText services family source) =
        boundedText services (actionIdText services family source')

instance (family : AdvisorCockpitActionFamily) (source source' : String) :
    Decidable (Alike services family source source') := by
  unfold Alike
  infer_instance

theorem AdvisorCockpitActionFamily.mark_prefix (h : family.mark <+: other.mark) :
    family = other := by
  have hfree : ∀ family ∈ families, ∀ other ∈ families,
      family.mark <+: other.mark → family = other := by decide +kernel
  exact hfree family family.mem_families other other.mem_families h

theorem AdvisorCockpitActionFamily.mark_plain {c : Char} (h : c ∈ family.mark) :
    Text.isSpace c = false := by
  have hplain : (families.all fun family => family.mark.all fun c => !Text.isSpace c) = true := by
    decide +kernel
  simp only [List.all_eq_true, Bool.not_eq_true'] at hplain
  exact hplain family family.mem_families c h

theorem AdvisorCockpitActionFamily.mark_length (family : AdvisorCockpitActionFamily) :
    family.mark.length < cockpitIdentifierMaxLength - referenceDigestLength - 1 := by
  have hshort : ∀ family ∈ families,
      family.mark.length < cockpitIdentifierMaxLength - referenceDigestLength - 1 := by
    decide +kernel
  exact hshort family family.mem_families

theorem normalizeActionIdentifier_family (family : AdvisorCockpitActionFamily) :
    normalizeActionIdentifier services family.text = family.lowerText := by
  cases family <;> rfl

variable {services}

theorem actionIdText_plain {c : Char} (h : c ∈ actionIdText services family source) :
    Text.isSpace c = false := by
  rcases List.mem_append.mp h with h | h
  · exact AdvisorCockpitActionFamily.mark_plain h
  · rcases mem_joined h with rfl | ⟨w, hw, hc⟩
    · rfl
    · exact (mem_identifierWords hw).2.2 c hc

theorem hexdigest_plain {value : List Char} {c : Char} (h : c ∈ hexdigest services value) :
    Text.isSpace c = false := by
  obtain ⟨digit, -, rfl⟩ := List.mem_map.mp h
  exact hexDigit_isSpace digit

theorem boundedText_plain {value : List Char} (h : ∀ c ∈ value, Text.isSpace c = false) :
    ∀ c ∈ boundedText services value, Text.isSpace c = false := by
  unfold boundedText
  split
  · exact h
  · intro c hc
    rcases List.mem_append.mp hc with hc | hc
    · exact h c (List.mem_of_mem_take ((List.rdropWhile_prefix _ _).subset hc))
    · rcases List.mem_cons.mp hc with rfl | hc
      · rfl
      · exact hexdigest_plain (List.mem_of_mem_take hc)

theorem buildActionItemId_eq : buildActionItemId services family.text source =
    String.ofList (boundedText services (actionIdText services family source)) := by
  have htext : ("aci_" ++ normalizeActionIdentifier services family.text ++ "_" ++
      normalizeActionIdentifier services source).toList = actionIdText services family source := by
    rw [normalizeActionIdentifier_family, String.toList_append, String.toList_append,
      String.toList_append, actionIdText, AdvisorCockpitActionFamily.mark,
      normalizeActionIdentifier, show "_".toList = ['_'] from rfl]
    exact congrArg (_ ++ ·) String.toList_ofList
  rw [buildActionItemId, boundedReference, htext, collapsed_of_forall fun c => actionIdText_plain]

/-- The validators leave the identifier of an action as it is. -/
theorem normalizedText_buildActionItemId :
    normalizedText (buildActionItemId services family.text source) =
      buildActionItemId services family.text source := by
  rw [buildActionItemId_eq, normalizedText, String.toList_ofList,
    collapsed_of_forall (boundedText_plain fun c => actionIdText_plain)]

/-- What stays of a text when underscores are stripped from its end, up to another character. -/
theorem rdropWhile_append_of_exists {α : Type*} {p : α → Bool} {xs ys : List α}
    (h : ∃ y ∈ ys, p y = false) : (xs ++ ys).rdropWhile p = xs ++ ys.rdropWhile p := by
  have hne : ys.reverse.dropWhile p ≠ [] := by
    intro hnil
    obtain ⟨y, hy, hfalse⟩ := h
    have htrue := List.dropWhile_eq_nil_iff.mp hnil y (List.mem_reverse.mpr hy)
    rw [hfalse] at htrue
    cases htrue
  rw [List.rdropWhile, List.reverse_append, List.dropWhile_append, if_neg (by simpa using hne),
    List.reverse_append, List.reverse_reverse, List.rdropWhile]

/-- A bounded identifier starts with the mark of its family. -/
theorem mark_prefix_boundedText (services : CockpitServices) (family : AdvisorCockpitActionFamily)
    (source : String) :
    family.mark <+: boundedText services (actionIdText services family source) := by
  unfold boundedText
  split
  · exact List.prefix_append _ _
  · next hlong =>
    have hmark := family.mark_length
    rw [actionIdText, List.length_append] at hlong
    -- something follows the mark, and it does not start with an underscore
    obtain ⟨c, rest, hrest⟩ :
        ∃ c rest, joined '_' (identifierWords services source) = c :: rest := by
      refine List.exists_cons_of_ne_nil fun hnil => ?_
      rw [hnil, List.length_nil] at hlong
      omega
    have hc : c ≠ '_' := by
      obtain ⟨w, hw, hmem⟩ := head?_joined (x := c) '_'
        (fun w hw => (mem_identifierWords hw).1) (by rw [hrest, List.head?_cons])
      rintro rfl
      exact (mem_identifierWords hw).2.1 hmem
    obtain ⟨room, hroom⟩ := Nat.exists_eq_add_of_lt hmark
    rw [shortened, actionIdText, hrest, hroom, List.take_append, List.take_of_length_le (by omega),
      show family.mark.length + room + 1 - family.mark.length = room + 1 by omega,
      List.take_succ_cons, rdropWhile_append_of_exists ⟨c, List.mem_cons_self, by simpa using hc⟩,
      List.append_assoc]
    exact List.prefix_append _ _

/-- Actions of different families have different identifiers. -/
theorem family_eq_of_buildActionItemId
    (h : buildActionItemId services family.text source =
      buildActionItemId services other.text source') : family = other := by
  rw [buildActionItemId_eq, buildActionItemId_eq] at h
  have htext := String.ofList_injective h
  have hfamily := mark_prefix_boundedText services family source
  have hother := mark_prefix_boundedText services other source'
  rw [htext] at hfamily
  rcases List.prefix_or_prefix_of_prefix hfamily hother with hprefix | hprefix
  · exact AdvisorCockpitActionFamily.mark_prefix hprefix
  · exact (AdvisorCockpitActionFamily.mark_prefix hprefix).symm

/-- Actions of one family share an identifier exactly when their sources are alike. -/
theorem buildActionItemId_eq_iff : buildActionItemId services family.text source =
    buildActionItemId services family.text source' ↔ Alike services family source source' := by
  rw [buildActionItemId_eq, buildActionItemId_eq, String.ofList_inj]
  constructor
  · intro h
    by_cases hlong : Overlong services family source ∨ Overlong services family source'
    · exact .inr ⟨hlong, h⟩
    · obtain ⟨hshort, hshort'⟩ := not_or.mp hlong
      rw [Overlong, not_lt] at hshort hshort'
      rw [boundedText, if_pos hshort, boundedText, if_pos hshort'] at h
      have hjoined := List.append_cancel_left h
      refine .inl (joined_injective (fun w hw => ?_) (fun w hw => ?_) hjoined)
      · exact ⟨(mem_identifierWords hw).1, (mem_identifierWords hw).2.1⟩
      · exact ⟨(mem_identifierWords hw).1, (mem_identifierWords hw).2.1⟩
  · rintro (h | h)
    · rw [actionIdText, h, actionIdText]
    · exact h.2

end Identifiers

section Builder

variable {services : CockpitServices}

theorem normalizeBounded_eq_ok {maxLength : ℕ} {fieldName value normalized : String}
    (h : normalizeBounded services maxLength fieldName value = .ok normalized) :
    normalized = normalizedText value := by
  simp only [normalizeBounded, bind_eq_ok] at h
  obtain ⟨_, _, _, _, _, _, h⟩ := h
  exact (Except.ok.inj h).symm

theorem normalizeIdentifierList_eq_ok {fieldName : String} {value normalized : List String}
    (h : normalizeIdentifierList services fieldName value = .ok normalized) :
    normalized = value.map normalizedText := by
  rw [normalizeIdentifierList] at h
  induction value generalizing normalized with
  | nil =>
    cases h
    rfl
  | cons text value ih =>
    rw [List.mapM_cons] at h
    obtain ⟨first, hfirst, h⟩ := bind_eq_ok.mp h
    obtain ⟨rest, hrest, h⟩ := bind_eq_ok.mp h
    cases h
    rw [List.map_cons, normalizeBounded_eq_ok hfirst, ih hrest]

theorem normalizeOptionalIdentifier_none {fieldName : String} {normalized : Option String}
    (h : normalizeOptionalIdentifier services fieldName none = .ok normalized) :
    normalized = none := (Except.ok.inj h).symm

/-- What an action keeps of the input that it was built from. -/
structure Builds (services : CockpitServices) (source : CockpitActionConstructionInput)
    (action : AdvisoryActionItem) : Prop where
  actionItemId : action.actionItemId =
    buildActionItemId services source.actionFamily.text source.sourceActionId
  actionItemVersion : action.actionItemVersion = 1
  actionFamily : action.actionFamily = source.actionFamily
  status : action.status = source.status
  ownerRole : action.ownerRole = source.ownerRole
  reasonCodes : action.reasonCodes = (uniqueOrdered source.reasonCodes).map normalizedText
  dueAt : source.dueAt = none → action.dueAt = none
  unacknowledged : action.acknowledgementState = { acknowledged := false }

/-- The identifier of an action passed the checks of a required identifier. -/
theorem builds_of_buildSourceBackedAction {source : CockpitActionConstructionInput}
    {action : AdvisoryActionItem} (h : buildSourceBackedAction services source = .ok action) :
    Builds services source action ∧
      normalizeRequiredIdentifier services "cockpit action reference" action.actionItemId =
        .ok action.actionItemId := by
  simp only [buildSourceBackedAction, AdvisoryActionItem.validated, bind_eq_ok] at h
  obtain ⟨_, _, lineage, _, actionItemId, hid, _, _, _, _, _, _, codes, hcodes, _, _, _, _, _, _,
    _, _, _, _, _, _, _, _, _, _, _, _, dueAt, hdue, _, _, _, _, h⟩ := h
  obtain rfl := Except.ok.inj h
  have hsame : actionItemId =
      buildActionItemId services source.actionFamily.text source.sourceActionId := by
    rw [normalizeBounded_eq_ok hid, sourceActionItemId, normalizedText_buildActionItemId]
  refine ⟨⟨hsame, rfl, rfl, rfl, rfl, normalizeIdentifierList_eq_ok hcodes, fun hnone => ?_, rfl⟩,
    ?_⟩
  · rw [hnone] at hdue
    exact normalizeOptionalIdentifier_none hdue
  · rw [hsame]
    rw [hsame] at hid
    exact hid

end Builder

end LotusAdvise.AdvisorCockpit

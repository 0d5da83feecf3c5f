import LotusAdvise.AdvisoryCopilot.Records

/-! # Claim grounding

The claims of an output are held against the sources of the evidence packet. Of the raw output the
alignment reads the first section with each key, the first claims of a section that are objects, and
the first distinct references of a claim. What it does not read is not grounded by it.
-/

namespace LotusAdvise.AdvisoryCopilot

structure CopilotSourceRef where
  sourceSystem : String
  sourceType : String
  sourceId : String
  contentHash : Option String := none

structure CopilotEvidencePacketSection where
  sectionKey : String
  sourceRefs : List CopilotSourceRef

def copilotSourceRefIdentity (sourceRef : CopilotSourceRef) : String :=
  ":".intercalate [sourceRef.sourceSystem, sourceRef.sourceType, sourceRef.sourceId,
    (sourceRef.contentHash.filter fun hash => hash ≠ "").getD "no-content-hash"]

def copilotClaimLimitPerSection : ℕ := 8

def copilotClaimSourceRefLimit : ℕ := 8

def copilotClaimIdMaxLength : ℕ := 96

def copilotClaimTextMaxLength : ℕ := 1000

def copilotClaimReasonMaxLength : ℕ := 160

def copilotClaimSourceRefMaxLength : ℕ := 512

inductive GroundingStatus where
  | grounded
  | partlyGrounded
  | unsupported
  | unverifiable
deriving DecidableEq

def GroundingStatus.text : GroundingStatus → String
  | grounded => "GROUNDED"
  | partlyGrounded => "PARTIAL"
  | unsupported => "UNSUPPORTED"
  | unverifiable => "UNVERIFIABLE"

/-- What the alignment reports of a claim. -/
structure ClaimGrounding where
  claimId : String
  groundingStatus : GroundingStatus
  sourceRefs : List String
  claimText : Option String := none
  unsupportedReason : Option String := none
  unknownSourceRefs : List String := []
  sectionMismatchSourceRefs : List String := []
deriving DecidableEq

structure GroundedSection where
  /-- The items of the output section, with the new review state. -/
  items : JsonObject
  groundingStatus : GroundingStatus
  claimGrounding : List ClaimGrounding
deriving DecidableEq

structure GroundingSummary where
  groundingStatus : GroundingStatus
  readyForReview : Bool
  totalSections : ℕ
  totalClaims : ℕ
  groundedClaims : ℕ
  unsupportedClaims : ℕ
  unverifiableClaims : ℕ
  unknownSourceRefs : List String
deriving DecidableEq

section Texts

def objectOf? : Json → Option JsonObject
  | .obj items => some items
  | _ => none

/-- `_bounded_text`. -/
def boundedText (value : Json) (maxLength : ℕ) : Option String :=
  match value with
  | .str text =>
    let stripped := normalizeRecordText text
    if stripped = "" ∨ maxLength < stripped.length then none else some stripped
  | _ => none

def CopilotServices.text (services : CopilotServices) : Json → String
  | .str value => value
  | value => services.str value

variable (services : CopilotServices)

/-- `str(section.get("section_key") or "")`. -/
def outputSectionKey (outputSection : JsonObject) : String :=
  let value := JsonObject.get outputSection "section_key"
  if value.truthy then services.text value else ""

/-- The key of a raw section, which is not blank. -/
def rawSectionKey (rawSection : JsonObject) : Option String :=
  boundedText (JsonObject.get rawSection "section_key") copilotClaimIdMaxLength

/-- A raw section is indexed under its key, unless another one is. -/
def indexRawSection (indexed : Dict String JsonObject) (rawSection : JsonObject) :
    Dict String JsonObject :=
  match rawSectionKey rawSection with
  | none => indexed
  | some key =>
    if (Dict.get? indexed key).isSome then indexed else Dict.set indexed key rawSection

def rawSectionIndex (rawSections : Json) : Dict String JsonObject :=
  match rawSections with
  | .arr items => (items.filterMap objectOf?).foldl indexRawSection []
  | _ => []

end Texts

section References

variable (services : CopilotServices)

/-- The references that are kept: the first distinct ones that are neither blank nor too long. -/
def keepSourceRefs : List String → List Json → List String
  | refs, [] => refs
  | refs, item :: items =>
    match boundedText (.str (services.text item)) copilotClaimSourceRefMaxLength with
    | none => keepSourceRefs refs items
    | some ref =>
      if ref ∈ refs then keepSourceRefs refs items
      else if copilotClaimSourceRefLimit ≤ (refs ++ [ref]).length then refs ++ [ref]
      else keepSourceRefs (refs ++ [ref]) items

def boundedSourceRefs (value : Json) : List String :=
  match value with
  | .arr items => keepSourceRefs services [] items
  | _ => []

variable (sections : List CopilotEvidencePacketSection)

def packetRefs : List String :=
  sections.flatMap fun packetSection => packetSection.sourceRefs.map copilotSourceRefIdentity

/-- Of several packet sections with one key, the last one counts. -/
def sectionRefs (sectionKey : String) : List String :=
  (Dict.get? (Dict.ofItems (sections.map fun packetSection =>
    (packetSection.sectionKey, packetSection.sourceRefs.map copilotSourceRefIdentity)))
      sectionKey).getD []

end References

section Claims

variable (services : CopilotServices) (sections : List CopilotEvidencePacketSection)
  (sectionKey : String)

def rawClaims (rawSection : JsonObject) : List JsonObject :=
  match JsonObject.get rawSection "claims" with
  | .arr claims => claims.filterMap objectOf?
  | _ =>
    match JsonObject.get rawSection "source_refs" with
    | .arr refs => [[("claim_id", .str sectionKey),
        ("claim_text", JsonObject.get rawSection "text"), ("source_refs", .arr refs)]]
    | _ => []

def claimIdOr (claim : JsonObject) : String :=
  match boundedText (JsonObject.get claim "claim_id") copilotClaimIdMaxLength with
  | some candidate => candidate
  | none => if sectionKey = "" then "section" else sectionKey

def claimStatus (sourceRefs : List String) (unsupportedReason : Option String) (duplicate : Bool)
    (unknownRefs sectionMismatchRefs : List String) : GroundingStatus × Option String :=
  if duplicate then (.unverifiable, some "COPILOT_CLAIM_ID_DUPLICATE")
  else if unknownRefs ≠ [] then (.unverifiable, some "COPILOT_CLAIM_SOURCE_REF_UNKNOWN")
  else if sectionMismatchRefs ≠ [] then
    (.unverifiable, some "COPILOT_CLAIM_SOURCE_REF_SECTION_MISMATCH")
  else if sourceRefs ≠ [] then (.grounded, none)
  else
    match unsupportedReason with
    | some reason => (.unsupported, some reason)
    | none => (.unsupported, some "COPILOT_CLAIM_SOURCE_REFS_MISSING")

def groundClaim (seenClaimIds : List String) (claim : JsonObject) : ClaimGrounding :=
  let claimId := claimIdOr sectionKey claim
  let text := JsonObject.get claim "claim_text"
  let sourceRefs := boundedSourceRefs services (JsonObject.get claim "source_refs")
  let unknownRefs := sourceRefs.filter fun ref => ref ∉ packetRefs sections
  let sectionMismatchRefs := sourceRefs.filter fun ref =>
    ref ∈ packetRefs sections ∧ ref ∉ sectionRefs sections sectionKey
  let status := claimStatus sourceRefs
    (boundedText (JsonObject.get claim "unsupported_reason") copilotClaimReasonMaxLength)
    (claimId ∈ seenClaimIds) unknownRefs sectionMismatchRefs
  { claimId
    groundingStatus := status.1
    sourceRefs
    claimText := boundedText (if text.truthy then text else JsonObject.get claim "text")
      copilotClaimTextMaxLength
    unsupportedReason := status.2
    unknownSourceRefs := unknownRefs
    sectionMismatchSourceRefs := sectionMismatchRefs }

/-- The claims, grounded one after the other: each identifier is seen by the later ones. -/
def groundClaims : List String → List JsonObject → List ClaimGrounding × List String
  | seenClaimIds, [] => ([], seenClaimIds)
  | seenClaimIds, claim :: claims =>
    let rest := groundClaims (claimIdOr sectionKey claim :: seenClaimIds) claims
    (groundClaim services sections sectionKey seenClaimIds claim :: rest.1, rest.2)

def claimGroundingForSection (seenClaimIds : List String) (rawSection : JsonObject) :
    List ClaimGrounding × List String :=
  let claims := rawClaims sectionKey rawSection
  if claims = [] then
    ([{ claimId := if sectionKey = "" then "section" else sectionKey
        groundingStatus := .unsupported
        sourceRefs := []
        unsupportedReason := some "COPILOT_CLAIM_REFS_MISSING" }], seenClaimIds)
  else groundClaims services sections sectionKey seenClaimIds
    (claims.take copilotClaimLimitPerSection)

end Claims

section Alignment

variable (services : CopilotServices) (sections : List CopilotEvidencePacketSection)

def sectionGroundingStatus (claimGrounding : List ClaimGrounding) : GroundingStatus :=
  let statuses := claimGrounding.map ClaimGrounding.groundingStatus
  if statuses ≠ [] ∧ ∀ status ∈ statuses, status = .grounded then .grounded
  else if .grounded ∈ statuses then .partlyGrounded
  else if .unverifiable ∈ statuses then .unverifiable
  else .unsupported

def countClaims (claimGrounding : List ClaimGrounding) (status : GroundingStatus) : ℕ :=
  (claimGrounding.filter fun claim => claim.groundingStatus = status).length

def groundedSection (outputSection : JsonObject) (claimGrounding : List ClaimGrounding) :
    GroundedSection :=
  let status := sectionGroundingStatus claimGrounding
  { items :=
      if status = .grounded then outputSection
      else JsonObject.set outputSection "review_state" (.str "UNSUPPORTED")
    groundingStatus := status
    claimGrounding }

def alignSections (rawSectionByKey : Dict String JsonObject) :
    List String → List JsonObject → List GroundedSection
  | _, [] => []
  | seenClaimIds, outputSection :: outputSections =>
    let sectionKey := outputSectionKey services outputSection
    let rawSection := (Dict.get? rawSectionByKey sectionKey).getD []
    let grounding :=
      claimGroundingForSection services sections sectionKey seenClaimIds rawSection
    groundedSection outputSection grounding.1 ::
      alignSections rawSectionByKey grounding.2 outputSections

/-- The claims of all sections, in their order. -/
def claimsOf (groundedSections : List GroundedSection) : List ClaimGrounding :=
  groundedSections.flatMap GroundedSection.claimGrounding

def alignCopilotOutputClaimsToEvidence (rawSections : Json) (outputSections : List JsonObject) :
    List GroundedSection × GroundingSummary :=
  let groundedSections :=
    alignSections services sections (rawSectionIndex rawSections) [] outputSections
  let claims := claimsOf groundedSections
  let readyForReview : Bool := outputSections ≠ [] ∧ 0 < claims.length ∧
    claims.length = countClaims claims .grounded
  (groundedSections,
    { groundingStatus := if readyForReview then .grounded else .unsupported
      readyForReview
      totalSections := outputSections.length
      totalClaims := claims.length
      groundedClaims := countClaims claims .grounded
      unsupportedClaims := countClaims claims .unsupported
      unverifiableClaims := countClaims claims .unverifiable
      unknownSourceRefs := (claims.flatMap ClaimGrounding.unknownSourceRefs).dedup.insertionSort
        fun a b => a ≤ b })

end Alignment

section Grounded

variable (services : CopilotServices) (sections : List CopilotEvidencePacketSection)
  (sectionKey : String)

/-- The reference is the identity of a source of the packet section with the key. -/
def Identifies (ref : Json) : Prop :=
  ∃ packetSection ∈ sections, packetSection.sectionKey = sectionKey ∧
    normalizeRecordText (services.text ref) ∈ packetSection.sourceRefs.map copilotSourceRefIdentity

/-- The references that a claim cites. -/
def claimRefs (claim : JsonObject) : List Json :=
  match JsonObject.get claim "source_refs" with
  | .arr items => items
  | _ => []

/-- The elements of the claims of a raw section. -/
def claimElements (rawSection : JsonObject) : List Json :=
  match JsonObject.get rawSection "claims" with
  | .arr claims => claims
  | _ => []

/-- An element is an object that cites sources, all of them of the packet section. -/
def ElementGrounded (element : Json) : Prop :=
  ∃ claim, element = .obj claim ∧ claimRefs claim ≠ [] ∧
    ∀ ref ∈ claimRefs claim, Identifies services sections sectionKey ref

def rawSectionsWith (rawSections : Json) : List JsonObject :=
  match rawSections with
  | .arr items => (items.filterMap objectOf?).filter fun rawSection =>
      rawSectionKey rawSection = some sectionKey
  | _ => []

/-- The claims of a raw section that are objects. -/
def claimObjects (rawSection : JsonObject) : List JsonObject :=
  (claimElements rawSection).filterMap objectOf?

end Grounded

section Soundness

variable (services : CopilotServices) (sections : List CopilotEvidencePacketSection)
  (rawSections : Json) (outputSections : List JsonObject)

/-- Every claim of the raw output is grounded, and no two claims of the output have one
identifier. -/
structure OutputGrounded : Prop where
  claims : ∀ outputSection ∈ outputSections,
    ∀ rawSection ∈ rawSectionsWith (outputSectionKey services outputSection) rawSections,
      ∀ element ∈ claimElements rawSection,
        ElementGrounded services sections (outputSectionKey services outputSection) element
  claimIds : ((claimsOf (alignCopilotOutputClaimsToEvidence services sections rawSections
    outputSections).1).map ClaimGrounding.claimId).Nodup

/-- What the alignment does not read is grounded: the claims of later raw sections with a key, those
after the limit, and the references that are not kept. All elements are objects. -/
structure UnreadGrounded : Prop where
  laterSections : ∀ outputSection ∈ outputSections,
    ∀ rawSection ∈ (rawSectionsWith (outputSectionKey services outputSection) rawSections).tail,
      ∀ element ∈ claimElements rawSection,
        ElementGrounded services sections (outputSectionKey services outputSection) element
  objects : ∀ outputSection ∈ outputSections,
    ∀ rawSection ∈ (rawSectionsWith (outputSectionKey services outputSection) rawSections).head?,
      ∀ element ∈ claimElements rawSection, (objectOf? element).isSome
  laterClaims : ∀ outputSection ∈ outputSections,
    ∀ rawSection ∈ (rawSectionsWith (outputSectionKey services outputSection) rawSections).head?,
      ∀ claim ∈ (claimObjects rawSection).drop copilotClaimLimitPerSection,
        ElementGrounded services sections (outputSectionKey services outputSection) (.obj claim)
  references : ∀ outputSection ∈ outputSections,
    ∀ rawSection ∈ (rawSectionsWith (outputSectionKey services outputSection) rawSections).head?,
      ∀ claim ∈ (claimObjects rawSection).take copilotClaimLimitPerSection,
        ∀ ref ∈ claimRefs claim,
          normalizeRecordText (services.text ref) ∉
              boundedSourceRefs services (JsonObject.get claim "source_refs") →
            Identifies services sections (outputSectionKey services outputSection) ref

end Soundness

section Reading

variable {services : CopilotServices} {sections : List CopilotEvidencePacketSection}
  {sectionKey : String} {rawSections : Json} {rawSection : JsonObject} {claim : JsonObject}

theorem objectOf?_eq_some {element : Json} :
    objectOf? element = some claim ↔ element = .obj claim := by
  cases element <;> simp [objectOf?]

theorem get?_indexRawSection (indexed : Dict String JsonObject) :
    Dict.get? (indexRawSection indexed rawSection) sectionKey =
      (Dict.get? indexed sectionKey).or
        (if rawSectionKey rawSection = some sectionKey then some rawSection else none) := by
  unfold indexRawSection
  cases hkey : rawSectionKey rawSection with
  | none => simp
  | some key =>
    dsimp only
    by_cases hsame : key = sectionKey
    · subst hsame
      cases hfound : Dict.get? indexed key <;> simp [hfound]
    · have hother : some key ≠ some sectionKey := fun h => hsame (Option.some.inj h)
      rw [if_neg hother, Option.or_none]
      split
      · rfl
      · exact Dict.get?_set_of_ne hsame

theorem get?_foldl_indexRawSection (items : List JsonObject) (indexed : Dict String JsonObject) :
    Dict.get? (items.foldl indexRawSection indexed) sectionKey =
      (Dict.get? indexed sectionKey).or
        (items.filter fun rawSection => rawSectionKey rawSection = some sectionKey).head? := by
  induction items generalizing indexed with
  | nil => simp
  | cons rawSection items ih =>
    rw [List.foldl_cons, ih, get?_indexRawSection, Option.or_assoc]
    congr 1
    by_cases hkey : rawSectionKey rawSection = some sectionKey
    · rw [if_pos hkey, List.filter_cons_of_pos (by simpa using hkey)]
      rfl
    · rw [if_neg hkey, List.filter_cons_of_neg (by simpa using hkey), Option.none_or]

/-- The first raw section with a key is indexed. -/
theorem get?_rawSectionIndex :
    Dict.get? (rawSectionIndex rawSections) sectionKey =
      (rawSectionsWith sectionKey rawSections).head? := by
  unfold rawSectionIndex rawSectionsWith
  cases rawSections with
  | arr items =>
    exact get?_foldl_indexRawSection _ _
  | _ => rfl

/-- The references of a claim that are kept are those of the packet section. -/
structure RefsFound (services : CopilotServices) (sections : List CopilotEvidencePacketSection)
    (sectionKey : String) (claim : JsonObject) : Prop where
  cited : boundedSourceRefs services (JsonObject.get claim "source_refs") ≠ []
  found : ∀ ref ∈ boundedSourceRefs services (JsonObject.get claim "source_refs"),
    ref ∈ sectionRefs sections sectionKey

theorem refsFound_of_grounded {seenClaimIds : List String}
    (h : (groundClaim services sections sectionKey seenClaimIds claim).groundingStatus =
      .grounded) :
    claimIdOr sectionKey claim ∉ seenClaimIds ∧ RefsFound services sections sectionKey claim := by
  unfold groundClaim claimStatus at h
  dsimp only at h
  by_cases hseen : claimIdOr sectionKey claim ∈ seenClaimIds
  · simp [hseen] at h
  · refine ⟨hseen, ?_⟩
    rw [decide_eq_false hseen] at h
    split at h
    · contradiction
    · split at h
      · cases h
      · next hunknown =>
        split at h
        · cases h
        · next hmismatch =>
          split at h
          · next hcited =>
            refine ⟨hcited, fun ref href => ?_⟩
            rw [not_not, List.filter_eq_nil_iff] at hunknown hmismatch
            have hpacket := hunknown ref href
            have hsection := hmismatch ref href
            simp only [decide_eq_true_eq, not_not, not_and] at hpacket hsection
            exact hsection hpacket
          · split at h <;> cases h

/-- Claims that are all grounded have distinct identifiers, which no earlier claim has. -/
theorem groundClaims_spec {seenClaimIds : List String} {claims : List JsonObject}
    (h : ∀ grounding ∈ (groundClaims services sections sectionKey seenClaimIds claims).1,
      grounding.groundingStatus = .grounded) :
    ((groundClaims services sections sectionKey seenClaimIds claims).1.map
        ClaimGrounding.claimId).Nodup ∧
      (∀ claimId ∈ (groundClaims services sections sectionKey seenClaimIds claims).1.map
        ClaimGrounding.claimId, claimId ∉ seenClaimIds) ∧
      (∀ claimId, claimId ∈ (groundClaims services sections sectionKey seenClaimIds claims).2 ↔
        claimId ∈ seenClaimIds ∨ claimId ∈ (groundClaims services sections sectionKey seenClaimIds
          claims).1.map ClaimGrounding.claimId) ∧
      ∀ claim ∈ claims, RefsFound services sections sectionKey claim := by
  induction claims generalizing seenClaimIds with
  | nil => simp [groundClaims]
  | cons claim claims ih =>
    rw [groundClaims] at h ⊢
    rw [List.forall_mem_cons] at h
    obtain ⟨hfresh, hrefs⟩ := refsFound_of_grounded h.1
    obtain ⟨hnodup, hnew, hseen, hrest⟩ := ih h.2
    refine ⟨?_, ?_, ?_, ?_⟩
    · rw [List.map_cons, List.nodup_cons]
      refine ⟨fun hmem => ?_, hnodup⟩
      exact hnew _ hmem List.mem_cons_self
    · rw [List.map_cons, List.forall_mem_cons]
      refine ⟨hfresh, fun claimId hclaimId hmem => ?_⟩
      exact hnew claimId hclaimId (List.mem_cons_of_mem _ hmem)
    · intro claimId
      have hid : (groundClaim services sections sectionKey seenClaimIds claim).claimId =
          claimIdOr sectionKey claim := rfl
      rw [hseen claimId, List.map_cons, List.mem_cons, List.mem_cons, hid]
      tauto
    · rw [List.forall_mem_cons]
      exact ⟨hrefs, hrest⟩

theorem claimGroundingForSection_spec {seenClaimIds : List String}
    (h : ∀ grounding ∈ (claimGroundingForSection services sections sectionKey seenClaimIds
      rawSection).1, grounding.groundingStatus = .grounded) :
    claimGroundingForSection services sections sectionKey seenClaimIds rawSection =
      groundClaims services sections sectionKey seenClaimIds
        ((rawClaims sectionKey rawSection).take copilotClaimLimitPerSection) := by
  unfold claimGroundingForSection at h ⊢
  dsimp only at h ⊢
  split
  · next hnone =>
    rw [if_pos hnone] at h
    exact absurd (h _ List.mem_cons_self) (by simp)
  · rfl

/-- The raw section that is read for a key. -/
def readSection (rawSectionByKey : Dict String JsonObject) (sectionKey : String) : JsonObject :=
  (Dict.get? rawSectionByKey sectionKey).getD []

/-- In sections whose claims are all grounded, the claims that are read cite what they may cite, and
no identifier is used twice. -/
theorem alignSections_spec {rawSectionByKey : Dict String JsonObject} {seenClaimIds : List String}
    {outputSections : List JsonObject}
    (h : ∀ grounding ∈ claimsOf (alignSections services sections rawSectionByKey seenClaimIds
      outputSections), grounding.groundingStatus = .grounded) :
    ((claimsOf (alignSections services sections rawSectionByKey seenClaimIds outputSections)).map
        ClaimGrounding.claimId).Nodup ∧
      (∀ claimId ∈ (claimsOf (alignSections services sections rawSectionByKey seenClaimIds
        outputSections)).map ClaimGrounding.claimId, claimId ∉ seenClaimIds) ∧
      ∀ outputSection ∈ outputSections,
        ∀ claim ∈ (rawClaims (outputSectionKey services outputSection) (readSection rawSectionByKey
            (outputSectionKey services outputSection))).take copilotClaimLimitPerSection,
          RefsFound services sections (outputSectionKey services outputSection) claim := by
  induction outputSections generalizing seenClaimIds with
  | nil => simp [alignSections, claimsOf]
  | cons outputSection outputSections ih =>
    set key := outputSectionKey services outputSection with hkey
    set grounding := claimGroundingForSection services sections key seenClaimIds
      (readSection rawSectionByKey key) with hgrounding
    have hclaims : claimsOf (alignSections services sections rawSectionByKey seenClaimIds
        (outputSection :: outputSections)) =
          grounding.1 ++ claimsOf (alignSections services sections rawSectionByKey grounding.2
            outputSections) := rfl
    rw [hclaims] at h ⊢
    rw [List.forall_mem_append] at h
    have hread := claimGroundingForSection_spec h.1
    have hfirst := h.1
    rw [hgrounding, hread] at hfirst
    obtain ⟨hnodup, hnew, hseen, hrefs⟩ := groundClaims_spec hfirst
    rw [← hread, ← hgrounding] at hnodup hnew hseen
    obtain ⟨hrestNodup, hrestNew, hrestRefs⟩ := ih h.2
    rw [List.map_append]
    refine ⟨?_, ?_, ?_⟩
    · rw [List.nodup_append']
      refine ⟨hnodup, hrestNodup, fun claimId hmem hrest => ?_⟩
      exact hrestNew claimId hrest ((hseen claimId).mpr (.inr hmem))
    · intro claimId hmem hold
      rcases List.mem_append.mp hmem with hmem | hmem
      · exact hnew claimId hmem hold
      · exact hrestNew claimId hmem ((hseen claimId).mpr (.inl hold))
    · rw [List.forall_mem_cons]
      exact ⟨hrefs, hrestRefs⟩

/-- An output that is ready for review has grounded claims only. -/
theorem grounded_of_readyForReview {outputSections : List JsonObject}
    (h : (alignCopilotOutputClaimsToEvidence services sections rawSections
      outputSections).2.readyForReview = true) :
    ∀ grounding ∈ claimsOf (alignSections services sections (rawSectionIndex rawSections) []
      outputSections), grounding.groundingStatus = .grounded := by
  unfold alignCopilotOutputClaimsToEvidence at h
  simp only [decide_eq_true_eq] at h
  obtain ⟨-, -, hcount⟩ := h
  intro grounding hmem
  have hall := List.length_filter_eq_length_iff.mp hcount.symm grounding hmem
  simpa using hall

theorem mem_claimObjects :
    claim ∈ claimObjects rawSection ↔ .obj claim ∈ claimElements rawSection := by
  simp [claimObjects, objectOf?_eq_some]

/-- A section with claims is read by its claims. -/
theorem rawClaims_of_mem (h : claim ∈ claimObjects rawSection) :
    rawClaims sectionKey rawSection = claimObjects rawSection := by
  unfold claimObjects claimElements at h
  unfold rawClaims claimObjects claimElements
  cases hclaims : JsonObject.get rawSection "claims" with
  | arr claims => rfl
  | _ =>
    rw [hclaims] at h
    simp at h

theorem claimRefs_ne_nil
    (h : boundedSourceRefs services (JsonObject.get claim "source_refs") ≠ []) :
    claimRefs claim ≠ [] := by
  intro hnil
  unfold claimRefs at hnil
  unfold boundedSourceRefs at h
  split at h
  · next items hitems =>
    rw [hitems] at hnil
    dsimp only at hnil
    rw [hnil] at h
    exact h rfl
  · exact h rfl

/-- The references of a packet section are identities of its sources. -/
theorem identifies_of_mem {ref : Json}
    (h : normalizeRecordText (services.text ref) ∈ sectionRefs sections sectionKey) :
    Identifies services sections sectionKey ref := by
  unfold sectionRefs at h
  rcases hfound : Dict.get? (Dict.ofItems (sections.map fun packetSection =>
    (packetSection.sectionKey, packetSection.sourceRefs.map copilotSourceRefIdentity)))
      sectionKey with _ | refs
  · rw [hfound] at h
    cases h
  · rw [hfound, Option.getD_some] at h
    obtain ⟨packetSection, hmem, heq⟩ :=
      List.mem_map.mp (Dict.mem_ofItems (Dict.mem_of_get? hfound))
    obtain ⟨hkey, rfl⟩ := Prod.mk.inj heq
    exact ⟨packetSection, hmem, hkey, h⟩

/-- A claim that is read is grounded if the references that are not kept are. -/
theorem RefsFound.elementGrounded (h : RefsFound services sections sectionKey claim)
    (hdropped : ∀ ref ∈ claimRefs claim,
      normalizeRecordText (services.text ref) ∉
          boundedSourceRefs services (JsonObject.get claim "source_refs") →
        Identifies services sections sectionKey ref) :
    ElementGrounded services sections sectionKey (.obj claim) := by
  refine ⟨claim, rfl, claimRefs_ne_nil h.cited, fun ref href => ?_⟩
  by_cases hkept : normalizeRecordText (services.text ref) ∈
      boundedSourceRefs services (JsonObject.get claim "source_refs")
  · exact identifies_of_mem (h.found _ hkept)
  · exact hdropped ref href hkept

end Reading

section Settling

variable {services : CopilotServices} {sections : List CopilotEvidencePacketSection}
  {rawSections : Json} {outputSections : List JsonObject}

theorem OutputGrounded.unread (h : OutputGrounded services sections rawSections outputSections) :
    UnreadGrounded services sections rawSections outputSections where
  laterSections outputSection houtput rawSection hraw :=
    h.claims outputSection houtput rawSection (List.mem_of_mem_tail hraw)
  objects outputSection houtput rawSection hraw element helement := by
    obtain ⟨claim, rfl, -⟩ := h.claims outputSection houtput rawSection
      (List.mem_of_mem_head? hraw) element helement
    rfl
  laterClaims outputSection houtput rawSection hraw claim hclaim :=
    h.claims outputSection houtput rawSection (List.mem_of_mem_head? hraw) _
      (mem_claimObjects.mp (List.mem_of_mem_drop hclaim))
  references outputSection houtput rawSection hraw claim hclaim ref href _ := by
    obtain ⟨cited, hcited, -, hfound⟩ := h.claims outputSection houtput rawSection
      (List.mem_of_mem_head? hraw) _ (mem_claimObjects.mp (List.mem_of_mem_take hclaim))
    cases hcited
    exact hfound ref href

theorem UnreadGrounded.output (h : UnreadGrounded services sections rawSections outputSections)
    (hready : (alignCopilotOutputClaimsToEvidence services sections rawSections
      outputSections).2.readyForReview = true) :
    OutputGrounded services sections rawSections outputSections := by
  obtain ⟨hnodup, -, hread⟩ := alignSections_spec (grounded_of_readyForReview hready)
  refine ⟨fun outputSection houtput rawSection hraw element helement => ?_, hnodup⟩
  set key := outputSectionKey services outputSection with hkey
  rcases hsections : rawSectionsWith key rawSections with _ | ⟨first, later⟩
  · rw [hsections] at hraw
    cases hraw
  · rw [hsections, List.mem_cons] at hraw
    rcases hraw with rfl | hlater
    · have hhead : rawSection ∈ (rawSectionsWith key rawSections).head? := by
        rw [hsections]
        rfl
      obtain ⟨claim, hclaim⟩ :=
        Option.isSome_iff_exists.mp
          (h.objects outputSection houtput rawSection hhead element helement)
      obtain rfl := objectOf?_eq_some.mp hclaim
      have hobject := mem_claimObjects.mpr helement
      have hsplit := hobject
      rw [← List.take_append_drop copilotClaimLimitPerSection (claimObjects rawSection),
        List.mem_append] at hsplit
      rcases hsplit with htake | hdrop
      · have hfound : readSection (rawSectionIndex rawSections) key = rawSection := by
          rw [readSection, get?_rawSectionIndex, hsections]
          rfl
        have hrefs := hread outputSection houtput claim
        rw [← hkey, hfound, rawClaims_of_mem hobject] at hrefs
        exact (hrefs htake).elementGrounded
          (h.references outputSection houtput rawSection hhead claim htake)
      · exact h.laterClaims outputSection houtput rawSection hhead claim hdrop
    · refine h.laterSections outputSection houtput rawSection ?_ element helement
      rw [← hkey, hsections]
      exact hlater

/-- An output that is ready for review is grounded if and only if what was not read of it is. -/
theorem ready_output_grounded_iff
    (hready : (alignCopilotOutputClaimsToEvidence services sections rawSections
      outputSections).2.readyForReview = true) :
    OutputGrounded services sections rawSections outputSections ↔
      UnreadGrounded services sections rawSections outputSections :=
  ⟨OutputGrounded.unread, fun h => h.output hready⟩

end Settling

namespace Sample

/-- Every reference of the samples is a text. -/
def textServices : CopilotServices where
  sha256 _ := "0"
  textDigest text := text
  str _ := "None"
  unsafePayload _ := none
  unsafeLineage _ := none

def groundedPacket : List CopilotEvidencePacketSection :=
  [{ sectionKey := "SUITABILITY"
     sourceRefs := [{ sourceSystem := "advise", sourceType := "RUN", sourceId := "1" }] }]

def citing (claimId : String) (refs : List Json) : Json :=
  .obj [("claim_id", .str claimId), ("source_refs", .arr refs)]

def rawSection (claims : List Json) : Json :=
  .obj [("section_key", .str "SUITABILITY"), ("claims", .arr claims)]

def outputSection : JsonObject := [("section_key", .str "SUITABILITY")]

def knownRef : Json := .str "advise:RUN:1:no-content-hash"

end Sample

open Sample in
/-- A second section under the key is not read, and its claim has no source. -/
theorem ready_with_unread_section :
    ¬ ((alignCopilotOutputClaimsToEvidence textServices groundedPacket
        (.arr [rawSection [citing "c1" [knownRef]], rawSection [citing "c2" []]])
        [outputSection]).2.readyForReview = true →
      OutputGrounded textServices groundedPacket
        (.arr [rawSection [citing "c1" [knownRef]], rawSection [citing "c2" []]])
        [outputSection]) := by
  intro h
  obtain ⟨claim, hclaim, hcited, -⟩ := (h (by decide +kernel)).claims outputSection
    List.mem_cons_self _ (List.mem_of_getElem? (i := 1) rfl) (citing "c2" []) List.mem_cons_self
  cases hclaim
  exact hcited rfl

open Sample in
/-- The theorem at an output whose only claim cites the only source. -/
theorem ready_output_grounded_iff_one :
    OutputGrounded textServices groundedPacket (.arr [rawSection [citing "c1" [knownRef]]])
        [outputSection] ↔
      UnreadGrounded textServices groundedPacket (.arr [rawSection [citing "c1" [knownRef]]])
        [outputSection] :=
  ready_output_grounded_iff (by decide +kernel)

end LotusAdvise.AdvisoryCopilot

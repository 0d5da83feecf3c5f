import LotusAdvise.Foundations.Except
import LotusAdvise.Foundations.Words
import LotusAdvise.Proposals.Idempotency
import Mathlib.Data.List.DropRight

/-! # Bounded references and identifiers

How the cockpit shortens the texts that it shows, what it refuses to show, and how the
identifier of an action is made from the family of the action and the identifier of its
source. The normal form of an identifier keeps letters and digits in lower case and one
underscore for everything between them, so different sources can have one identifier.
-/

namespace LotusAdvise.AdvisorCockpit

open Proposals Words

/-- Characters that an identifier keeps in its normal form. -/
structure IdentifierText where
  chars : List Char
  plain : ∀ c ∈ chars, c ≠ '_' ∧ Text.isSpace c = false

/-- What the cockpit uses of the language beyond ASCII, and the digest of a text. -/
structure CockpitServices extends Services where
  /-- `hashlib.sha256(value.encode("utf-8")).hexdigest()`. -/
  textDigest : String → List (Fin 16)
  /-- `str.lower`. -/
  lower : String → String
  /-- The lower case of a character beyond ASCII, where it is alphanumeric. -/
  lowerAlphanumeric : Char → Option IdentifierText

def cockpitIdentifierMaxLength : ℕ := 160

def cockpitTextMaxLength : ℕ := 1000

def cockpitSummaryMaxLength : ℕ := 512

def cockpitListMaxItems : ℕ := 64

def referenceDigestLength : ℕ := 12

/-- `" ".join(value.split())`. -/
def collapsed (value : List Char) : List Char := joined ' ' (words Text.isSpace value)

def normalizedText (value : String) : String := String.ofList (collapsed value.toList)

def hexDigit (digit : Fin 16) : Char := Nat.digitChar digit

section Bounds

variable (services : CockpitServices)

def hexdigest (value : List Char) : List Char :=
  (services.textDigest (String.ofList value)).map hexDigit

/-- A normalized text that is too long is cut, and its digest is put in place of the rest. -/
def shortened (normalized : List Char) : List Char :=
  (normalized.take (cockpitIdentifierMaxLength - referenceDigestLength - 1)).rdropWhile
      (· = '_') ++ '_' :: (hexdigest services normalized).take referenceDigestLength

def boundedText (normalized : List Char) : List Char :=
  if normalized.length ≤ cockpitIdentifierMaxLength then normalized
  else shortened services normalized

def boundedReference (value : String) : String :=
  String.ofList (boundedText services (collapsed value.toList))

def boundedOptionalReference (value : Option String) : Option String :=
  value.bind fun text =>
    if collapsed text.toList = [] then none
    else some (boundedReference services (normalizedText text))

def boundedContentHash (value : Option String) : Option String :=
  value.bind fun text =>
    if collapsed text.toList = [] then none
    else if (collapsed text.toList).length ≤ cockpitIdentifierMaxLength then
      some (normalizedText text)
    else some ("sha256:" ++ String.ofList (hexdigest services (collapsed text.toList)))

def boundedSummary (value : String) : String :=
  let normalized := collapsed value.toList
  if normalized.length ≤ cockpitSummaryMaxLength then String.ofList normalized
  else String.ofList
    ((normalized.take (cockpitSummaryMaxLength - 3)).rdropWhile Text.isSpace) ++ "..."

end Bounds

section Validation

variable (services : CockpitServices)

def cockpitSensitiveTerms : List String :=
  ["authorization", "cookie", "credential", "password", "secret", "token", "api key", "apikey",
    "raw prompt", "raw payload", "provider response", "provider output", "trace id",
    "correlation id"]

def containsSensitiveTerm (value : String) : Bool :=
  let lowered := (services.lower value).toList.map fun c => if c = '-' ∨ c = '_' then ' ' else c
  cockpitSensitiveTerms.any fun term => term.toList <:+: lowered

/-- The checks that identifiers and business texts share. -/
def normalizeBounded (maxLength : ℕ) (fieldName value : String) : Except ProposalError String := do
  let normalized := normalizedText value
  require (normalized ≠ "") (.valueError (fieldName ++ " is required"))
  require (normalized.toList.length ≤ maxLength) (.valueError (fieldName ++ " is too long"))
  require (containsSensitiveTerm services normalized = false)
    (.valueError (fieldName ++ " cannot contain sensitive technical detail"))
  return normalized

def normalizeRequiredIdentifier (fieldName value : String) : Except ProposalError String :=
  normalizeBounded services cockpitIdentifierMaxLength fieldName value

def normalizeOptionalIdentifier (fieldName : String) :
    (value : Option String) → Except ProposalError (Option String)
  | none => .ok none
  | some text =>
    if normalizedText text = "" then .ok none
    else (normalizeRequiredIdentifier services fieldName (normalizedText text)).map some

def normalizeBusinessText (fieldName value : String) : Except ProposalError String :=
  normalizeBounded services cockpitTextMaxLength fieldName value

def normalizeIdentifierList (fieldName : String) (value : List String) :
    Except ProposalError (List String) :=
  value.mapM (normalizeRequiredIdentifier services fieldName)

end Validation

section Identifiers

variable (services : CockpitServices)

/-- `character.lower() if character.isalnum() else "_"`. -/
def normalizedCharacter (c : Char) : List Char :=
  if c.toNat < 128 then if c.isAlphanum then [c.toLower] else ['_']
  else (services.lowerAlphanumeric c).elim ['_'] IdentifierText.chars

/-- The parts that the normal form of an identifier is joined from. -/
def identifierWords (value : String) : List (List Char) :=
  words (fun c => decide (c = '_')) (value.toList.flatMap (normalizedCharacter services))

def normalizeActionIdentifier (value : String) : String :=
  String.ofList (joined '_' (identifierWords services value))

def buildActionItemId (actionFamily sourceActionId : String) : String :=
  boundedReference services ("aci_" ++ normalizeActionIdentifier services actionFamily ++ "_" ++
    normalizeActionIdentifier services sourceActionId)

end Identifiers

section Lemmas

variable {services : CockpitServices} {value other : String} {c d : Char} {w : List Char}

theorem hexDigit_isSpace (digit : Fin 16) : Text.isSpace (hexDigit digit) = false := by
  revert digit
  decide

theorem collapsed_of_forall {cs : List Char} (h : ∀ c ∈ cs, Text.isSpace c = false) :
    collapsed cs = cs :=
  joined_words_of_forall ' ' h

theorem plain_of_mem_normalizedCharacter (h : d ∈ normalizedCharacter services c) :
    d = '_' ∨ d ≠ '_' ∧ Text.isSpace d = false := by
  unfold normalizedCharacter at h
  split at h
  · split at h
    · next hascii halnum =>
      obtain rfl := List.mem_singleton.mp h
      have hplain : ∀ n < 128, (Char.ofNat n).isAlphanum → (Char.ofNat n).toLower ≠ '_' ∧
          Text.isSpace (Char.ofNat n).toLower = false := by decide
      rw [← Char.ofNat_toNat c] at halnum ⊢
      exact .inr (hplain _ hascii halnum)
    · exact .inl (List.mem_singleton.mp h)
  · cases htext : services.lowerAlphanumeric c with
    | none =>
      rw [htext] at h
      exact .inl (List.mem_singleton.mp h)
    | some text =>
      rw [htext] at h
      exact .inr (text.plain d h)

/-- The parts of a normal form are words without underscores and white space. -/
theorem mem_identifierWords (h : w ∈ identifierWords services value) :
    w ≠ [] ∧ '_' ∉ w ∧ ∀ c ∈ w, Text.isSpace c = false := by
  obtain ⟨hne, hsep⟩ := mem_words h
  have hunderscore : '_' ∉ w := fun hmem => by simpa using hsep _ hmem
  refine ⟨hne, hunderscore, fun c hc => ?_⟩
  obtain ⟨source, -, hsource⟩ := List.mem_flatMap.mp (subset_of_mem_words h hc)
  rcases plain_of_mem_normalizedCharacter hsource with rfl | ⟨-, hspace⟩
  · exact absurd hc hunderscore
  · exact hspace

/-- An underscore divides the words of an identifier. -/
theorem identifierWords_append (value other : String) :
    identifierWords services (value ++ "_" ++ other) =
      identifierWords services value ++ identifierWords services other := by
  have hunderscore : normalizedCharacter services '_' = ['_'] := rfl
  rw [identifierWords, String.toList_append, String.toList_append, List.flatMap_append,
    List.flatMap_append, show "_".toList = ['_'] from rfl, List.flatMap_singleton, hunderscore,
    List.append_assoc, List.singleton_append, words_append_cons (by simp)]
  rfl

theorem normalizeActionIdentifier_injective
    (h : normalizeActionIdentifier services value = normalizeActionIdentifier services other) :
    identifierWords services value = identifierWords services other := by
  have hjoined := String.ofList_injective h
  refine joined_injective (fun w hw => ?_) (fun w hw => ?_) hjoined
  · exact ⟨(mem_identifierWords hw).1, (mem_identifierWords hw).2.1⟩
  · exact ⟨(mem_identifierWords hw).1, (mem_identifierWords hw).2.1⟩

end Lemmas

end LotusAdvise.AdvisorCockpit

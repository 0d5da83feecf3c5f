import LotusAdvise.Foundations.Base64
import LotusAdvise.Foundations.Dict
import LotusAdvise.Foundations.Text
import LotusAdvise.Foundations.Words

/-! # Guardrails

A text is searched for the phrases of the guardrail rules in two normal forms: with one space
between its words, and without any. Stretches of it that look like base64 are decoded, and what they
say is searched in the same way.
-/

namespace LotusAdvise.AdvisoryCopilot

inductive CopilotGuardrailReasonCode where
  | autonomousAdviceForbidden
  | tradeOrOrderActionForbidden
  | policyApprovalForbidden
  | clientReadyPublicationForbidden
  | sourceEvidenceRequired
  | promptInjectionRejected
  | sensitiveDataExposureRejected
deriving DecidableEq

def CopilotGuardrailReasonCode.text : CopilotGuardrailReasonCode → String
  | autonomousAdviceForbidden => "AUTONOMOUS_ADVICE_FORBIDDEN"
  | tradeOrOrderActionForbidden => "TRADE_OR_ORDER_ACTION_FORBIDDEN"
  | policyApprovalForbidden => "POLICY_APPROVAL_FORBIDDEN"
  | clientReadyPublicationForbidden => "CLIENT_READY_PUBLICATION_FORBIDDEN"
  | sourceEvidenceRequired => "SOURCE_EVIDENCE_REQUIRED"
  | promptInjectionRejected => "PROMPT_INJECTION_REJECTED"
  | sensitiveDataExposureRejected => "SENSITIVE_DATA_EXPOSURE_REJECTED"

def forbiddenIntentReasonCodes : Dict String CopilotGuardrailReasonCode :=
  [("choose_recommendation", .autonomousAdviceForbidden),
    ("rank_recommendations", .autonomousAdviceForbidden),
    ("generate_trade", .tradeOrOrderActionForbidden),
    ("create_order", .tradeOrOrderActionForbidden),
    ("approve_policy", .policyApprovalForbidden),
    ("waive_policy", .policyApprovalForbidden),
    ("publish_client_ready", .clientReadyPublicationForbidden),
    ("send_client_message", .clientReadyPublicationForbidden),
    ("ignore_source_evidence", .sourceEvidenceRequired),
    ("override_instructions", .promptInjectionRejected),
    ("expose_raw_payload", .sensitiveDataExposureRejected)]

def promptInjectionPhrases : List String :=
  ["disregard previous instructions", "disregard prior directions", "ignore previous instructions",
    "ignore the above", "ignore prior instructions", "ignore all earlier instructions",
    "system prompt", "developer message", "override instructions", "override safety instructions",
    "bypass guardrail", "bypass the guardrail", "jailbreak", "act as system"]

def autonomousAdvicePhrases : List String :=
  ["choose recommendation", "choose the recommendation", "rank recommendations",
    "select the best recommendation", "decide the best option", "make the investment decision"]

def tradeOrOrderPhrases : List String :=
  ["generate trade", "create order", "place trade", "place the trade", "execute order",
    "execute the order", "submit order", "book trade"]

def policyApprovalPhrases : List String :=
  ["approve policy", "approve the policy", "waive policy", "waive the policy",
    "policy waiver approved", "policy is approved", "override compliance"]

def clientReadyPhrases : List String :=
  ["approved for client", "client-ready publication approved",
    "client-ready publication is approved", "client-ready publication enabled",
    "client-ready publication is enabled", "client-ready publication permitted",
    "client-ready publication is permitted", "ready to send to client",
    "ready to send to the client", "send this to the client", "final client advice"]

def sensitiveOutputPhrases : List String :=
  ["raw prompt", "provider response", "trace id", "correlation id", "raw payload", "api key",
    "bearer token"]

def textRules : List (CopilotGuardrailReasonCode × List String) :=
  [(.autonomousAdviceForbidden, autonomousAdvicePhrases),
    (.tradeOrOrderActionForbidden, tradeOrOrderPhrases),
    (.policyApprovalForbidden, policyApprovalPhrases),
    (.clientReadyPublicationForbidden, clientReadyPhrases),
    (.sensitiveDataExposureRejected, sensitiveOutputPhrases)]

/-- All rules on texts: prompt injection has its own check in front of the others. -/
def guardrailRules : List (CopilotGuardrailReasonCode × List String) :=
  (.promptInjectionRejected, promptInjectionPhrases) :: textRules

/-- What Unicode says of the characters that are not ASCII. -/
structure UnicodeTables where
  /-- `str.lower` of a character between those before it, the last one first, and those after it. -/
  lower : List Char → Char → List Char → List Char
  /-- `\w` of a character. -/
  isWord : Char → Bool

section Variants

variable (unicode : UnicodeTables)

def isAscii (c : Char) : Bool := c.toNat < 128

def lowerFrom : List Char → List Char → List Char
  | _, [] => []
  | before, c :: cs =>
    (if isAscii c then [c.toLower] else unicode.lower before c cs) ++ lowerFrom (c :: before) cs

/-- `str.lower`. -/
def lower (cs : List Char) : List Char := lowerFrom unicode [] cs

/-- `[^a-z0-9]`. -/
def isSeparator (c : Char) : Bool := !(c.isLower || c.isDigit)

/-- `_WORD_SEPARATOR_PATTERN.sub(" ", …)`, in a run of separators or not. -/
def subSeparators : Bool → List Char → List Char
  | _, [] => []
  | inRun, c :: cs =>
    if isSeparator c then
      if inRun then subSeparators true cs else ' ' :: subSeparators true cs
    else c :: subSeparators false cs

def normalizeForPhraseMatch (value : List Char) : List Char :=
  Text.stripChars (subSeparators false (lower unicode value))

def compactForPhraseMatch (value : List Char) : List Char :=
  (lower unicode value).filter fun c => !isSeparator c

end Variants

section Candidates

variable (unicode : UnicodeTables)

def isWordChar (c : Char) : Bool :=
  if isAscii c then c.isAlphanum || c = '_' else unicode.isWord c

/-- `\b`, between two characters or at an end of the text. -/
def atBoundary (before after : Option Char) : Bool :=
  before.any (isWordChar unicode) != after.any (isWordChar unicode)

/-- `[A-Za-z0-9+/=_-]`. -/
def inCandidateClass (c : Char) : Bool := c.isAlphanum || c ∈ ['+', '/', '=', '_', '-']

/-- The most characters, up to a number of them, that a candidate can have: at least twelve, with a
boundary behind them. -/
def longestCandidate (cs : List Char) : ℕ → Option ℕ
  | 0 => none
  | n + 1 =>
    if 12 ≤ n + 1 ∧
        atBoundary unicode (cs.take (n + 1)).getLast? (cs.drop (n + 1)).head? = true then
      some (n + 1)
    else longestCandidate cs n

/-- `_BASE64_CANDIDATE_PATTERN` at a place of the text. -/
def candidateAt (before : Option Char) (cs : List Char) : Option ℕ :=
  if atBoundary unicode before cs.head? then
    longestCandidate unicode cs (cs.takeWhile inCandidateClass).length
  else none

/-- `_BASE64_CANDIDATE_PATTERN.findall`: the search goes on behind a candidate. -/
def findCandidates : Option Char → ℕ → List Char → List (List Char)
  | _, _, [] => []
  | _, skip + 1, c :: cs => findCandidates (some c) skip cs
  | before, 0, c :: cs =>
    match candidateAt unicode before (c :: cs) with
    | none => findCandidates (some c) 0 cs
    | some length => (c :: cs).take length :: findCandidates (some c) (length - 1) cs

/-- `[\x09\x0a\x0d\x20-\x7e]`. -/
def isPrintable (byte : ℕ) : Bool := byte ∈ [9, 10, 13] || (32 ≤ byte && byte ≤ 126)

/-- Bytes that are not all printable ASCII are no UTF-8, or a text that is not printable ASCII. -/
def decodeBase64Candidate (candidate : List Char) : Option (List Char) :=
  let normalized := candidate.map Base64.standardSymbol
  match Base64.decode (normalized ++ Base64.padding normalized.length) with
  | none => none
  | some bytes => if bytes ≠ [] ∧ bytes.all isPrintable then some (bytes.map Char.ofNat) else none

def decodedBase64Candidates (value : List Char) : List (List Char) :=
  (findCandidates unicode none 0 value).filterMap decodeBase64Candidate

def normalizedTextVariants (value : List Char) : List (List Char) :=
  let variants := normalizeForPhraseMatch unicode value :: compactForPhraseMatch unicode value ::
    (decodedBase64Candidates unicode value).flatMap fun decoded =>
      [normalizeForPhraseMatch unicode decoded, compactForPhraseMatch unicode decoded]
  (variants.filter fun variant => variant ≠ []).eraseDups

end Candidates

section Rules

variable (unicode : UnicodeTables)

def phraseMatches (phrase : String) (normalizedValues : List (List Char)) : Bool :=
  normalizedValues.any fun normalizedValue =>
    normalizeForPhraseMatch unicode phrase.toList <:+: normalizedValue ∨
      compactForPhraseMatch unicode phrase.toList <:+: normalizedValue

def containsPhrase (value : String) (phrases : List String) : Bool :=
  if value = "" then false
  else phrases.any fun phrase =>
    phraseMatches unicode phrase (normalizedTextVariants unicode value.toList)

def textGuardrailReasons (text : String) (includeSensitive : Bool) :
    List CopilotGuardrailReasonCode :=
  (guardrailRules.filter fun rule =>
    (rule.1 ≠ .sensitiveDataExposureRejected || includeSensitive) &&
      containsPhrase unicode text rule.2).map Prod.fst

def guardrailReasonForIntent (intentKey : String) : Option CopilotGuardrailReasonCode :=
  let normalized := (lower unicode (Text.stripChars intentKey.toList)).map fun c =>
    if c = '-' ∨ c = ' ' then '_' else c
  Dict.get? forbiddenIntentReasonCodes (String.ofList normalized)

structure CopilotGuardrailSourceEvidence where
  title : String
  summaryItems : List String
  sourceRefCount : ℤ

structure CopilotGuardrailPolicyInput where
  requestedIntents : List String := []
  sourceEvidence : List CopilotGuardrailSourceEvidence := []
  userInstruction : String := ""
  modelOutputSections : List String := []

def sourceEvidenceGuardrailReasons (sourceEvidence : List CopilotGuardrailSourceEvidence) :
    List CopilotGuardrailReasonCode :=
  if ∃ item ∈ sourceEvidence, 0 < item.sourceRefCount then [] else [.sourceEvidenceRequired]

def sourceTextGuardrailReasons (sourceEvidence : List CopilotGuardrailSourceEvidence) :
    List CopilotGuardrailReasonCode :=
  let fragments := sourceEvidence.flatMap fun item => item.title :: item.summaryItems
  let sourceText := " ".intercalate (fragments.filter fun fragment => fragment ≠ "")
  if containsPhrase unicode sourceText promptInjectionPhrases then [.promptInjectionRejected]
  else []

def evaluateCopilotGuardrailPolicy (policyInput : CopilotGuardrailPolicyInput) :
    List CopilotGuardrailReasonCode :=
  (policyInput.requestedIntents.filterMap (guardrailReasonForIntent unicode) ++
    sourceEvidenceGuardrailReasons policyInput.sourceEvidence ++
    textGuardrailReasons unicode policyInput.userInstruction false ++
    sourceTextGuardrailReasons unicode policyInput.sourceEvidence ++
    textGuardrailReasons unicode (" ".intercalate policyInput.modelOutputSections) true).eraseDups

/-- A rule whose phrases are in what the model says is reported. -/
theorem mem_evaluateCopilotGuardrailPolicy {policyInput : CopilotGuardrailPolicyInput}
    {rule : CopilotGuardrailReasonCode × List String} (hrule : rule ∈ guardrailRules)
    (h : containsPhrase unicode (" ".intercalate policyInput.modelOutputSections) rule.2 = true) :
    rule.1 ∈ evaluateCopilotGuardrailPolicy unicode policyInput := by
  have htext : rule.1 ∈
      textGuardrailReasons unicode (" ".intercalate policyInput.modelOutputSections) true := by
    refine List.mem_map.mpr ⟨rule, List.mem_filter.mpr ⟨hrule, ?_⟩, rfl⟩
    rw [h, Bool.or_true, Bool.and_true]
  unfold evaluateCopilotGuardrailPolicy
  rw [List.mem_eraseDups]
  exact List.mem_append_right _ htext

end Rules

end LotusAdvise.AdvisoryCopilot

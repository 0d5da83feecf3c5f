import LotusAdvise.Proposals.IdeaIntake

/-! # The replay of idea intakes

A call is answered from the receipt of an earlier one in its scope and under its key, as long as no
call since then has come later than that receipt expires, and not too many others have been
acknowledged. Clocks may run backwards: a call whose clock is ahead purges for all that come after.
-/

namespace LotusAdvise.Proposals

open ExpiringRegistry

/-- What tells the callers apart. -/
structure IntakeScope where
  tenantId : String
  legalEntityCode : String
  serviceIdentity : String
  subject : String
deriving DecidableEq

def IntakeCall.scope (call : IntakeCall) : IntakeScope where
  tenantId := call.principal.tenantId
  legalEntityCode := call.principal.legalEntityCode
  serviceIdentity := call.principal.serviceIdentity
  subject := call.principal.actorId

def IntakeCall.key (call : IntakeCall) : Option String :=
  normalizeOptionalIdempotencyKey (some call.idempotencyKey)

def IntakeCall.now (call : IntakeCall) : DateTime := parseReceivedAt call.receivedAt

/-- A call and its answer. -/
structure IntakeAnswer where
  call : IntakeCall
  outcome : Except IdeaIntakeError IdeaProposalIntakeResponse

namespace IntakeAnswer

/-- The call has been acknowledged, and its receipt recorded. -/
def isNew (answer : IntakeAnswer) : Bool :=
  match answer.outcome with
  | .ok response => !response.idempotencyReplay
  | .error _ => false

def intakeId? (answer : IntakeAnswer) : Option String :=
  answer.outcome.toOption.map IdeaProposalIntakeResponse.intakeId

/-- The call is answered out of the registry. -/
def fromRecord (answer : IntakeAnswer) : Bool :=
  match answer.outcome with
  | .ok response => response.idempotencyReplay
  | .error (.idempotencyConflict _) => true
  | .error _ => false

end IntakeAnswer

/-- The registry, and all answers so far. -/
structure IntakeRun where
  records : IntakeRecords := []
  answers : List IntakeAnswer := []

section Statements

variable (limits : IntakeLimits) (digests : IntakeDigests)

def IntakeRun.answer (run : IntakeRun) (call : IntakeCall) : IntakeRun :=
  let processed := processIdeaProposalIntake limits digests run.records call
  { records := processed.1
    answers := run.answers ++ [{ call, outcome := processed.2 }] }

def intakeRun (calls : List IntakeCall) : IntakeRun :=
  calls.foldl (IntakeRun.answer limits digests) {}

/-- The requests agree up to the order of their source references. -/
structure SameContent (request other : IdeaProposalIntakeRequest) : Prop where
  ideaCandidateId : request.ideaCandidateId = other.ideaCandidateId
  conversionIntentId : request.conversionIntentId = other.conversionIntentId
  intentType : request.intentType = other.intentType
  sourceRefs : request.sourceRefs.Perm other.sourceRefs

/-- A replay of the earlier intake, or a conflict with it. -/
structure AnsweredFrom (first answer : IntakeAnswer) : Prop where
  replay : SameContent answer.call.request first.call.request →
    ∃ response, answer.outcome = .ok response ∧ response.idempotencyReplay = true ∧
      first.intakeId? = some response.intakeId
  conflict : ¬ SameContent answer.call.request first.call.request →
    answer.outcome = .error (.idempotencyConflict "IDEA_PROPOSAL_INTAKE_IDEMPOTENCY_CONFLICT")

/-- The call has come less than the time to live after the first one, by their times. -/
def WithinTtl (first answer : IntakeAnswer) : Prop :=
  answer.call.now.instant < first.call.now.instant + limits.replayTtlSeconds * 1000000

instance (first answer : IntakeAnswer) : Decidable (WithinTtl limits first answer) :=
  inferInstanceAs (Decidable (_ < _))

/-- Calls are answered from a receipt in their scope and under their key, as long as it is fresh and
fewer others have been acknowledged since than the registry has room for. -/
def Replays (fresh : IntakeAnswer → List IntakeAnswer → IntakeAnswer → Prop)
    (answers : List IntakeAnswer) : Prop :=
  ∀ before first between answer after, answers = before ++ first :: between ++ answer :: after →
    first.isNew = true → answer.call.scope = first.call.scope →
    answer.call.key = first.call.key → fresh first between answer →
    (between.filter IntakeAnswer.isNew).length < limits.maxRecords → AnsweredFrom first answer

/-- No call that purges has come later than the receipt expires. -/
def StaysFresh (first : IntakeAnswer) (between : List IntakeAnswer) (answer : IntakeAnswer) :
    Prop :=
  ∀ other ∈ between ++ [answer], other.call.key.isSome → WithinTtl limits first other

/-- A call that is answered out of the registry is answered from an earlier one in its scope and
under its key, less than the time to live ago. -/
def OwnRecords (answers : List IntakeAnswer) : Prop :=
  ∀ before answer after, answers = before ++ answer :: after → answer.fromRecord = true →
    ∃ first ∈ before, first.isNew = true ∧ answer.call.scope = first.call.scope ∧
      answer.call.key = first.call.key ∧ WithinTtl limits first answer ∧ AnsweredFrom first answer

structure ReplaysExactly (run : IntakeRun) : Prop where
  replays : Replays limits (StaysFresh limits) run.answers
  own : OwnRecords limits run.answers
  capped : run.records.length ≤ limits.maxRecords

/-- No two different texts that the calls have hashed share a digest, or what is kept of it. -/
structure CollisionFree (calls : List IntakeCall) : Prop where
  refs : ∀ a ∈ calls, ∀ b ∈ calls,
    sourceRefsFingerprint digests a.request = sourceRefsFingerprint digests b.request →
      canonicalRefs a.request.sourceRefs = canonicalRefs b.request.sourceRefs
  requests : ∀ a ∈ calls, ∀ b ∈ calls,
    shortDigest (digests.sha256 (requestPayload digests a.request)) =
        shortDigest (digests.sha256 (requestPayload digests b.request)) →
      requestPayload digests a.request = requestPayload digests b.request
  scopes : ∀ a ∈ calls, ∀ b ∈ calls,
    digests.sha256 (scopePayload (trustedScope (some a.principal) a.correlationId)) =
        digests.sha256 (scopePayload (trustedScope (some b.principal) b.correlationId)) →
      scopePayload (trustedScope (some a.principal) a.correlationId) =
        scopePayload (trustedScope (some b.principal) b.correlationId)
  keys : ∀ a ∈ calls, ∀ b ∈ calls, ∀ key ∈ a.key, ∀ key' ∈ b.key,
    digests.textDigest (Text.strip key) = digests.textDigest (Text.strip key') →
      Text.strip key = Text.strip key'

end Statements

section Texts

theorem append_text_inj {mark a b : String} (h : mark ++ a = mark ++ b) : a = b := by
  have h := congrArg String.toList h
  rw [String.toList_append, String.toList_append] at h
  exact String.toList_injective (List.append_cancel_left h)

end Texts

section Fingerprints

variable {digests : IntakeDigests} {calls : List IntakeCall} {a b : IntakeCall}

theorem eq_of_sortKey {ref other : IdeaProposalSourceRef} (h : ref.sortKey = other.sortKey) :
    ref = other := by
  obtain ⟨sourceType, sourceId, contentHash, htrimmed⟩ := ref
  obtain ⟨sourceType', sourceId', contentHash', htrimmed'⟩ := other
  obtain ⟨rfl, hrest⟩ := Prod.mk.inj (toLex_inj.mp h)
  obtain ⟨rfl, hhash⟩ := Prod.mk.inj (toLex_inj.mp hrest)
  dsimp only at hhash
  -- no content hash is empty
  have hnonblank : ∀ hash ∈ contentHash, hash ≠ "" := fun hash hhash =>
    (htrimmed hash (by simp [Option.mem_def.mp hhash])).2
  have hnonblank' : ∀ hash ∈ contentHash', hash ≠ "" := fun hash hhash =>
    (htrimmed' hash (by simp [Option.mem_def.mp hhash])).2
  have hsame : contentHash = contentHash' := by
    cases contentHash with
    | none =>
      cases contentHash' with
      | none => rfl
      | some hash => exact absurd hhash.symm (hnonblank' hash rfl)
    | some hash =>
      cases contentHash' with
      | none => exact absurd hhash (hnonblank hash rfl)
      | some hash' => rw [show hash = hash' from hhash]
  subst hsame
  rfl

theorem dump_injective : Function.Injective IdeaProposalSourceRef.dump := by
  intro ref other h
  obtain ⟨sourceType, sourceId, contentHash, htrimmed⟩ := ref
  obtain ⟨sourceType', sourceId', contentHash', htrimmed'⟩ := other
  simp only [IdeaProposalSourceRef.dump, Json.obj.injEq, List.cons.injEq, Prod.mk.injEq,
    Json.str.injEq, true_and, and_true] at h
  obtain ⟨rfl, rfl, hhash⟩ := h
  have hsame : contentHash = contentHash' := by
    cases contentHash <;> cases contentHash' <;> simp_all [Json.ofText?]
  subst hsame
  rfl

/-- The references hash alike when they are the same up to their order. -/
theorem canonicalRefs_eq_iff {refs others : List IdeaProposalSourceRef} :
    canonicalRefs refs = canonicalRefs others ↔ refs.Perm others := by
  have : IsTrans IdeaProposalSourceRef fun a b => a.sortKey ≤ b.sortKey :=
    ⟨fun _ _ _ hab hbc => hab.trans hbc⟩
  have : Std.Total fun a b : IdeaProposalSourceRef => a.sortKey ≤ b.sortKey :=
    ⟨fun a b => le_total _ _⟩
  rw [canonicalRefs, canonicalRefs, Json.arr.injEq,
    (List.map_injective_iff.mpr dump_injective).eq_iff]
  constructor
  · intro h
    exact (List.perm_insertionSort _ refs).symm.trans
      (h ▸ List.perm_insertionSort
        (fun a b : IdeaProposalSourceRef => a.sortKey ≤ b.sortKey) others)
  · intro h
    refine List.Perm.eq_of_pairwise (fun a b _ _ hab hba => eq_of_sortKey (le_antisymm hab hba))
      (List.pairwise_insertionSort _ refs) (List.pairwise_insertionSort _ others) ?_
    exact ((List.perm_insertionSort _ refs).trans h).trans (List.perm_insertionSort _ others).symm

theorem CollisionFree.mono (h : CollisionFree digests calls) {fewer : List IntakeCall}
    (hsubset : fewer ⊆ calls) : CollisionFree digests fewer where
  refs a ha b hb := h.refs a (hsubset ha) b (hsubset hb)
  requests a ha b hb := h.requests a (hsubset ha) b (hsubset hb)
  scopes a ha b hb := h.scopes a (hsubset ha) b (hsubset hb)
  keys a ha b hb := h.keys a (hsubset ha) b (hsubset hb)

theorem IdeaProposalIntentType.text_injective : Function.Injective text := by
  intro a b
  cases a <;> cases b <;> decide

/-- Requests have the same fingerprint when they have the same content. -/
theorem requestFingerprint_eq_iff (h : CollisionFree digests calls) (ha : a ∈ calls)
    (hb : b ∈ calls) : requestFingerprint digests a.request = requestFingerprint digests b.request ↔
      SameContent a.request b.request := by
  constructor
  · intro heq
    have hpayload := h.requests a ha b hb (append_text_inj heq)
    simp only [requestPayload, Json.obj.injEq, List.cons.injEq, Prod.mk.injEq, Json.str.injEq,
      true_and, and_true] at hpayload
    obtain ⟨hidea, hconversion, hintent, hrefs⟩ := hpayload
    exact ⟨hidea, hconversion, IdeaProposalIntentType.text_injective hintent,
      canonicalRefs_eq_iff.mp (h.refs a ha b hb hrefs)⟩
  · rintro ⟨hidea, hconversion, hintent, hrefs⟩
    rw [requestFingerprint, requestFingerprint, requestPayload, requestPayload,
      sourceRefsFingerprint, sourceRefsFingerprint, canonicalRefs_eq_iff.mpr hrefs, hidea,
      hconversion, hintent]

/-- The key under which a call is registered. -/
def IntakeCall.registryKey (digests : IntakeDigests) (call : IntakeCall) (key : String) : String :=
  Proposals.registryKey digests key (trustedScope (some call.principal) call.correlationId)

theorem registryKey_of_same {key : String} (hscope : a.scope = b.scope) :
    a.registryKey digests key = b.registryKey digests key := by
  obtain ⟨htenant, hentity, hservice, hsubject⟩ := IntakeScope.mk.inj hscope
  unfold IntakeCall.registryKey Proposals.registryKey scopePayload trustedScope
    IdeaProposalIntakePrincipal.auditMetadata
  dsimp only
  rw [htenant, hentity, hservice, hsubject]

/-- Calls share a registry key only in the same scope and under the same key. -/
theorem same_of_registryKey (h : CollisionFree digests calls) (ha : a ∈ calls) (hb : b ∈ calls)
    {key key' : String} (hkey : a.key = some key) (hkey' : b.key = some key')
    (heq : a.registryKey digests key = b.registryKey digests key') :
    a.scope = b.scope ∧ key = key' := by
  have htexts := congrArg String.toList heq
  simp only [IntakeCall.registryKey, Proposals.registryKey, String.toList_append,
    List.append_assoc] at htexts
  obtain ⟨hdigest, hrest⟩ := List.append_inj htexts (by
    simp only [String.length_toList, digests.length_sha256])
  have hpayload := h.scopes a ha b hb (String.toList_injective hdigest)
  simp only [scopePayload, trustedScope, IdeaProposalIntakePrincipal.auditMetadata, Json.obj.injEq,
    List.cons.injEq, Prod.mk.injEq, Json.str.injEq, true_and, and_true] at hpayload
  obtain ⟨htenant, hentity, hservice, hsubject⟩ := hpayload
  have htext := h.keys a ha b hb key hkey key' hkey' (append_text_inj
    (String.toList_injective (List.append_cancel_left hrest)))
  have hstripped : ∀ {raw key : String}, normalizeOptionalIdempotencyKey (some raw) = some key →
      Text.strip key = key := by
    intro raw key hnormalized
    simp only [normalizeOptionalIdempotencyKey] at hnormalized
    split at hnormalized
    · cases hnormalized
    · obtain rfl := Option.some.inj hnormalized
      exact Text.strip_strip raw
  rw [hstripped hkey, hstripped hkey'] at htext
  refine ⟨?_, htext⟩
  unfold IntakeCall.scope
  rw [htenant, hentity, hservice, hsubject]

end Fingerprints

section Steps

variable {limits : IntakeLimits} {digests : IntakeDigests} {records : IntakeRecords}
  {call : IntakeCall} {calls : List IntakeCall} {run : IntakeRun}

/-- What is recorded for a call that is new. -/
structure RecordOf (limits : IntakeLimits) (digests : IntakeDigests) (call : IntakeCall)
    (key : String) (record : IdeaProposalIntakeIdempotencyRecord) : Prop where
  key : ∃ normalized, call.key = some normalized ∧ key = call.registryKey digests normalized
  fingerprint : record.requestFingerprint = requestFingerprint digests call.request
  intakeId : record.response.intakeId = intakeId digests call.request
  expires : call.now.afterSeconds? limits.replayTtlSeconds = some record.expiresAt

/-- The ways in which a call is answered. -/
inductive Processed (limits : IntakeLimits) (digests : IntakeDigests) (records : IntakeRecords)
    (call : IntakeCall) :
    IntakeRecords × Except IdeaIntakeError IdeaProposalIntakeResponse → Prop
  | invalid (hkey : call.key = none) : Processed limits digests records call
      (records, .error (.validation "IDEMPOTENCY_KEY_REQUIRED"))
  | overflow (normalized : String) (hkey : call.key = some normalized)
      (habsent : Dict.get? (purge (·.expired call.now) records)
        (call.registryKey digests normalized) = none) :
      Processed limits digests records call
        (purge (·.expired call.now) records, .error .overflow)
  | new (normalized : String) (hkey : call.key = some normalized)
      (habsent : Dict.get? (purge (·.expired call.now) records)
        (call.registryKey digests normalized) = none)
      (record : IdeaProposalIntakeIdempotencyRecord)
      (hrecord : RecordOf limits digests call (call.registryKey digests normalized) record)
      (hnew : record.response.idempotencyReplay = false) :
      Processed limits digests records call
        (enforceCap limits.maxRecords (purge (·.expired call.now) records ++
          [(call.registryKey digests normalized, record)]), .ok record.response)
  | conflict (normalized : String) (hkey : call.key = some normalized)
      (existing : IdeaProposalIntakeIdempotencyRecord)
      (hexisting : Dict.get? (purge (·.expired call.now) records)
        (call.registryKey digests normalized) = some existing)
      (hother : existing.requestFingerprint ≠ requestFingerprint digests call.request) :
      Processed limits digests records call (purge (·.expired call.now) records,
        .error (.idempotencyConflict "IDEA_PROPOSAL_INTAKE_IDEMPOTENCY_CONFLICT"))
  | replay (normalized : String) (hkey : call.key = some normalized)
      (existing : IdeaProposalIntakeIdempotencyRecord)
      (hexisting : Dict.get? (purge (·.expired call.now) records)
        (call.registryKey digests normalized) = some existing)
      (hsame : existing.requestFingerprint = requestFingerprint digests call.request)
      (response : IdeaProposalIntakeResponse) (hreplay : response.idempotencyReplay = true)
      (hid : response.intakeId = existing.response.intakeId) :
      Processed limits digests records call (purge (·.expired call.now) records, .ok response)

theorem processed_processIdeaProposalIntake (records : IntakeRecords) (call : IntakeCall) :
    Processed limits digests records call
      (processIdeaProposalIntake limits digests records call) := by
  unfold processIdeaProposalIntake
  split
  · next hkey => exact .invalid hkey
  · next normalized hkey =>
    have hkey : call.key = some normalized := hkey
    dsimp only
    unfold recordIntake
    dsimp only
    split
    · next habsent =>
      split
      · exact .overflow normalized hkey habsent
      · next expiresAt hexpires =>
        rw [Dict.set_of_notMem (Dict.get?_eq_none.mp habsent)]
        exact .new normalized hkey habsent
          { requestFingerprint := requestFingerprint digests call.request
            response := acknowledgeIdeaProposalIntake digests call.request call.correlationId
              normalized (some call.principal) call.receivedAt
            expiresAt } ⟨⟨normalized, hkey, rfl⟩, rfl, rfl, hexpires⟩ rfl
    · next existing hexisting =>
      split
      · next hother => exact .conflict normalized hkey existing hexisting hother
      · next hsame =>
        exact .replay normalized hkey existing hexisting (not_not.mp hsame) _ rfl rfl

/-- A record lasts for the time to live of its call. -/
theorem RecordOf.expired_eq_false_iff {first : IntakeCall} {key : String}
    {record : IdeaProposalIntakeIdempotencyRecord}
    (h : RecordOf limits digests first key record) : record.expired call.now = false ↔
      call.now.instant < first.now.instant + limits.replayTtlSeconds * 1000000 := by
  obtain ⟨hinstant, hoffset⟩ := DateTime.instant_afterSeconds? h.expires
  have haware : record.expiresAt.utcOffset.isSome := hoffset ▸ DateTime.isSome_orUtc _
  have hlt : call.now.lt? record.expiresAt = some true ↔
      call.now.instant < record.expiresAt.instant :=
    DateTime.lt?_eq_some_true_iff (DateTime.isSome_orUtc _) haware
  rw [IdeaProposalIntakeIdempotencyRecord.expired, decide_eq_false_iff_not, not_not, hlt, hinstant]

/-- A record of a call in the same scope and under the same key answers a call. -/
theorem answeredFrom_of_record (hcalls : CollisionFree digests calls) {first : IntakeAnswer}
    (hfirst : first.call ∈ calls) (hcall : call ∈ calls) {key : String}
    {existing : IdeaProposalIntakeIdempotencyRecord}
    (hrecord : RecordOf limits digests first.call key existing)
    (hid : first.intakeId? = some existing.response.intakeId)
    {processed : IntakeRecords × Except IdeaIntakeError IdeaProposalIntakeResponse}
    (h : Processed limits digests records call processed) {normalized : String}
    (hkey : call.key = some normalized)
    (hexisting : Dict.get? (purge (·.expired call.now) records)
      (call.registryKey digests normalized) = some existing) :
    AnsweredFrom first { call, outcome := processed.2 } := by
  have hiff := requestFingerprint_eq_iff hcalls hcall hfirst
  rw [← hrecord.fingerprint] at hiff
  cases h with
  | invalid hnone => rw [hnone] at hkey; cases hkey
  | overflow normalized' hkey' habsent =>
    obtain rfl := Option.some.inj (hkey.symm.trans hkey')
    rw [hexisting] at habsent
    cases habsent
  | new normalized' hkey' habsent =>
    obtain rfl := Option.some.inj (hkey.symm.trans hkey')
    rw [hexisting] at habsent
    cases habsent
  | conflict normalized' hkey' existing' hexisting' hother =>
    obtain rfl := Option.some.inj (hkey.symm.trans hkey')
    obtain rfl := Option.some.inj (hexisting.symm.trans hexisting')
    exact ⟨fun hsame => absurd (hiff.mpr hsame).symm hother, fun _ => rfl⟩
  | replay normalized' hkey' existing' hexisting' hsame response hreplay hresponse =>
    obtain rfl := Option.some.inj (hkey.symm.trans hkey')
    obtain rfl := Option.some.inj (hexisting.symm.trans hexisting')
    refine ⟨fun _ => ⟨response, rfl, hreplay, by rw [hid, hresponse]⟩, fun hother => ?_⟩
    exact absurd (hiff.mp hsame.symm) hother

/-- What the registry holds of the answers, and that these replay exactly. -/
structure IntakeRun.Inv (limits : IntakeLimits) (digests : IntakeDigests) (run : IntakeRun) :
    Prop where
  nodup : (run.records.map Prod.fst).Nodup
  stored : ∀ key record, (key, record) ∈ run.records → ∃ first ∈ run.answers,
    first.isNew = true ∧ RecordOf limits digests first.call key record ∧
      first.intakeId? = some record.response.intakeId
  held : ∀ before first between, run.answers = before ++ first :: between → first.isNew = true →
    (∀ other ∈ between, other.call.key.isSome → WithinTtl limits first other) →
    (between.filter IntakeAnswer.isNew).length < limits.maxRecords →
    ∃ key record, RecordOf limits digests first.call key record ∧
      first.intakeId? = some record.response.intakeId ∧
      Holds run.records key record (between.filter IntakeAnswer.isNew).length
  exact : ReplaysExactly limits run

theorem inv_nil : IntakeRun.Inv limits digests {} where
  nodup := List.nodup_nil
  stored _ _ hmem := nomatch hmem
  held before first between h := by simp at h
  exact := by
    refine ⟨fun before first between answer after h => ?_, fun before answer after h => ?_,
      Nat.zero_le _⟩
    · simp at h
    · simp at h

/-- The answers before a new one split at its end, or before it. -/
theorem split_concat {α : Type*} {xs before after : List α} {x y : α}
    (h : xs ++ [x] = before ++ y :: after) :
    after = [] ∧ y = x ∧ before = xs ∨ ∃ rest, after = rest ++ [x] ∧ xs = before ++ y :: rest := by
  rcases List.eq_nil_or_concat after with rfl | ⟨rest, last, rfl⟩
  · obtain ⟨hxs, hx⟩ := List.append_inj' h rfl
    exact .inl ⟨rfl, (List.cons.inj hx).1.symm, hxs.symm⟩
  · rw [List.concat_eq_append, ← List.cons_append, ← List.append_assoc] at h
    obtain ⟨hxs, hx⟩ := List.append_inj' h rfl
    obtain rfl := (List.cons.inj hx).1
    exact .inr ⟨rest, List.concat_eq_append, hxs⟩

section Answer

variable {processed : IntakeRecords × Except IdeaIntakeError IdeaProposalIntakeResponse}
  (h : run.Inv limits digests) (hprocessed : Processed limits digests run.records call processed)
include h hprocessed

theorem nodup_processed : (processed.1.map Prod.fst).Nodup := by
  have hpurged : ((purge (·.expired call.now) run.records).map Prod.fst).Nodup :=
    h.nodup.sublist ((purge_sublist _).map Prod.fst)
  cases hprocessed with
  | invalid hkey => exact h.nodup
  | new normalized hkey habsent record hrecord hnew =>
    refine List.Nodup.sublist ((enforceCap_sublist _).map Prod.fst) ?_
    rw [← Dict.set_of_notMem (Dict.get?_eq_none.mp habsent)]
    exact Dict.nodup_keys_set hpurged
  | _ => exact hpurged

theorem capped_processed : processed.1.length ≤ limits.maxRecords := by
  have hpurged : (purge (·.expired call.now) run.records).length ≤ limits.maxRecords :=
    (purge_sublist _).length_le.trans h.exact.capped
  cases hprocessed with
  | invalid hkey => exact h.exact.capped
  | new normalized hkey habsent record hrecord hnew => exact length_enforceCap_le _
  | _ => exact hpurged

theorem stored_processed {key : String} {record : IdeaProposalIntakeIdempotencyRecord}
    (hmem : (key, record) ∈ processed.1) :
    ∃ first ∈ run.answers ++ [{ call, outcome := processed.2 }], first.isNew = true ∧
      RecordOf limits digests first.call key record ∧
      first.intakeId? = some record.response.intakeId := by
  have hold : (key, record) ∈ run.records → ∃ first ∈ run.answers ++
      [({ call, outcome := processed.2 } : IntakeAnswer)], first.isNew = true ∧
        RecordOf limits digests first.call key record ∧
        first.intakeId? = some record.response.intakeId := by
    intro hmem
    obtain ⟨first, hfirst, hrest⟩ := h.stored key record hmem
    exact ⟨first, List.mem_append_left _ hfirst, hrest⟩
  cases hprocessed with
  | invalid hkey => exact hold hmem
  | new normalized hkey habsent record' hrecord hnew =>
    have hmem := (enforceCap_sublist _).subset hmem
    rcases List.mem_append.mp hmem with hmem | hmem
    · exact hold ((purge_sublist _).subset hmem)
    · obtain ⟨rfl, rfl⟩ := Prod.mk.inj (List.mem_singleton.mp hmem)
      refine ⟨_, List.mem_append_right _ List.mem_cons_self, ?_, hrecord, rfl⟩
      simp [IntakeAnswer.isNew, hnew]
  | _ => exact hold ((purge_sublist _).subset hmem)

omit h in
/-- An entry that stays fresh survives the call. -/
theorem held_processed {first : IntakeAnswer} {key : String}
    {record : IdeaProposalIntakeIdempotencyRecord} {younger : ℕ}
    (hrecord : RecordOf limits digests first.call key record)
    (hheld : Holds run.records key record younger)
    (hfresh : call.key.isSome → WithinTtl limits first { call, outcome := processed.2 })
    (hroom : younger + ([({ call, outcome := processed.2 } : IntakeAnswer)].filter
      IntakeAnswer.isNew).length < limits.maxRecords) :
    Holds processed.1 key record (younger +
      ([({ call, outcome := processed.2 } : IntakeAnswer)].filter IntakeAnswer.isNew).length) := by
  have hpurged : ∀ normalized, call.key = some normalized →
      Holds (purge (·.expired call.now) run.records) key record younger := by
    intro normalized hkey
    exact hheld.purge (hrecord.expired_eq_false_iff.mpr (hfresh (by rw [hkey]; rfl)))
  cases hprocessed with
  | invalid hkey => exact hheld.mono (Nat.le_add_right _ _)
  | overflow normalized hkey => exact (hpurged normalized hkey).mono (Nat.le_add_right _ _)
  | conflict normalized hkey => exact (hpurged normalized hkey).mono (Nat.le_add_right _ _)
  | replay normalized hkey => exact (hpurged normalized hkey).mono (Nat.le_add_right _ _)
  | new normalized hkey habsent record' hrecord' hnew =>
    have hcount : ([({ call, outcome := .ok record'.response } : IntakeAnswer)].filter
        IntakeAnswer.isNew).length = 1 := by
      simp [IntakeAnswer.isNew, hnew]
    rw [hcount] at hroom ⊢
    exact (hpurged normalized hkey).insert hroom _

omit h in
/-- The entry of a new call is there. -/
theorem held_new (hcap : 0 < limits.maxRecords)
    (hnew : IntakeAnswer.isNew { call, outcome := processed.2 } = true) :
    ∃ key record, RecordOf limits digests call key record ∧
      IntakeAnswer.intakeId? { call, outcome := processed.2 } = some record.response.intakeId ∧
      Holds processed.1 key record 0 := by
  cases hprocessed with
  | new normalized hkey habsent record hrecord hreplay =>
    exact ⟨_, record, hrecord, rfl, holds_inserted hcap _ _ _⟩
  | replay normalized hkey existing hexisting hsame response hreplay =>
    simp [IntakeAnswer.isNew, hreplay] at hnew
  | _ => cases hnew

/-- An entry that is held, and has stayed fresh, answers the call. -/
theorem replays_processed (hcalls : CollisionFree digests calls)
    (hrun : ∀ answer ∈ run.answers, answer.call ∈ calls) (hcall : call ∈ calls)
    {before between : List IntakeAnswer} {first : IntakeAnswer}
    (hsplit : run.answers = before ++ first :: between) (hfirst : first.isNew = true)
    (hscope : call.scope = first.call.scope) (hkey : call.key = first.call.key)
    (hfresh : StaysFresh limits first between { call, outcome := processed.2 })
    (hroom : (between.filter IntakeAnswer.isNew).length < limits.maxRecords) :
    AnsweredFrom first { call, outcome := processed.2 } := by
  have hbetween : ∀ other ∈ between, other.call.key.isSome → WithinTtl limits first other :=
    fun other hother => hfresh other (List.mem_append_left _ hother)
  obtain ⟨key, record, hrecord, hid, hheld⟩ :=
    h.held before first between hsplit hfirst hbetween hroom
  obtain ⟨normalized, hfirstKey, rfl⟩ := hrecord.key
  have hcallKey : call.key = some normalized := hkey.trans hfirstKey
  have hlast : WithinTtl limits first { call, outcome := processed.2 } :=
    hfresh _ (List.mem_append_right _ List.mem_cons_self) (by rw [hcallKey]; rfl)
  have hpurged := hheld.purge (hrecord.expired_eq_false_iff.mpr hlast)
  have hget := hpurged.get? (h.nodup.sublist ((purge_sublist _).map Prod.fst))
  rw [← registryKey_of_same hscope] at hget
  have hmem : first.call ∈ calls := by
    refine hrun first ?_
    rw [hsplit]
    exact List.mem_append_right _ List.mem_cons_self
  exact answeredFrom_of_record hcalls hmem hcall hrecord hid hprocessed hcallKey hget

/-- An answer out of the registry is one from a record of the scope and the key. -/
theorem own_processed (hcalls : CollisionFree digests calls)
    (hrun : ∀ answer ∈ run.answers, answer.call ∈ calls) (hcall : call ∈ calls)
    (hanswer : IntakeAnswer.fromRecord { call, outcome := processed.2 } = true) :
    ∃ first ∈ run.answers, first.isNew = true ∧ call.scope = first.call.scope ∧
      call.key = first.call.key ∧ WithinTtl limits first { call, outcome := processed.2 } ∧
      AnsweredFrom first { call, outcome := processed.2 } := by
  obtain ⟨normalized, existing, hkey, hexisting⟩ : ∃ normalized existing,
      call.key = some normalized ∧ Dict.get? (purge (·.expired call.now) run.records)
        (call.registryKey digests normalized) = some existing := by
    cases hprocessed with
    | conflict normalized hkey existing hexisting => exact ⟨normalized, existing, hkey, hexisting⟩
    | replay normalized hkey existing hexisting => exact ⟨normalized, existing, hkey, hexisting⟩
    | new normalized hkey habsent record hrecord hnew =>
      simp [IntakeAnswer.fromRecord, hnew] at hanswer
    | _ => cases hanswer
  obtain ⟨hmem, hfresh⟩ := List.mem_filter.mp (Dict.mem_of_get? hexisting)
  obtain ⟨first, hfirst, hnew, hrecord, hid⟩ := h.stored _ existing hmem
  obtain ⟨normalized', hfirstKey, hregistryKey⟩ := hrecord.key
  obtain ⟨hscope, rfl⟩ := same_of_registryKey hcalls hcall (hrun first hfirst) hkey hfirstKey
    hregistryKey
  refine ⟨first, hfirst, hnew, hscope, hkey.trans hfirstKey.symm, ?_, ?_⟩
  · exact hrecord.expired_eq_false_iff.mp (by simpa using hfresh)
  · exact answeredFrom_of_record hcalls (hrun first hfirst) hcall hrecord hid hprocessed hkey
      hexisting

end Answer

/-- Every call keeps the invariant. -/
theorem inv_answer (hcalls : CollisionFree digests calls)
    (hrun : ∀ answer ∈ run.answers, answer.call ∈ calls) (hcall : call ∈ calls)
    (h : run.Inv limits digests) : (run.answer limits digests call).Inv limits digests := by
  have hprocessed : Processed limits digests run.records call
      (processIdeaProposalIntake limits digests run.records call) :=
    processed_processIdeaProposalIntake run.records call
  unfold IntakeRun.answer
  dsimp only
  generalize processIdeaProposalIntake limits digests run.records call = processed at hprocessed ⊢
  refine ⟨nodup_processed h hprocessed, fun key record hmem => stored_processed h hprocessed hmem,
    ?_, ?_, ?_, capped_processed h hprocessed⟩
  · intro before first between hsplit hfirst hfresh hroom
    rcases split_concat hsplit with ⟨rfl, rfl, -⟩ | ⟨rest, rfl, hrest⟩
    · exact held_new hprocessed hroom hfirst
    · rw [List.filter_append, List.length_append] at hroom ⊢
      obtain ⟨key, record, hrecord, hid, hheld⟩ := h.held before first rest hrest hfirst
        (fun other hother => hfresh other (List.mem_append_left _ hother)) (by omega)
      have hlast : call.key.isSome → WithinTtl limits first { call, outcome := processed.2 } :=
        hfresh { call, outcome := processed.2 } (List.mem_append_right _ List.mem_cons_self)
      have hkept := held_processed hprocessed hrecord hheld hlast hroom
      exact ⟨key, record, hrecord, hid, hkept⟩
  · intro before first between answer after hsplit hfirst hscope hkey hfresh hroom
    rcases split_concat hsplit with ⟨rfl, rfl, hbefore⟩ | ⟨rest, rfl, hrest⟩
    · exact replays_processed h hprocessed hcalls hrun hcall hbefore.symm hfirst hscope hkey hfresh
        hroom
    · exact h.exact.replays before first between answer rest hrest hfirst hscope hkey hfresh hroom
  · intro before answer after hsplit hfromRecord
    rcases split_concat hsplit with ⟨rfl, rfl, rfl⟩ | ⟨rest, rfl, hrest⟩
    · exact own_processed h hprocessed hcalls hrun hcall hfromRecord
    · exact h.exact.own before answer rest hrest hfromRecord

theorem mem_calls_of_answers {answer : IntakeAnswer}
    (h : answer ∈ (intakeRun limits digests calls).answers) : answer.call ∈ calls := by
  induction calls using List.reverseRecOn with
  | nil => cases h
  | append_singleton calls call ih =>
    rw [intakeRun, List.foldl_append] at h
    rcases List.mem_append.mp h with h | h
    · exact List.mem_append_left _ (ih h)
    · rw [List.mem_singleton.mp h]
      exact List.mem_append_right _ List.mem_cons_self

/-- Intakes replay exactly, as long as no call in between comes later than the receipt expires. -/
theorem idea_intake_replays_exactly (limits : IntakeLimits) (digests : IntakeDigests)
    (calls : List IntakeCall) (hcalls : CollisionFree digests calls) :
    ReplaysExactly limits (intakeRun limits digests calls) := by
  have hinv : (intakeRun limits digests calls).Inv limits digests := by
    induction calls using List.reverseRecOn with
    | nil => exact inv_nil
    | append_singleton calls call ih =>
      have hearlier : calls ⊆ calls ++ [call] := List.subset_append_left _ _
      rw [intakeRun, List.foldl_append]
      exact inv_answer hcalls (fun answer hanswer => hearlier (mem_calls_of_answers hanswer))
        (List.mem_append_right _ List.mem_cons_self) (ih (hcalls.mono hearlier))
  exact hinv.exact

end Steps

namespace Sample

/-- Requests are told apart by their idea. -/
def intakeDigests : IntakeDigests where
  sha256 value :=
    let mark := match value with
      | .obj fields =>
        if JsonObject.get fields "idea_candidate_id" = .str "idea_2" then '2' else '1'
      | _ => '0'
    String.ofList (mark :: List.replicate 63 '0')
  textDigest text := text
  length_sha256 value := by
    rw [String.length_ofList, List.length_cons, List.length_replicate]

def evidenceRef (sourceId : String)
    (h : Text.strip sourceId = sourceId ∧ sourceId ≠ "" := by decide) : IdeaProposalSourceRef where
  sourceType := "IdeaCandidate"
  sourceId := sourceId
  contentHash := none
  trimmed := by
    simp only [Option.toList_none, List.forall_mem_cons, List.not_mem_nil, false_imp_iff,
      implies_true, and_true]
    exact ⟨by decide, h⟩

def ideaPrincipal : IdeaProposalIntakePrincipal where
  actorId := "svc-lotus-idea"
  role := "SERVICE"
  tenantId := "tenant_1"
  legalEntityCode := "SGPB"
  correlationId := "corr_1"
  serviceIdentity := "lotus-idea"

/-- An idea is handed over under a key. -/
def handOver (ideaCandidateId idempotencyKey : String) (sourceRefs : List IdeaProposalSourceRef)
    (receivedAt : DateTime) : IntakeCall where
  request :=
    { ideaCandidateId
      conversionIntentId := "intent_1"
      intentType := .reviewForAdvisoryProposal
      sourceRefs }
  correlationId := "corr_1"
  idempotencyKey := idempotencyKey
  principal := ideaPrincipal
  receivedAt := receivedAt

/-- The clock of the call in between is a day ahead. -/
def clockAhead : List IntakeCall := [
  handOver "idea_1" "key-1" [evidenceRef "a"] (DateTime.utc 2026 1 1 0 0 0 0),
  handOver "idea_1" "key-2" [evidenceRef "a"] (DateTime.utc 2026 1 2 0 0 0 0),
  handOver "idea_1" "key-1" [evidenceRef "a"] (DateTime.utc 2026 1 1 0 1 0 0)]

/-- An idea is handed over again with its references in another order, and then another one. -/
def replayAndConflict : List IntakeCall := [
  handOver "idea_1" "key-1" [evidenceRef "a", evidenceRef "b"] (DateTime.utc 2026 1 1 0 1 0 0),
  handOver "idea_1" "key-2" [evidenceRef "a", evidenceRef "b"] (DateTime.utc 2026 1 1 0 2 0 0),
  handOver "idea_1" " key-1" [evidenceRef "b", evidenceRef "a"] (DateTime.utc 2026 1 1 0 0 0 0),
  handOver "idea_2" "key-1" [evidenceRef "a", evidenceRef "b"] (DateTime.utc 2026 1 1 0 3 0 0)]

end Sample

open Sample in
/-- A call whose clock is ahead purges a receipt that is a minute old by the clock of the next. -/
theorem purged_by_clock_ahead : CollisionFree intakeDigests clockAhead ∧
    ¬ Replays {} (fun first _ answer => WithinTtl {} first answer)
      (intakeRun {} intakeDigests clockAhead).answers := by
  refine ⟨⟨by decide +kernel, by decide +kernel, by decide +kernel, by decide +kernel⟩, fun h => ?_⟩
  have hnew : (intakeRun {} intakeDigests clockAhead).answers.map IntakeAnswer.isNew =
      [true, true, true] := by decide +kernel
  have hcall : (intakeRun {} intakeDigests clockAhead).answers.map IntakeAnswer.call = clockAhead :=
    rfl
  obtain ⟨first, ahead, last, hanswers⟩ : ∃ first ahead last,
      (intakeRun {} intakeDigests clockAhead).answers = [first, ahead, last] := ⟨_, _, _, rfl⟩
  rw [hanswers] at h hnew hcall
  simp only [List.map_cons, List.map_nil, clockAhead, List.cons.injEq, and_true] at hnew hcall
  obtain ⟨hfirstNew, -, hlastNew⟩ := hnew
  obtain ⟨hfirst, -, hlast⟩ := hcall
  have hfresh : WithinTtl {} first last := by
    unfold WithinTtl
    rw [hfirst, hlast]
    decide +kernel
  have hcap : 1 < ideaProposalIntakeIdempotencyMaxRecords := by decide
  have hroom := (List.length_filter_le IntakeAnswer.isNew [ahead]).trans_lt hcap
  have hanswered := h [] first [ahead] last [] rfl hfirstNew (by rw [hfirst, hlast]; rfl)
    (by rw [hfirst, hlast]; rfl) hfresh hroom
  obtain ⟨response, hresponse, hreplay, -⟩ := hanswered.replay (by
    rw [hfirst, hlast]
    exact ⟨rfl, rfl, rfl, List.Perm.refl _⟩)
  simp [IntakeAnswer.isNew, hresponse, hreplay] at hlastNew

open Sample in
/-- The theorem at a replay and a conflict. -/
theorem idea_intake_replays_exactly_four :
    ReplaysExactly {} (intakeRun {} intakeDigests replayAndConflict) ∧
    (intakeRun {} intakeDigests replayAndConflict).answers.map IntakeAnswer.isNew =
      [true, true, false, false] ∧
    (intakeRun {} intakeDigests replayAndConflict).answers.map IntakeAnswer.fromRecord =
      [false, false, true, true] :=
  ⟨idea_intake_replays_exactly {} intakeDigests replayAndConflict
    ⟨by decide +kernel, by decide +kernel, by decide +kernel, by decide +kernel⟩,
    by decide +kernel, by decide +kernel⟩

end LotusAdvise.Proposals

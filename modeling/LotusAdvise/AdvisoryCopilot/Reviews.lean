import LotusAdvise.AdvisoryCopilot.RunWalk
import LotusAdvise.Foundations.CanonicalJson

/-! # Reviews of copilot runs

A reviewer reads a run, looks the key of the review up, appends the review, and puts the run back
with its new posture. Other reviews and calls that persist runs take their steps in between, and a
call may stop before any of its steps. Whatever they do, reviews are only appended, nobody reviews
what they have requested, and a decision that is stored has a review.
-/

namespace LotusAdvise.AdvisoryCopilot

open Runs Tables

/-! ## Calls -/

def CopilotReviewAction.text : CopilotReviewAction → String
  | approveForInternalUse => "APPROVE_FOR_INTERNAL_USE"
  | reject => "REJECT"
  | supersede => "SUPERSEDE"
  | expire => "EXPIRE"

def isTerminalReviewPosture : CopilotReviewPosture → Bool
  | .reviewRequired => false
  | .approvedForInternalUse | .rejected | .superseded | .expired => true
  | .unsupported | .guardrailRejected | .unavailable => true

structure CopilotReviewPrincipal where
  actorId : String
  role : String
  tenantId : String
  legalEntityCode : String
  correlationId : String
  serviceIdentity : String
  authorizedProposalId : Option String := none
  authorizedPortfolioId : Option String := none
deriving DecidableEq

def CopilotReviewPrincipal.auditMetadata (principal : CopilotReviewPrincipal) : JsonObject :=
  [("subject", .str principal.actorId),
    ("role", .str principal.role),
    ("tenant_id", .str principal.tenantId),
    ("legal_entity_code", .str principal.legalEntityCode),
    ("correlation_id", .str principal.correlationId),
    ("service_identity", .str principal.serviceIdentity),
    ("capability", .str "advisory.copilot.review")] ++
  (principal.authorizedProposalId.map fun id => ("authorized_proposal_id", .str id)).toList ++
  (principal.authorizedPortfolioId.map fun id => ("authorized_portfolio_id", .str id)).toList

/-- The arguments of `record_advisory_copilot_review`. -/
structure CopilotReviewCall where
  runId : String
  action : CopilotReviewAction
  principal : CopilotReviewPrincipal
  submittedActorId : Option String := none
  reason : JsonObject
  correlationId : String
  idempotencyKey : Option String := none
  now : DateTime
deriving DecidableEq

structure CopilotReviewResult where
  run : AdvisoryCopilotRunRecord
  review : AdvisoryCopilotReviewRecord
  replayed : Bool
deriving DecidableEq

def requireScope (authorized : Option String) (scope : String) : Except String Unit :=
  match authorized with
  | none => .error "COPILOT_REVIEW_SCOPE_REQUIRED"
  | some id => require (id = scope) "COPILOT_REVIEW_SCOPE_FORBIDDEN"

def validateCopilotReviewAuthority (principal : CopilotReviewPrincipal)
    (run : AdvisoryCopilotRunRecord) (submittedActorId : Option String) : Except String Unit := do
  require (∀ actorId ∈ submittedActorId, actorId = principal.actorId)
    "COPILOT_REVIEW_ACTOR_MISMATCH"
  requireScope principal.authorizedPortfolioId run.portfolioId
  match run.proposalId with
  | none => pure ()
  | some proposalId => requireScope principal.authorizedProposalId proposalId
  require (principal.tenantId = run.tenantId) "COPILOT_REVIEW_SCOPE_FORBIDDEN"
  require (principal.actorId ≠ run.createdBy) "COPILOT_REVIEW_MAKER_CHECKER_VIOLATION"

def reviewAuthorization (action : CopilotReviewAction) : JsonObject :=
  [("decision", .str "AUTHORIZED"),
    ("review_action", .str action.text),
    ("required_capability", .str "advisory.copilot.review"),
    ("authorized_roles",
      .ofTexts ["ADVISORY_SUPERVISOR", "COMPLIANCE_REVIEWER", "POLICY_CHECKER"]),
    ("maker_checker_required", .bool true),
    ("maker_checker_satisfied", .bool true),
    ("scope_decision", .str "AUTHORIZED")]

namespace CopilotReviewCall

variable (services : CopilotServices) (call : CopilotReviewCall)

def key : Option String := Proposals.normalizeOptionalIdempotencyKey call.idempotencyKey

/-- `copilot_review_audit_reason`. -/
def auditReason : JsonObject :=
  JsonObject.set (JsonObject.set call.reason "trusted_principal"
    (.obj call.principal.auditMetadata)) "review_authorization"
    (.obj (reviewAuthorization call.action))

def requestPayload : JsonObject :=
  [("run_id", .str call.runId),
    ("action", .str call.action.text),
    ("actor_id", .str call.principal.actorId),
    ("reason", .obj call.auditReason)]

def requestHash : String := canonicalJsonHash services (.obj call.requestPayload)

def reviewId : String := stableCopilotRecordId services "copilot_review" (call.requestHash services)

end CopilotReviewCall

def reviewRecordText : String → Except String String :=
  normalizeRequiredRecordText "COPILOT_REVIEW_RECORD_REQUIRED"

/-- `_build_review_record`. Identifiers and hashes are words, which a record keeps as they are. -/
def buildReviewRecord (services : CopilotServices) (call : CopilotReviewCall)
    (run : AdvisoryCopilotRunRecord) : Except String AdvisoryCopilotReviewRecord := do
  return {
    reviewId := call.reviewId services
    runId := run.runId
    action := call.action
    previousPosture := run.reviewPosture
    newPosture := reviewPostureForAction call.action
    actorId := ← reviewRecordText call.principal.actorId
    occurredAt := call.now
    reasonJson := call.auditReason
    requestHash := call.requestHash services
    idempotencyKey :=
      ← normalizeOptionalRecordText "COPILOT_REVIEW_RECORD_REQUIRED" call.key
    correlationId := ← reviewRecordText call.correlationId }

/-! ## The repository -/

namespace InMemoryCopilotRepository

variable (repository : InMemoryCopilotRepository)

/-- The reviews of a run in the order in which they were appended. -/
def reviewsOf (runId : String) : List AdvisoryCopilotReviewRecord :=
  (Dict.get? repository.reviews runId).getD []

def reviewIdempotencyOf (runId idempotencyKey : String) : Option String :=
  Dict.get? repository.reviewIdempotency (runId, idempotencyKey)

def getReviewByIdempotency (runId idempotencyKey : String) : Option AdvisoryCopilotReviewRecord :=
  (repository.reviewIdempotencyOf runId idempotencyKey).bind fun reviewId =>
    (repository.reviewsOf runId).find? fun review => review.reviewId = reviewId

def withReview (review : AdvisoryCopilotReviewRecord) : InMemoryCopilotRepository :=
  { repository with
    reviews := Dict.set repository.reviews review.runId
      (repository.reviewsOf review.runId ++ [review]) }

def bindReview (review : AdvisoryCopilotReviewRecord) (key : String) : InMemoryCopilotRepository :=
  { repository with
    reviewIdempotency :=
      Dict.set repository.reviewIdempotency (review.runId, key) review.reviewId }

/-- A review that is there already is not appended, and binds no key. -/
def appendReview (review : AdvisoryCopilotReviewRecord) :
    Except String InMemoryCopilotRepository :=
  if ∃ existing ∈ repository.reviewsOf review.runId, existing.reviewId = review.reviewId then
    .ok repository
  else match review.idempotencyKey with
  | none => .ok (repository.withReview review)
  | some key =>
    if ∃ id ∈ repository.reviewIdempotencyOf review.runId key, id ≠ review.reviewId then
      .error "COPILOT_REVIEW_IDEMPOTENCY_KEY_CONFLICT"
    else .ok ((repository.bindReview review key).withReview review)

end InMemoryCopilotRepository

/-! ## Steps -/

/-- Where a call of `record_advisory_copilot_review` stands: before which repository step. -/
inductive ReviewPhase where
  | reading (call : CopilotReviewCall)
  | lookingUp (call : CopilotReviewCall) (key : String) (run : AdvisoryCopilotRunRecord)
  | loading (call : CopilotReviewCall) (existing : AdvisoryCopilotReviewRecord)
  | appending (review : AdvisoryCopilotReviewRecord) (updated : AdvisoryCopilotRunRecord)
  | updating (review : AdvisoryCopilotReviewRecord) (updated : AdvisoryCopilotRunRecord)
  | finished (answer : Except String CopilotReviewResult)

namespace ReviewPhase

section Steps

variable (services : CopilotServices)

def start (call : CopilotReviewCall) : ReviewPhase :=
  match services.unsafePayload (.obj call.reason) with
  | some error => .finished (.error error)
  | none => .reading call

/-- A review that its key does not resolve is recorded. -/
def withoutReplay (call : CopilotReviewCall) (run : AdvisoryCopilotRunRecord) : ReviewPhase :=
  if isTerminalReviewPosture run.reviewPosture = true then
    .finished (.error "COPILOT_RUN_REVIEW_POSTURE_TERMINAL")
  else match buildReviewRecord services call run with
  | .error error => .finished (.error error)
  | .ok review => .appending review (runWithReviewPosture run call.action call.now)

def afterRead (call : CopilotReviewCall) (run : AdvisoryCopilotRunRecord) : ReviewPhase :=
  match validateCopilotReviewAuthority call.principal run call.submittedActorId with
  | .error error => .finished (.error error)
  | .ok _ =>
    match call.key with
    | none => withoutReplay services call run
    | some key => .lookingUp call key run

/-- One repository step of a call. -/
def advance (s : InMemoryCopilotRepository) : ReviewPhase → InMemoryCopilotRepository × ReviewPhase
  | reading call =>
    match s.getRun call.runId with
    | none => (s, finished (.error "COPILOT_RUN_NOT_FOUND"))
    | some run => (s, afterRead services call run)
  | lookingUp call key run =>
    match s.getReviewByIdempotency call.runId key with
    | none => (s, withoutReplay services call run)
    | some existing =>
      if existing.requestHash ≠ call.requestHash services then
        (s, finished (.error "COPILOT_REVIEW_IDEMPOTENCY_KEY_CONFLICT"))
      else (s, loading call existing)
  | loading call existing =>
    match s.getRun call.runId with
    | none => (s, finished (.error "COPILOT_REVIEW_RECORD_ORPHANED"))
    | some run => (s, finished (.ok ⟨run, existing, true⟩))
  | appending review updated =>
    match s.appendReview review with
    | .error error => (s, finished (.error error))
    | .ok s' => (s', updating review updated)
  | updating review updated =>
    match s.updateRun updated with
    | .error error => (s, finished (.error error))
    | .ok s' => (s', finished (.ok ⟨updated, review, false⟩))
  | finished answer => (s, finished answer)

end Steps

end ReviewPhase

inductive ReviewThread where
  | persisting (phase : PersistPhase)
  | reviewing (phase : ReviewPhase)

inductive ReviewLabel where
  | persist (call : CopilotRunCall)
  | review (call : CopilotReviewCall)
  | advance (index : ℕ)

/-- The repository and the calls under way. A call that has stopped takes no more steps. -/
structure ReviewedRuns where
  store : InMemoryCopilotRepository := {}
  threads : List ReviewThread := []

namespace ReviewedRuns

variable (services : CopilotServices) (state : ReviewedRuns)

def step : ReviewLabel → Option ReviewedRuns
  | .persist call =>
    some { state with
      threads := state.threads ++ [.persisting (PersistPhase.start services call)] }
  | .review call =>
    some { state with
      threads := state.threads ++ [.reviewing (ReviewPhase.start services call)] }
  | .advance index =>
    match state.threads[index]? with
    | none => none
    | some (.persisting phase) =>
      let advanced := PersistPhase.advance inMemoryRuns services state.store phase
      some ⟨advanced.1, state.threads.set index (.persisting advanced.2)⟩
    | some (.reviewing phase) =>
      let advanced := ReviewPhase.advance services state.store phase
      some ⟨advanced.1, state.threads.set index (.reviewing advanced.2)⟩

end ReviewedRuns

def persistCalls (labels : List ReviewLabel) : List CopilotRunCall :=
  labels.filterMap fun label =>
    match label with
    | .persist call => some call
    | _ => none

def reviewCalls (labels : List ReviewLabel) : List CopilotReviewCall :=
  labels.filterMap fun label =>
    match label with
    | .review call => some call
    | _ => none

/-! ## What is stated -/

/-- No two different requests share an identifier. -/
structure WellIdentified (services : CopilotServices) (labels : List ReviewLabel) : Prop where
  runs : ∀ a ∈ persistCalls labels, ∀ b ∈ persistCalls labels,
    runIdOf services (a.requestHash services) = runIdOf services (b.requestHash services) →
      (Json.obj (buildAdvisoryCopilotRunRequestSummary services a)).canonical =
        (Json.obj (buildAdvisoryCopilotRunRequestSummary services b)).canonical
  reviews : ∀ a ∈ reviewCalls labels, ∀ b ∈ reviewCalls labels,
    a.reviewId services = b.reviewId services →
      (Json.obj a.requestPayload).canonical = (Json.obj b.requestPayload).canonical

/-- The call that drafted a run with its posture. -/
def Drafted (services : CopilotServices) (calls : List CopilotRunCall)
    (run : AdvisoryCopilotRunRecord) : Prop :=
  ∃ call ∈ calls, run.runId = runIdOf services (call.requestHash services) ∧
    run.reviewPosture = reviewPostureFromDraftStatus call.draftStatus

/-- What the stored reviews and runs say about each other. -/
structure Accountable (services : CopilotServices) (labels : List ReviewLabel)
    (state : ReviewedRuns) : Prop where
  distinct : ∀ runId,
    ((state.store.reviewsOf runId).map AdvisoryCopilotReviewRecord.reviewId).Nodup
  decides : ∀ runId, ∀ review ∈ state.store.reviewsOf runId, review.runId = runId ∧
    review.previousPosture = .reviewRequired ∧
    review.newPosture = reviewPostureForAction review.action
  /-- The actor is compared as the principal names it, and is stored normalized. -/
  makerChecker : ∀ run ∈ state.store.runs, ∀ review ∈ state.store.reviewsOf run.runId,
    ∃ call ∈ reviewCalls labels, review.reviewId = call.reviewId services ∧
      review.actorId = normalizeRecordText call.principal.actorId ∧
      call.principal.actorId ≠ run.createdBy
  evidenced : ∀ run ∈ state.store.runs, Drafted services (persistCalls labels) run ∨
    ∃ review ∈ state.store.reviewsOf run.runId, review.newPosture = run.reviewPosture
  bound : ∀ runId key id, state.store.reviewIdempotencyOf runId key = some id →
    ∃ review ∈ state.store.reviewsOf runId,
      review.reviewId = id ∧ review.idempotencyKey = some key
  answered : ∀ result, .reviewing (.finished (.ok result)) ∈ state.threads →
    ∃ review ∈ state.store.reviewsOf result.review.runId,
      review.reviewId = result.review.reviewId ∧ review.action = result.review.action

/-- Reviews and keys are still as they were. -/
structure KeepsReviews (earlier later : InMemoryCopilotRepository) : Prop where
  reviews : ∀ runId, earlier.reviewsOf runId <+: later.reviewsOf runId
  keys : ∀ runId key id, earlier.reviewIdempotencyOf runId key = some id →
    later.reviewIdempotencyOf runId key = some id

section Repository

variable {s s' s'' : InMemoryCopilotRepository} {review : AdvisoryCopilotReviewRecord}
  {runId : String}

theorem KeepsReviews.refl : KeepsReviews s s := ⟨fun _ => List.prefix_rfl, fun _ _ _ h => h⟩

theorem KeepsReviews.trans (h : KeepsReviews s s') (h' : KeepsReviews s' s'') :
    KeepsReviews s s'' :=
  ⟨fun runId => (h.reviews runId).trans (h'.reviews runId),
    fun runId key id hbound => h'.keys runId key id (h.keys runId key id hbound)⟩

namespace InMemoryCopilotRepository

/-- The same reviews and keys. -/
def SameReviews (s s' : InMemoryCopilotRepository) : Prop :=
  s'.reviews = s.reviews ∧ s'.reviewIdempotency = s.reviewIdempotency

theorem SameReviews.reviewsOf_eq (h : SameReviews s s') :
    s'.reviewsOf runId = s.reviewsOf runId := by
  rw [reviewsOf, reviewsOf, h.1]

theorem SameReviews.reviewIdempotencyOf_eq (h : SameReviews s s') {key : String} :
    s'.reviewIdempotencyOf runId key = s.reviewIdempotencyOf runId key := by
  rw [reviewIdempotencyOf, reviewIdempotencyOf, h.2]

theorem SameReviews.keeps (h : SameReviews s s') : KeepsReviews s s' where
  reviews _ := h.reviewsOf_eq ▸ List.prefix_rfl
  keys _ _ _ hbound := h.reviewIdempotencyOf_eq.trans hbound

theorem sameReviews_of_save {run saved : AdvisoryCopilotRunRecord}
    {idempotency : Option AdvisoryCopilotRunIdempotencyRecord}
    (h : s.saveRunWithIdempotency run idempotency = .ok (s', saved)) : SameReviews s s' := by
  unfold saveRunWithIdempotency at h
  split at h <;> cases h
  · exact ⟨rfl, rfl⟩
  · exact ⟨rfl, rfl⟩

theorem sameReviews_of_update {run : AdvisoryCopilotRunRecord} (h : s.updateRun run = .ok s') :
    SameReviews s s' := by
  unfold updateRun at h
  split at h
  · cases h
  · cases h
    exact ⟨rfl, rfl⟩

/-- A saved run binds at most the key that came with it. -/
theorem runIdempotency_of_save {run saved : AdvisoryCopilotRunRecord}
    {idempotency : Option AdvisoryCopilotRunIdempotencyRecord}
    (h : s.saveRunWithIdempotency run idempotency = .ok (s', saved))
    {record : AdvisoryCopilotRunIdempotencyRecord} (hrecord : record ∈ s'.runIdempotency) :
    record ∈ s.runIdempotency ∨ record ∈ idempotency := by
  unfold saveRunWithIdempotency at h
  split at h
  · cases h
  · cases h
    exact .inl hrecord
  · cases h
    cases idempotency with
    | none => exact .inl hrecord
    | some bound => exact (mem_upsert hrecord).symm.imp id fun heq => Option.mem_some.mpr heq.symm

theorem runIdempotency_of_update {run : AdvisoryCopilotRunRecord} (h : s.updateRun run = .ok s') :
    s'.runIdempotency = s.runIdempotency := by
  unfold updateRun at h
  split at h
  · cases h
  · cases h
    rfl

theorem reviewsOf_withReview : (s.withReview review).reviewsOf runId =
    if review.runId = runId then s.reviewsOf runId ++ [review] else s.reviewsOf runId := by
  rw [reviewsOf, withReview, Dict.get?_set]
  split
  · next h => rw [h, Option.getD_some]
  · rfl

theorem reviewIdempotencyOf_bindReview {key other : String} :
    (s.bindReview review key).reviewIdempotencyOf runId other =
      if (review.runId, key) = (runId, other) then some review.reviewId
      else s.reviewIdempotencyOf runId other :=
  Dict.get?_set

/-- What an append does: nothing when the review is there, else it adds the review and binds its
key, which was free or bound to the review. -/
theorem appendReview_cases (h : s.appendReview review = .ok s') :
    ((∃ existing ∈ s.reviewsOf review.runId, existing.reviewId = review.reviewId) ∧ s' = s) ∨
    (∀ existing ∈ s.reviewsOf review.runId, existing.reviewId ≠ review.reviewId) ∧
      s'.runs = s.runs ∧ s'.runIdempotency = s.runIdempotency ∧
      (∀ runId, s'.reviewsOf runId =
        if review.runId = runId then s.reviewsOf runId ++ [review] else s.reviewsOf runId) ∧
      (∀ runId key, s'.reviewIdempotencyOf runId key =
        if review.runId = runId ∧ review.idempotencyKey = some key then some review.reviewId
        else s.reviewIdempotencyOf runId key) ∧
      ∀ key id, review.idempotencyKey = some key →
        s.reviewIdempotencyOf review.runId key = some id → id = review.reviewId := by
  unfold appendReview at h
  split at h
  · next hthere =>
    cases h
    exact .inl ⟨hthere, rfl⟩
  · next hnew =>
    have hnew : ∀ existing ∈ s.reviewsOf review.runId, existing.reviewId ≠ review.reviewId :=
      fun existing hexisting heq => hnew ⟨existing, hexisting, heq⟩
    refine .inr ⟨hnew, ?_⟩
    split at h
    · next hkey =>
      cases h
      refine ⟨rfl, rfl, fun _ => reviewsOf_withReview, fun runId key => ?_, fun key id hkey' => ?_⟩
      · rw [if_neg]
        · rfl
        · rintro ⟨-, hkey'⟩
          rw [hkey] at hkey'
          cases hkey'
      · rw [hkey] at hkey'
        cases hkey'
    · next key hkey =>
      split at h
      · cases h
      · next hfree =>
        cases h
        refine ⟨rfl, rfl, fun _ => reviewsOf_withReview, fun runId other => ?_,
          fun other id hother hbound => ?_⟩
        · refine reviewIdempotencyOf_bindReview.trans (if_congr ?_ rfl rfl)
          rw [Prod.mk.injEq, hkey, Option.some.injEq]
        · obtain rfl := Option.some_injective _ (hkey.symm.trans hother)
          exact not_not.mp fun hne => hfree ⟨id, hbound, hne⟩

theorem keepsReviews_of_append (h : s.appendReview review = .ok s') : KeepsReviews s s' := by
  rcases appendReview_cases h with ⟨-, rfl⟩ | ⟨-, -, -, hreviews, hkeys, hbound⟩
  · exact KeepsReviews.refl
  · refine ⟨fun runId => ?_, fun runId key id hid => ?_⟩
    · rw [hreviews]
      split
      · exact List.prefix_append _ _
      · exact List.prefix_rfl
    · rw [hkeys]
      split
      · next heq =>
        obtain ⟨rfl, hkey⟩ := heq
        rw [hbound key id hkey hid]
      · exact hid

end InMemoryCopilotRepository

end Repository

/-! ## The invariant -/

section Invariant

variable (services : CopilotServices) (labels : List ReviewLabel)

/-- The creator of a run is the one of the call that it answers. -/
def OwnRun (run : AdvisoryCopilotRunRecord) : Prop :=
  ∃ call ∈ persistCalls labels, run.runId = runIdOf services (call.requestHash services) ∧
    runRecordText call.requestedBy = .ok run.createdBy

/-- A decision of someone who has requested no run with the identifier of the run. -/
structure SoundReview (review : AdvisoryCopilotReviewRecord) : Prop where
  previousPosture : review.previousPosture = .reviewRequired
  newPosture : review.newPosture = reviewPostureForAction review.action
  asked : ∃ call ∈ reviewCalls labels, review.reviewId = call.reviewId services ∧
    review.action = call.action ∧ review.actorId = normalizeRecordText call.principal.actorId ∧
    ∀ run, OwnRun services labels run → run.runId = review.runId →
      call.principal.actorId ≠ run.createdBy

/-- A review with the identifier and the action of the given one is stored. -/
def Kept (s : InMemoryCopilotRepository) (review : AdvisoryCopilotReviewRecord) : Prop :=
  ∃ stored ∈ s.reviewsOf review.runId,
    stored.reviewId = review.reviewId ∧ stored.action = review.action

structure SoundStore (s : InMemoryCopilotRepository) : Prop where
  own : ∀ run ∈ s.runs, OwnRun services labels run
  evidenced : ∀ run ∈ s.runs, Drafted services (persistCalls labels) run ∨
    ∃ review ∈ s.reviewsOf run.runId, review.newPosture = run.reviewPosture
  idempotency : ∀ record ∈ s.runIdempotency, record.runId = runIdOf services record.requestHash
  distinct : ∀ runId, ((s.reviewsOf runId).map AdvisoryCopilotReviewRecord.reviewId).Nodup
  reviews : ∀ runId, ∀ review ∈ s.reviewsOf runId, review.runId = runId ∧
    SoundReview services labels review
  bound : ∀ runId key id, s.reviewIdempotencyOf runId key = some id →
    ∃ review ∈ s.reviewsOf runId, review.reviewId = id ∧ review.idempotencyKey = some key

/-- What a call has in hand, before each of its repository steps. -/
def PersistPhase.SoundFor : PersistPhase → Prop
  | .lookingUp _ call => call ∈ persistCalls labels
  | .loading call existing => call ∈ persistCalls labels ∧
      existing.runId = runIdOf services (call.requestHash services)
  | .refreshing _ run => OwnRun services labels run ∧ Drafted services (persistCalls labels) run
  | .saving run idempotency =>
      (OwnRun services labels run ∧ Drafted services (persistCalls labels) run) ∧
        ∀ record ∈ idempotency, record.runId = runIdOf services record.requestHash
  | .finished _ => True

def ReviewPhase.SoundFor (s : InMemoryCopilotRepository) : ReviewPhase → Prop
  | .reading call => call ∈ reviewCalls labels
  | .lookingUp call _ run => call ∈ reviewCalls labels ∧ OwnRun services labels run ∧
      call.principal.actorId ≠ run.createdBy
  | .loading call existing => existing ∈ s.reviewsOf call.runId
  | .appending review updated => SoundReview services labels review ∧
      OwnRun services labels updated ∧ updated.runId = review.runId ∧
      updated.reviewPosture = reviewPostureForAction review.action
  | .updating review updated => Kept s review ∧ OwnRun services labels updated ∧
      updated.runId = review.runId ∧ updated.reviewPosture = reviewPostureForAction review.action
  | .finished (.ok result) => Kept s result.review
  | .finished (.error _) => True

def ReviewThread.SoundFor (s : InMemoryCopilotRepository) : ReviewThread → Prop
  | .persisting phase => phase.SoundFor services labels
  | .reviewing phase => phase.SoundFor services labels s

structure ReviewedRuns.Inv (state : ReviewedRuns) : Prop where
  store : SoundStore services labels state.store
  threads : ∀ thread ∈ state.threads, thread.SoundFor services labels state.store

variable {services labels} {s s' : InMemoryCopilotRepository}
  {run run' : AdvisoryCopilotRunRecord} {review : AdvisoryCopilotReviewRecord}

theorem requestedBy_eq {a b : CopilotRunCall}
    (h : (Json.obj (buildAdvisoryCopilotRunRequestSummary services a)).canonical =
      (Json.obj (buildAdvisoryCopilotRunRequestSummary services b)).canonical) :
    a.requestedBy = b.requestedBy := by
  have hvalues := Json.canonical_values_eq h rfl
    (by simp [buildAdvisoryCopilotRunRequestSummary])
  have hvalue := congrArg (fun values => values[7]?) hvalues
  exact Json.str.inj (Option.some_injective _ hvalue)

theorem action_text_eq {a b : CopilotReviewCall}
    (h : (Json.obj a.requestPayload).canonical = (Json.obj b.requestPayload).canonical) :
    a.action.text = b.action.text := by
  have hvalues := Json.canonical_values_eq h rfl (by simp [CopilotReviewCall.requestPayload])
  have hvalue := congrArg (fun values => values[1]?) hvalues
  exact Json.str.inj (Option.some_injective _ hvalue)

theorem CopilotReviewAction.text_injective : Function.Injective CopilotReviewAction.text := by
  intro a b h
  cases a <;> cases b <;> simp_all [text]

/-- The runs of one identifier have one creator. -/
theorem OwnRun.createdBy_eq (hid : WellIdentified services labels) (h : OwnRun services labels run)
    (h' : OwnRun services labels run') (heq : run.runId = run'.runId) :
    run.createdBy = run'.createdBy := by
  obtain ⟨a, ha, haId, haText⟩ := h
  obtain ⟨b, hb, hbId, hbText⟩ := h'
  have hsame := hid.runs a ha b hb (haId.symm.trans (heq.trans hbId))
  rw [requestedBy_eq hsame] at haText
  exact Except.ok.inj (haText.symm.trans hbText)

/-- The reviews of one identifier have one action. -/
theorem SoundReview.action_eq (hid : WellIdentified services labels)
    {other : AdvisoryCopilotReviewRecord} (h : SoundReview services labels review)
    (h' : SoundReview services labels other) (heq : review.reviewId = other.reviewId) :
    review.action = other.action := by
  obtain ⟨a, ha, haId, haAction, -⟩ := h.asked
  obtain ⟨b, hb, hbId, hbAction, -⟩ := h'.asked
  have hsame := hid.reviews a ha b hb (haId.symm.trans (heq.trans hbId))
  rw [haAction, hbAction]
  exact CopilotReviewAction.text_injective (action_text_eq hsame)

theorem Kept.keeps (h : Kept s review) (hkeeps : KeepsReviews s s') : Kept s' review := by
  obtain ⟨stored, hstored, heq⟩ := h
  exact ⟨stored, (hkeeps.reviews _).subset hstored, heq⟩

theorem ReviewThread.SoundFor.keeps {thread : ReviewThread} (h : thread.SoundFor services labels s)
    (hkeeps : KeepsReviews s s') : thread.SoundFor services labels s' := by
  match thread, h with
  | .persisting _, h => exact h
  | .reviewing (.reading _), h => exact h
  | .reviewing (.lookingUp ..), h => exact h
  | .reviewing (.loading ..), h => exact (hkeeps.reviews _).subset h
  | .reviewing (.appending ..), h => exact h
  | .reviewing (.updating ..), h => exact ⟨h.1.keeps hkeeps, h.2⟩
  | .reviewing (.finished (.ok _)), h => exact Kept.keeps h hkeeps
  | .reviewing (.finished (.error _)), _ => trivial

/-! ## Steps of a call that persists a run -/

theorem createdBy_of_build {call : CopilotRunCall} (h : buildRunRecord services call = .ok run) :
    runRecordText call.requestedBy = .ok run.createdBy := by
  obtain ⟨texts, htexts, rfl⟩ := map_eq_ok.mp h
  simp only [runRecordTexts, bind_eq_ok] at htexts
  -- the creator is the sixth of nineteen parts
  obtain ⟨_, _, _, _, _, _, _, _, _, _, createdBy, hcreatedBy, htexts⟩ := htexts
  obtain ⟨_, _, _, _, _, _, _, _, _, _, _, _, htexts⟩ := htexts
  obtain ⟨_, _, _, _, _, _, _, _, _, _, _, _, _, _, htexts⟩ := htexts
  cases htexts
  exact hcreatedBy

theorem sound_built {call : CopilotRunCall} (hcall : call ∈ persistCalls labels)
    (h : buildRunRecord services call = .ok run) :
    OwnRun services labels run ∧ Drafted services (persistCalls labels) run := by
  obtain ⟨hid, -, hposture⟩ := buildRunRecord_eq_ok h
  exact ⟨⟨call, hcall, hid, createdBy_of_build h⟩, call, hcall, hid, hposture⟩

theorem soundFor_withoutExistingRun {call : CopilotRunCall} (hcall : call ∈ persistCalls labels) :
    (PersistPhase.withoutExistingRun services call).SoundFor services labels := by
  unfold PersistPhase.withoutExistingRun
  split
  · trivial
  · trivial
  · next run idempotency hrun hidempotency =>
    refine ⟨sound_built hcall hrun, fun record hrecord => ?_⟩
    rw [Option.mem_def.mp hrecord] at hidempotency
    obtain ⟨hid, hhash⟩ := runIdempotencyRecord_eq_ok hidempotency
    rw [hid, hhash]

theorem soundFor_handleExistingRun {call : CopilotRunCall} (hcall : call ∈ persistCalls labels)
    (hrun : run.runId = runIdOf services (call.requestHash services)) :
    (PersistPhase.handleExistingRun services call run).SoundFor services labels := by
  unfold PersistPhase.handleExistingRun
  split
  · trivial
  · next incoming hincoming =>
    split
    · have hcreatedBy := createdBy_of_build hincoming
      have hposture := (buildRunRecord_eq_ok hincoming).2.2
      exact ⟨⟨call, hcall, hrun, hcreatedBy⟩, call, hcall, hrun, hposture⟩
    · trivial

theorem soundFor_persist {call : CopilotRunCall} (hcall : call ∈ persistCalls labels) :
    (PersistPhase.start services call).SoundFor services labels := by
  unfold PersistPhase.start
  split
  · trivial
  · split
    · exact soundFor_withoutExistingRun hcall
    · exact hcall

/-- A change of the runs alone. -/
theorem SoundStore.of_runs (h : SoundStore services labels s)
    (hsame : InMemoryCopilotRepository.SameReviews s s')
    (hruns : ∀ run ∈ s'.runs, run ∈ s.runs ∨ OwnRun services labels run ∧
      (Drafted services (persistCalls labels) run ∨
        ∃ review ∈ s.reviewsOf run.runId, review.newPosture = run.reviewPosture))
    (hidempotency : ∀ record ∈ s'.runIdempotency,
      record.runId = runIdOf services record.requestHash) :
    SoundStore services labels s' where
  own run hrun := (hruns run hrun).elim (h.own run) And.left
  evidenced run hrun := by
    rw [hsame.reviewsOf_eq]
    exact (hruns run hrun).elim (h.evidenced run) And.right
  idempotency := hidempotency
  distinct runId := by
    rw [hsame.reviewsOf_eq]
    exact h.distinct runId
  reviews runId := by
    rw [hsame.reviewsOf_eq]
    exact h.reviews runId
  bound runId key id hid := by
    rw [hsame.reviewIdempotencyOf_eq] at hid
    rw [hsame.reviewsOf_eq]
    exact h.bound runId key id hid

/-- A run is put back in its place. -/
theorem SoundStore.update (h : SoundStore services labels s) (hown : OwnRun services labels run)
    (hevidenced : Drafted services (persistCalls labels) run ∨
      ∃ review ∈ s.reviewsOf run.runId, review.newPosture = run.reviewPosture)
    (hupdate : s.updateRun run = .ok s') : SoundStore services labels s' := by
  refine h.of_runs (InMemoryCopilotRepository.sameReviews_of_update hupdate)
    (fun other hother => ?_) fun record hrecord => ?_
  · rw [inMemory_runs_of_update hupdate] at hother
    obtain ⟨stored, hstored, rfl⟩ := List.mem_map.mp hother
    split
    · exact .inr ⟨hown, hevidenced⟩
    · exact .inl hstored
  · rw [InMemoryCopilotRepository.runIdempotency_of_update hupdate] at hrecord
    exact h.idempotency record hrecord

theorem SoundStore.save (h : SoundStore services labels s) (hown : OwnRun services labels run)
    (hdrafted : Drafted services (persistCalls labels) run) {saved : AdvisoryCopilotRunRecord}
    {idempotency : Option AdvisoryCopilotRunIdempotencyRecord}
    (hidempotency : ∀ record ∈ idempotency, record.runId = runIdOf services record.requestHash)
    (hsave : s.saveRunWithIdempotency run idempotency = .ok (s', saved)) :
    SoundStore services labels s' := by
  refine h.of_runs (InMemoryCopilotRepository.sameReviews_of_save hsave)
    (fun other hother => ?_) fun record hrecord => ?_
  · rcases inMemory_runs_of_save hsave with hruns | ⟨-, hruns⟩
    · exact .inl (hruns ▸ hother)
    · rw [hruns] at hother
      rcases List.mem_append.mp hother with hother | hother
      · exact .inl hother
      · rw [List.mem_singleton.mp hother]
        exact .inr ⟨hown, .inl hdrafted⟩
  · exact (InMemoryCopilotRepository.runIdempotency_of_save hsave hrecord).elim
      (h.idempotency record) (hidempotency record)

/-- A step of a call that persists a run. -/
theorem sound_persist (h : SoundStore services labels s) {phase : PersistPhase}
    (hphase : phase.SoundFor services labels) :
    SoundStore services labels (phase.advance inMemoryRuns services s).1 ∧
      KeepsReviews s (phase.advance inMemoryRuns services s).1 ∧
      (phase.advance inMemoryRuns services s).2.SoundFor services labels := by
  cases phase with
  | lookingUp key call =>
    rw [PersistPhase.advance]
    split
    · exact ⟨h, KeepsReviews.refl, soundFor_withoutExistingRun hphase⟩
    · next existing hexisting =>
      split
      · exact ⟨h, KeepsReviews.refl, trivial⟩
      · next hhash =>
        have hid := h.idempotency existing (lookup_some hexisting).1
        exact ⟨h, KeepsReviews.refl, hphase, not_not.mp hhash ▸ hid⟩
  | loading call existing =>
    rw [PersistPhase.advance]
    split
    · exact ⟨h, KeepsReviews.refl, trivial⟩
    · next run hrun =>
      have hid : run.runId = existing.runId := (lookup_some hrun).2
      exact ⟨h, KeepsReviews.refl, soundFor_handleExistingRun hphase.1 (hid.trans hphase.2)⟩
  | refreshing existing refreshed =>
    rw [PersistPhase.advance]
    split
    · exact ⟨h, KeepsReviews.refl, trivial⟩
    · next updated hupdate =>
      exact ⟨h.update hphase.1 (.inl hphase.2) hupdate,
        (InMemoryCopilotRepository.sameReviews_of_update hupdate).keeps, trivial⟩
  | saving run idempotency =>
    rw [PersistPhase.advance]
    split
    · exact ⟨h, KeepsReviews.refl, trivial⟩
    · next updated saved hsave =>
      exact ⟨h.save hphase.1.1 hphase.1.2 hphase.2 hsave,
        (InMemoryCopilotRepository.sameReviews_of_save hsave).keeps, trivial⟩
  | finished answer => exact ⟨h, KeepsReviews.refl, trivial⟩

/-! ## Steps of a review -/

theorem eq_of_normalizeRequired {error value text : String}
    (h : normalizeRequiredRecordText error value = .ok text) :
    text = normalizeRecordText value := by
  unfold normalizeRequiredRecordText at h
  split at h
  · cases h
  · exact (Except.ok.inj h).symm

theorem buildReviewRecord_eq_ok {call : CopilotReviewCall}
    (h : buildReviewRecord services call run = .ok review) :
    review.reviewId = call.reviewId services ∧ review.runId = run.runId ∧
      review.action = call.action ∧ review.previousPosture = run.reviewPosture ∧
      review.newPosture = reviewPostureForAction call.action ∧
      review.actorId = normalizeRecordText call.principal.actorId := by
  simp only [buildReviewRecord, bind_eq_ok] at h
  obtain ⟨actorId, hactorId, _, _, _, _, h⟩ := h
  cases h
  exact ⟨rfl, rfl, rfl, rfl, rfl, eq_of_normalizeRequired hactorId⟩

/-- Only a run that waits for a review can be reviewed. -/
theorem reviewRequired_of_not_terminal {posture : CopilotReviewPosture}
    (h : ¬ isTerminalReviewPosture posture = true) : posture = .reviewRequired := by
  cases posture <;> simp_all [isTerminalReviewPosture]

theorem soundFor_withoutReplay (hid : WellIdentified services labels) {call : CopilotReviewCall}
    (hcall : call ∈ reviewCalls labels) (hown : OwnRun services labels run)
    (hactor : call.principal.actorId ≠ run.createdBy) :
    (ReviewPhase.withoutReplay services call run).SoundFor services labels s := by
  unfold ReviewPhase.withoutReplay
  split
  · trivial
  · next hposture =>
    split
    · trivial
    · next review hreview =>
      obtain ⟨hreviewId, hrunId, haction, hprevious, hnew, hactorId⟩ :=
        buildReviewRecord_eq_ok hreview
      refine ⟨⟨hprevious.trans (reviewRequired_of_not_terminal hposture), haction ▸ hnew, call,
        hcall, hreviewId, haction, hactorId, fun other hother heq => ?_⟩, hown, hrunId.symm, ?_⟩
      · rw [hother.createdBy_eq hid hown (heq.trans hrunId)]
        exact hactor
      · rw [haction]
        rfl

theorem actor_ne_of_validate {principal : CopilotReviewPrincipal} {submitted : Option String}
    {u : Unit} (h : validateCopilotReviewAuthority principal run submitted = .ok u) :
    principal.actorId ≠ run.createdBy := by
  unfold validateCopilotReviewAuthority at h
  obtain ⟨_, _, h⟩ := bind_eq_ok.mp h
  obtain ⟨_, _, h⟩ := bind_eq_ok.mp h
  split at h
  · obtain ⟨_, _, h⟩ := bind_eq_ok.mp h
    exact require_eq_ok.mp h
  · obtain ⟨_, _, h⟩ := bind_eq_ok.mp h
    obtain ⟨_, _, h⟩ := bind_eq_ok.mp h
    exact require_eq_ok.mp h

theorem soundFor_afterRead (hid : WellIdentified services labels) {call : CopilotReviewCall}
    (hcall : call ∈ reviewCalls labels) (hown : OwnRun services labels run) :
    (ReviewPhase.afterRead services call run).SoundFor services labels s := by
  unfold ReviewPhase.afterRead
  split
  · trivial
  · next hvalid =>
    have hactor := actor_ne_of_validate hvalid
    split
    · exact soundFor_withoutReplay hid hcall hown hactor
    · exact ⟨hcall, hown, hactor⟩

/-- A review is appended. -/
theorem SoundStore.append (h : SoundStore services labels s)
    (hreview : SoundReview services labels review) (happend : s.appendReview review = .ok s') :
    SoundStore services labels s' := by
  have hkeeps := InMemoryCopilotRepository.keepsReviews_of_append happend
  rcases InMemoryCopilotRepository.appendReview_cases happend with
    ⟨-, rfl⟩ | ⟨hnew, hruns, hidempotency, hreviews, hkeys, -⟩
  · exact h
  refine ⟨hruns ▸ h.own, fun run hrun => ?_, hidempotency ▸ h.idempotency, fun runId => ?_,
    fun runId other hother => ?_, fun runId key id hbound => ?_⟩
  · refine (h.evidenced run (hruns ▸ hrun)).imp id ?_
    rintro ⟨other, hother, hposture⟩
    exact ⟨other, (hkeeps.reviews _).subset hother, hposture⟩
  · rw [hreviews]
    split
    · next heq =>
      rw [List.map_append, List.map_singleton, ← List.concat_eq_append, List.nodup_concat]
      refine ⟨fun hmem => ?_, h.distinct runId⟩
      obtain ⟨existing, hexisting, hsameId⟩ := List.mem_map.mp hmem
      exact hnew existing (heq ▸ hexisting) hsameId
    · exact h.distinct runId
  · rw [hreviews] at hother
    split at hother
    · next heq =>
      rcases List.mem_append.mp hother with hother | hother
      · exact h.reviews runId other hother
      · rw [List.mem_singleton.mp hother]
        exact ⟨heq, hreview⟩
    · exact h.reviews runId other hother
  · rw [hkeys] at hbound
    split at hbound
    · next heq =>
      obtain ⟨rfl, hkey⟩ := heq
      refine ⟨review, ?_, Option.some_injective _ hbound, hkey⟩
      rw [hreviews, if_pos rfl]
      exact List.mem_append_right _ (List.mem_singleton_self _)
    · obtain ⟨other, hother, hbinds⟩ := h.bound runId key id hbound
      exact ⟨other, (hkeeps.reviews runId).subset hother, hbinds⟩

/-- An appended review is there, or one with its identifier has been there before. -/
theorem kept_of_append (hid : WellIdentified services labels) (h : SoundStore services labels s)
    (hreview : SoundReview services labels review) (happend : s.appendReview review = .ok s') :
    Kept s' review := by
  rcases InMemoryCopilotRepository.appendReview_cases happend with
    ⟨⟨existing, hexisting, heq⟩, rfl⟩ | ⟨-, -, -, hreviews, -⟩
  · exact ⟨existing, hexisting, heq, (h.reviews _ existing hexisting).2.action_eq hid hreview heq⟩
  · refine ⟨review, ?_, rfl, rfl⟩
    rw [hreviews, if_pos rfl]
    exact List.mem_append_right _ (List.mem_singleton_self _)

theorem getReviewByIdempotency_mem {key : String}
    (h : s.getReviewByIdempotency runId key = some review) : review ∈ s.reviewsOf runId := by
  obtain ⟨_, _, hfind⟩ := Option.bind_eq_some_iff.mp h
  exact List.mem_of_find?_eq_some hfind

/-- A step of a review. -/
theorem sound_review (hid : WellIdentified services labels) (h : SoundStore services labels s)
    {phase : ReviewPhase} (hphase : phase.SoundFor services labels s) :
    SoundStore services labels (phase.advance services s).1 ∧
      KeepsReviews s (phase.advance services s).1 ∧
      (phase.advance services s).2.SoundFor services labels (phase.advance services s).1 := by
  cases phase with
  | reading call =>
    rw [ReviewPhase.advance]
    split
    · exact ⟨h, KeepsReviews.refl, trivial⟩
    · next run hrun =>
      have hown := h.own run (lookup_some hrun).1
      exact ⟨h, KeepsReviews.refl, soundFor_afterRead hid hphase hown⟩
  | lookingUp call key run =>
    rw [ReviewPhase.advance]
    obtain ⟨hcall, hown, hactor⟩ := hphase
    split
    · exact ⟨h, KeepsReviews.refl, soundFor_withoutReplay hid hcall hown hactor⟩
    · next existing hexisting =>
      split
      · exact ⟨h, KeepsReviews.refl, trivial⟩
      · exact ⟨h, KeepsReviews.refl, getReviewByIdempotency_mem hexisting⟩
  | loading call existing =>
    rw [ReviewPhase.advance]
    split
    · exact ⟨h, KeepsReviews.refl, trivial⟩
    · next run hrun =>
      have hrunId := (h.reviews _ existing hphase).1
      exact ⟨h, KeepsReviews.refl, existing, hrunId ▸ hphase, rfl, rfl⟩
  | appending review updated =>
    rw [ReviewPhase.advance]
    obtain ⟨hreview, hupdated⟩ := hphase
    split
    · exact ⟨h, KeepsReviews.refl, trivial⟩
    · next appended happend =>
      exact ⟨h.append hreview happend, InMemoryCopilotRepository.keepsReviews_of_append happend,
        kept_of_append hid h hreview happend, hupdated⟩
  | updating review updated =>
    rw [ReviewPhase.advance]
    obtain ⟨hkept, hown, hrunId, hposture⟩ := hphase
    split
    · exact ⟨h, KeepsReviews.refl, trivial⟩
    · next s' hupdate =>
      have hkeeps := (InMemoryCopilotRepository.sameReviews_of_update hupdate).keeps
      refine ⟨h.update hown (.inr ?_) hupdate, hkeeps, hkept.keeps hkeeps⟩
      -- the stored review with the identifier of this one has its action
      obtain ⟨stored, hstored, -, haction⟩ := hkept
      refine ⟨stored, hrunId ▸ hstored, ?_⟩
      rw [(h.reviews _ stored hstored).2.newPosture, haction, hposture]
  | finished answer => exact ⟨h, KeepsReviews.refl, hphase⟩

namespace ReviewedRuns

variable {state state' : ReviewedRuns} {label : ReviewLabel}

theorem inv_start : Inv services labels {} where
  store := {
    own _ hrun := nomatch hrun
    evidenced _ hrun := nomatch hrun
    idempotency _ hrecord := nomatch hrecord
    distinct _ := List.nodup_nil
    reviews _ _ hreview := nomatch hreview
    bound _ _ _ hbound := nomatch hbound }
  threads _ hthread := nomatch hthread

theorem Inv.concat (h : Inv services labels state) {thread : ReviewThread}
    (hthread : thread.SoundFor services labels state.store) :
    Inv services labels { state with threads := state.threads ++ [thread] } where
  store := h.store
  threads other hother := by
    rcases List.mem_append.mp hother with hother | hother
    · exact h.threads other hother
    · rwa [List.mem_singleton.mp hother]

/-- A thread has taken a step. -/
theorem Inv.set (h : Inv services labels state) {index : ℕ} {thread : ReviewThread}
    (hstore : SoundStore services labels s) (hkeeps : KeepsReviews state.store s)
    (hthread : thread.SoundFor services labels s) :
    Inv services labels ⟨s, state.threads.set index thread⟩ where
  store := hstore
  threads other hother := by
    rcases List.mem_or_eq_of_mem_set hother with hother | rfl
    · exact (h.threads other hother).keeps hkeeps
    · exact hthread

/-- Every step keeps the invariant, and the reviews. -/
theorem inv_step (hid : WellIdentified services labels) (h : Inv services labels state)
    (hlabel : label ∈ labels) (hstep : state.step services label = some state') :
    Inv services labels state' ∧ KeepsReviews state.store state'.store := by
  cases label with
  | persist call =>
    obtain rfl := Option.some_injective _ hstep
    have hcall : call ∈ persistCalls labels := List.mem_filterMap.mpr ⟨_, hlabel, rfl⟩
    exact ⟨h.concat (soundFor_persist hcall), KeepsReviews.refl⟩
  | review call =>
    obtain rfl := Option.some_injective _ hstep
    have hcall : call ∈ reviewCalls labels := List.mem_filterMap.mpr ⟨_, hlabel, rfl⟩
    refine ⟨h.concat ?_, KeepsReviews.refl⟩
    change (ReviewPhase.start services call).SoundFor services labels state.store
    unfold ReviewPhase.start
    split
    · trivial
    · exact hcall
  | advance index =>
    unfold step at hstep
    dsimp only at hstep
    split at hstep
    · cases hstep
    · next phase hphase =>
      obtain rfl := Option.some_injective _ hstep
      obtain ⟨hstore, hkeeps, hsound⟩ :=
        sound_persist h.store (h.threads _ (List.mem_of_getElem? hphase))
      exact ⟨h.set hstore hkeeps hsound, hkeeps⟩
    · next phase hphase =>
      obtain rfl := Option.some_injective _ hstep
      obtain ⟨hstore, hkeeps, hsound⟩ :=
        sound_review hid h.store (h.threads _ (List.mem_of_getElem? hphase))
      exact ⟨h.set hstore hkeeps hsound, hkeeps⟩

/-- A run that starts under the invariant keeps it, and the reviews. -/
theorem inv_run (hid : WellIdentified services labels) {later : List ReviewLabel}
    (h : Inv services labels state) (hlater : ∀ label ∈ later, label ∈ labels)
    (hrun : Runs.run (step services) state later = some state') :
    Inv services labels state' ∧ KeepsReviews state.store state'.store := by
  have hsteps : EveryStep (step services) (fun _ label _ => label ∈ labels) state later :=
    everyStep_of_labels fun label hlabel _ _ => hlater label hlabel
  refine invariant_of_everyStep
    (I := fun reached => Inv services labels reached ∧ KeepsReviews state.store reached.store)
    (fun before label after hbefore hstep hlabel => ?_) ⟨h, KeepsReviews.refl⟩ hsteps hrun
  obtain ⟨hafter, hkeeps⟩ := inv_step hid hbefore.1 hlabel hstep
  exact ⟨hafter, hbefore.2.trans hkeeps⟩

theorem accountable_of_inv (h : Inv services labels state) :
    Accountable services labels state where
  distinct := h.store.distinct
  decides runId review hreview := by
    obtain ⟨hrunId, hsound⟩ := h.store.reviews runId review hreview
    exact ⟨hrunId, hsound.previousPosture, hsound.newPosture⟩
  makerChecker run hrun review hreview := by
    obtain ⟨hrunId, hsound⟩ := h.store.reviews run.runId review hreview
    obtain ⟨call, hcall, hreviewId, -, hactorId, hmakers⟩ := hsound.asked
    exact ⟨call, hcall, hreviewId, hactorId, hmakers run (h.store.own run hrun) hrunId.symm⟩
  evidenced := h.store.evidenced
  bound := h.store.bound
  answered result hresult := h.threads _ hresult

end ReviewedRuns

end Invariant

/-- Whatever reviews and calls that persist runs do, reviews stay as they are, in their order and
under their keys, none is by a requester of its run, and a decision that is stored has a review. -/
theorem reviews_accountable (services : CopilotServices) (labels : List ReviewLabel)
    (hid : WellIdentified services labels) (state : ReviewedRuns)
    (hrun : run (ReviewedRuns.step services) {} labels = some state) :
    Accountable services labels state ∧
      ∀ before after earlier, labels = before ++ after →
        run (ReviewedRuns.step services) {} before = some earlier →
          KeepsReviews earlier.store state.store := by
  have hinv := ReviewedRuns.inv_run hid ReviewedRuns.inv_start (fun _ hlabel => hlabel) hrun
  refine ⟨ReviewedRuns.accountable_of_inv hinv.1, fun before after earlier hsplit hbefore => ?_⟩
  subst hsplit
  obtain ⟨reached, hreached, hafter⟩ := run_append_eq_some.mp hrun
  obtain rfl := Option.some_injective _ (hreached.symm.trans hbefore)
  have hreachedInv := ReviewedRuns.inv_run hid ReviewedRuns.inv_start
    (fun _ hlabel => List.mem_append_left _ hlabel) hreached
  exact (ReviewedRuns.inv_run hid hreachedInv.1
    (fun _ hlabel => List.mem_append_right _ hlabel) hafter).2

namespace Sample

/-- Requests of reviews are told apart by who makes them. -/
def reviewServices : CopilotServices :=
  { copilotServices with
    sha256 := fun json =>
      match json with
      | .obj fields =>
        match JsonObject.get fields "actor_id" with
        | .str actorId => actorId
        | _ => "1"
      | _ => "0" }

def reviewBy (actorId idempotencyKey : String) (action : CopilotReviewAction) :
    CopilotReviewCall where
  runId := "copilot_run_sha256:1"
  action := action
  principal := {
    actorId
    role := "COMPLIANCE_REVIEWER"
    tenantId := "tenant-sg-001"
    legalEntityCode := "LE-SG"
    correlationId := "corr_2"
    serviceIdentity := "gateway"
    authorizedProposalId := some "pp_1"
    authorizedPortfolioId := some "pf_1" }
  reason := []
  correlationId := "corr_2"
  idempotencyKey := some idempotencyKey
  now := Proposals.Sample.clock 1

/-- Two reviewers read the same run, and both of their reviews are appended. The second call of the
first one finds its review. -/
def twoReviews : List ReviewLabel := [
  .persist (askBy "advisor_1" "key-1" "REVIEW_REQUIRED" 0), .advance 0, .advance 0,
  .review (reviewBy "reviewer_1" "key-2" .approveForInternalUse), .advance 1, .advance 1,
  .review (reviewBy "reviewer_2" "key-3" .reject), .advance 2, .advance 2, .advance 2, .advance 1,
  .advance 2, .advance 1,
  .review (reviewBy "reviewer_1" "key-2" .approveForInternalUse), .advance 3, .advance 3,
  .advance 3]

end Sample

open Sample in
/-- The theorem at two reviews of one run. -/
theorem reviews_accountable_two : ∃ state,
    run (ReviewedRuns.step reviewServices) {} twoReviews = some state ∧
      Accountable reviewServices twoReviews state ∧
      (state.store.reviewsOf "copilot_run_sha256:1").map AdvisoryCopilotReviewRecord.newPosture =
        [.rejected, .approvedForInternalUse] := by
  have hrun : (run (ReviewedRuns.step reviewServices) {} twoReviews).map
      (fun state => (state.store.reviewsOf "copilot_run_sha256:1").map
        AdvisoryCopilotReviewRecord.newPosture) =
      some [.rejected, .approvedForInternalUse] := by decide +kernel
  obtain ⟨state, hstate, hpostures⟩ := Option.map_eq_some_iff.mp hrun
  have hid : WellIdentified reviewServices twoReviews := ⟨by decide +kernel, by decide +kernel⟩
  exact ⟨state, hstate, (reviews_accountable reviewServices twoReviews hid state hstate).1,
    hpostures⟩

end LotusAdvise.AdvisoryCopilot
